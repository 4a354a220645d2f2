import Scaffold.Files.Path
import Scaffold.Text.Encoding
import Scaffold.Text.Ordered

/-!
# File trees

A tree holds directories and files under their locations, which are the lists of names from the
root, and the location of the working directory. Following a path needs a directory in front of
every name. Reading and writing fail with a `Failure`.

Main statements: `get?_put_self` and `get?_put_of_ne` (writing at a location changes what is
there and nothing else).
-/

namespace Scaffold.Files

open Text

/-! ## Contents -/

/-- What is in a file. -/
inductive Content where
  /-- A text, in UTF-8. -/
  | text (s : String)
  /-- Bytes. -/
  | bytes (b : Bytes)
  deriving DecidableEq

/-- A text with every line end written as a newline character: carriage returns, alone or before
a newline character, are line ends too. -/
def unifyLineEnds : List Char → List Char
  | [] => []
  | '\r' :: '\n' :: rest => '\n' :: unifyLineEnds rest
  | c :: rest => (if c = '\r' then '\n' else c) :: unifyLineEnds rest

/-- The text in a file. -/
def Content.read : Content → Except Undecodable (List Char)
  | .text s => .ok (unifyLineEnds s.toList)
  | .bytes b => (decodeUtf8 0 b).map unifyLineEnds

/-! ## Trees -/

/-- The names from the root to a place. -/
abbrev Location := List String

/-- What is at a location. -/
inductive Entry where
  /-- A directory. -/
  | directory
  /-- A file. -/
  | file (content : Content)
  deriving DecidableEq

/-- Why a file operation fails. -/
inductive Failure where
  /-- There is nothing at the place. -/
  | notFound
  /-- A name has to be looked up in something that is no directory. -/
  | notDirectory
  /-- The place is a directory. -/
  | directory
  /-- There is something at the place already. -/
  | alreadyThere
  /-- A name or the whole path is too long. -/
  | tooLong
  /-- The path holds a zero character. -/
  | zeroCharacter
  deriving DecidableEq

/-- The wording of a failure. -/
def Failure.message : Failure → String
  | .notFound => "No such file or directory"
  | .notDirectory => "Not a directory"
  | .directory => "Is a directory"
  | .alreadyThere => "File exists"
  | .tooLong => "File name too long"
  | .zeroCharacter => "embedded null byte"

/-- A file tree. -/
structure Tree where
  /-- The location of the working directory. -/
  home : Location
  /-- What is in the tree, besides the root. -/
  entries : List (Location × Entry)

namespace Tree

/-- What is at a location; the root is a directory. -/
def get? (t : Tree) (l : Location) : Option Entry :=
  if l = [] then some .directory else t.entries.lookup l

/-- The entries after something is put at a location. -/
def putEntry (l : Location) (e : Entry) : List (Location × Entry) → List (Location × Entry)
  | [] => [(l, e)]
  | (k, f) :: rest => if k = l then (l, e) :: rest else (k, f) :: putEntry l e rest

/-- The tree with something put at a location. -/
def put (t : Tree) (l : Location) (e : Entry) : Tree :=
  { t with entries := putEntry l e t.entries }

theorem lookup_putEntry_self (l : Location) (e : Entry) (entries : List (Location × Entry)) :
    (putEntry l e entries).lookup l = some e := by
  induction entries with
  | nil => simp [putEntry]
  | cons f rest ih =>
    obtain ⟨k, f⟩ := f
    simp only [putEntry]
    split
    · simp
    · next h => simp [List.lookup_cons, ih, beq_false_of_ne (Ne.symm h)]

theorem lookup_putEntry_of_ne {k l : Location} (h : k ≠ l) (e : Entry)
    (entries : List (Location × Entry)) :
    (putEntry l e entries).lookup k = entries.lookup k := by
  induction entries with
  | nil => simp [putEntry, List.lookup_cons, beq_false_of_ne h]
  | cons f rest ih =>
    obtain ⟨m, f⟩ := f
    simp only [putEntry]
    split
    · next hm => simp [List.lookup_cons, hm, beq_false_of_ne h]
    · simp [List.lookup_cons, ih]

theorem get?_put_self {l : Location} (h : l ≠ []) (t : Tree) (e : Entry) :
    (t.put l e).get? l = some e := by
  simp [get?, put, h, lookup_putEntry_self]

theorem get?_put_of_ne {k l : Location} (h : k ≠ l) (t : Tree) (e : Entry) :
    (t.put l e).get? k = t.get? k := by
  simp [get?, put, lookup_putEntry_of_ne h]

/-- The tree that has nothing but the working directory and the directories that lead to it. -/
def empty (home : Location) : Tree where
  home := home
  entries := (List.range home.length).map fun n => (home.take (n + 1), .directory)

/-! ## Following paths -/

/-- The greatest number of bytes in a name. -/
def maxNameBytes : Nat := 255

/-- The greatest number of bytes in a path. -/
def maxPathBytes : Nat := 4095

/-- The location that names lead to. There has to be a directory in front of every name, but
nothing behind the last. -/
def walk (t : Tree) (l : Location) : List String → Except Failure Location
  | [] => .ok l
  | name :: rest =>
    match t.get? l with
    | none => .error .notFound
    | some (.file _) => .error .notDirectory
    | some .directory =>
      if name = ".." then t.walk l.dropLast rest
      else if maxNameBytes < name.utf8ByteSize then .error .tooLong
      else t.walk (l ++ [name]) rest

/-- The location where a path starts. -/
def origin (t : Tree) : Start → Location
  | .here => t.home
  | _ => []

/-- The location that a path leads to. -/
def locate (t : Tree) (p : Path) : Except Failure Location :=
  if '\x00' ∈ p.text.toList then .error .zeroCharacter
  else if maxPathBytes < p.text.utf8ByteSize then .error .tooLong
  else t.walk (t.origin p.start) p.names

/-- What a path leads to, if it leads anywhere. A path that is too long cannot be asked about. -/
def find (t : Tree) (p : Path) : Except Failure (Option Entry) :=
  match t.locate p with
  | .ok l => .ok (t.get? l)
  | .error .tooLong => .error .tooLong
  | .error _ => .ok none

/-- The absolute location of a path, found without looking at directories. -/
def absolute (t : Tree) (p : Path) : Path :=
  { start := if p.start = .doubleRoot then .doubleRoot else .root
    names := Path.resolve (t.origin p.start ++ p.names) }

/-! ## Reading and writing -/

/-- The content of a file. -/
def read (t : Tree) (p : Path) : Except Failure Content := do
  match t.get? (← t.locate p) with
  | none => .error .notFound
  | some .directory => .error .directory
  | some (.file content) => .ok content

/-- Writes a file. -/
def write (t : Tree) (p : Path) (content : Content) : Except Failure Tree := do
  let l ← t.locate p
  if t.get? l = some .directory then .error .directory else .ok (t.put l (.file content))

/-- Makes sure that there is a file: a new one is empty. -/
def touch (t : Tree) (p : Path) : Except Failure Tree := do
  let l ← t.locate p
  match t.get? l with
  | none => .ok (t.put l (.file (.text "")))
  | some .directory => .error .directory
  | some (.file _) => .ok t

/-- Makes a directory in one that is there. -/
def makeDirectory (t : Tree) (p : Path) : Except Failure Tree := do
  let l ← t.locate p
  match t.get? l with
  | none => .ok (t.put l .directory)
  | some _ => .error .alreadyThere

/-- Makes sure that there is a directory, in one that is there. -/
def ensureDirectory (t : Tree) (p : Path) : Except Failure Tree :=
  match t.makeDirectory p with
  | .error .alreadyThere =>
    match t.find p with
    | .ok (some .directory) => .ok t
    | _ => .error .alreadyThere
  | r => r

/-- Makes sure that there is a directory, and all that lead to it, where the names are given
backwards. Directories are made only where one is missing. -/
def ensureUpward (t : Tree) (start : Start) : List String → Except Failure Tree
  | [] => t.ensureDirectory ⟨start, []⟩
  | name :: up =>
    let p : Path := ⟨start, (name :: up).reverse⟩
    match t.ensureDirectory p with
    | .error .notFound => do (← t.ensureUpward start up).ensureDirectory p
    | r => r

/-- Makes sure that there is a directory, and all that lead to it. -/
def ensureDirectories (t : Tree) (p : Path) : Except Failure Tree :=
  t.ensureUpward p.start p.names.reverse

/-- Writes a file and makes the directories that lead to it. -/
def place (t : Tree) (p : Path) (content : Content) : Except Failure Tree := do
  (← t.ensureDirectories p.parent).write p content

/-! ## Listing -/

/-- The names from a location to another one below it. -/
def below? (base : Location) (l : Location) : Option (List String) :=
  if base.isPrefixOf l && base ≠ l then some (l.drop base.length) else none

/-- The files below the working directory, in order. -/
def files (t : Tree) : List String :=
  ordered <| t.entries.filterMap fun
    | (l, .file _) => (below? t.home l).map (joinTexts "/")
    | (_, .directory) => none

end Tree

end Scaffold.Files
