import Scaffold.Text.Blank

/-!
# Environment files

An environment file gives values to variables, one a line: `NAME=value`, with `export` in front
if one likes. A name or a value may be quoted, and a quoted one may run over several lines. What
follows a blank and a hash is a comment. A line that is not understood is left out. A value may
refer to a variable with `${NAME}`, or `${NAME:-default}` with a value for one that has none.

Main statement: `unescape_eq_self` (a text without backslashes has no escapes).
-/

namespace Scaffold.EnvironmentFile

open Text

/-! ## Quoted texts -/

/-- The text before the closing quote, and what follows the quote. A backslash keeps the character
behind it from closing. -/
def beforeQuote (quote : Char) : List Char → Option (List Char × List Char)
  | [] => none
  | '\\' :: c :: rest => (beforeQuote quote rest).map fun p => ('\\' :: c :: p.1, p.2)
  | c :: rest =>
    if c = quote then some ([], rest) else (beforeQuote quote rest).map fun p => (c :: p.1, p.2)

/-- What a character stands for behind a backslash in single quotes. -/
def singleEscape (c : Char) : Option Char := if c = '\\' || c = '\'' then some c else none

/-- What a character stands for behind a backslash in double quotes. -/
def doubleEscape : Char → Option Char
  | '\\' => some '\\'
  | '\'' => some '\''
  | '"' => some '"'
  | 'a' => some '\x07'
  | 'b' => some '\x08'
  | 'f' => some '\x0c'
  | 'n' => some '\n'
  | 'r' => some '\r'
  | 't' => some '\t'
  | 'v' => some '\x0b'
  | _ => none

/-- The text with the escapes replaced. -/
def unescape (escape : Char → Option Char) : List Char → List Char
  | [] => []
  | '\\' :: c :: rest =>
    match escape c with
    | some d => d :: unescape escape rest
    | none => '\\' :: unescape escape (c :: rest)
  | c :: rest => c :: unescape escape rest

theorem unescape_eq_self {escape : Char → Option Char} {s : List Char} (h : '\\' ∉ s) :
    unescape escape s = s := by
  fun_induction unescape escape s <;> simp_all

/-! ## Lines -/

/-- Whether a character can stand between the parts of a line. -/
def isGap (c : Char) : Bool := isBlank c && c ≠ '\n'

/-- The text behind the word `export` and a gap, if it starts with them. -/
def behindExport (s : List Char) : List Char :=
  if "export".toList.isPrefixOf s && ((s.drop 6).head?).any isGap then (s.drop 6).dropWhile isGap
  else s

/-- Whether a character can stand in a name that is not quoted. -/
def isNameChar (c : Char) : Bool := c ≠ '=' && c ≠ '#' && !isBlank c

/-- A reader returns what it read and the text behind it, or where the text cannot be understood. -/
abbrev Reader (α : Type) := List Char → Except (List Char) (α × List Char)

/-- Reads a name; a comment has none. -/
def readName : Reader (Option (List Char))
  | '#' :: rest => .ok (none, '#' :: rest)
  | '\'' :: rest =>
    match rest.takeWhile (· ≠ '\''), rest.dropWhile (· ≠ '\'') with
    | c :: name, _ :: after => .ok (some (c :: name), after)
    | _, _ => .error ('\'' :: rest)
  | s =>
    match s.takeWhile isNameChar with
    | [] => .error s
    | name => .ok (some name, s.dropWhile isNameChar)

/-- The text before a hash that follows a blank. -/
def beforeComment (behindBlank : Bool) : List Char → List Char
  | [] => []
  | c :: rest =>
    if behindBlank && c = '#' then [] else c :: beforeComment (isBlank c) rest

/-- Reads a value, behind a gap or not. -/
def readValue (behindGap : Bool) : Reader (List Char)
  | '\'' :: rest =>
    match beforeQuote '\'' rest with
    | some (s, after) => .ok (unescape singleEscape s, after)
    | none => .error ('\'' :: rest)
  | '"' :: rest =>
    match beforeQuote '"' rest with
    | some (s, after) => .ok (unescape doubleEscape s, after)
    | none => .error ('"' :: rest)
  | s =>
    .ok (dropWhileEnd isBlank (beforeComment behindGap (s.takeWhile (· ≠ '\n'))),
      s.dropWhile (· ≠ '\n'))

/-- Reads an equals sign and a value, if there is a sign. -/
def readAssigned (s : List Char) : Except (List Char) (Option (List Char) × List Char) :=
  match s.dropWhile isGap with
  | '=' :: rest =>
    (readValue (rest.head?.any isGap) (rest.dropWhile isGap)).map fun p => (some p.1, p.2)
  | rest => .ok (none, rest)

/-- The text behind a comment, if it starts with one. -/
def behindComment (s : List Char) : List Char :=
  if (s.dropWhile isGap).head? = some '#' then s.dropWhile (· ≠ '\n') else s

/-- The text behind the end of a line. -/
def behindLine (s : List Char) : Except (List Char) (List Char) :=
  match s.dropWhile isGap with
  | [] => .ok []
  | '\n' :: rest => .ok rest
  | _ => .error s

/-- A variable and the value that a file gives to it, if it gives one. -/
abbrev Assignment := String × Option (List Char)

/-- Reads a line; one without a name is a comment. -/
def readLine : Reader (Option Assignment) := fun s => do
  match s.dropWhile isBlank with
  | [] => return (none, [])
  | s =>
    let (name, s) ← readName (behindExport s)
    let (value, s) ← readAssigned s
    let s ← behindLine (behindComment s)
    return (name.map fun n => (String.ofList n, value), s)

/-- Reads a line, or leaves it out. -/
def nextLine (s : List Char) : Option Assignment × List Char :=
  match readLine s with
  | .ok p => p
  | .error rest => (none, (rest.dropWhile (· ≠ '\n')).drop 1)

/-- The assignments in some lines, in order. -/
def assignments (s : List Char) : List Assignment :=
  let line := nextLine s
  line.1.toList ++ if line.2.length < s.length then assignments line.2 else []
termination_by s.length

/-! ## References -/

/-- A reference to a variable at the start of a text: its name, the value if it has none, and the
text behind the reference. -/
def reference? : List Char → Option (List Char × List Char × List Char)
  | '$' :: '\x7b' :: s =>
    let isInside (c : Char) : Bool := c ≠ '\x7d' && c ≠ ':'
    match s.dropWhile isInside with
    | '\x7d' :: rest => some (s.takeWhile isInside, [], rest)
    | ':' :: '-' :: t =>
      match t.dropWhile (· ≠ '\x7d') with
      | _ :: rest => some (s.takeWhile isInside, t.takeWhile (· ≠ '\x7d'), rest)
      | [] => none
    | _ => none
  | _ => none

theorem length_lt_of_reference? {s name default after : List Char}
    (h : reference? s = some (name, default, after)) : after.length < s.length := by
  unfold reference? at h
  split at h
  · next s =>
    simp only at h
    split at h
    · next rest hs =>
      obtain ⟨_, _, rfl⟩ : _ ∧ _ ∧ rest = after := by simpa using h
      have := (List.dropWhile_sublist (l := s) fun c => c ≠ '\x7d' && c ≠ ':').length_le
      simp only [hs, List.length_cons] at *
      omega
    · next t hs =>
      split at h
      · next c rest ht =>
        obtain ⟨_, _, rfl⟩ : _ ∧ _ ∧ rest = after := by simpa using h
        have h1 := (List.dropWhile_sublist (l := s) fun c => c ≠ '\x7d' && c ≠ ':').length_le
        have h2 := (List.dropWhile_sublist (l := t) fun c => c ≠ '\x7d').length_le
        simp only [hs, ht, List.length_cons] at *
        omega
      · cases h
    · cases h
  · cases h

/-- The text with the references replaced, where `value` gives the values of variables; a variable
may be known and have none. -/
def expand (value : String → Option (Option String)) (s : List Char) : List Char :=
  match s with
  | [] => []
  | c :: rest =>
    match _h : reference? (c :: rest) with
    | none => c :: expand value rest
    | some (name, default, after) =>
      (match value (String.ofList name) with
        | some known => (known.getD "").toList
        | none => default) ++ expand value after
termination_by s.length
decreasing_by
  · simp
  · exact length_lt_of_reference? (by assumption)

/-- The text without a byte order mark in front. -/
def withoutMark : List Char → List Char
  | '\ufeff' :: rest => rest
  | s => s

/-- The values that a file gives to variables. A reference is to a variable of the environment, or
to one that the file gave a value to before. -/
def values (environment : List (String × String)) (s : List Char) :
    List (String × Option String) :=
  (assignments (withoutMark s)).foldl (fun done a =>
    let known (name : String) : Option (Option String) :=
      ((environment.lookup name).map some).or ((done.reverse.lookup name))
    done ++ [(a.1, a.2.map fun v => String.ofList (expand known v))]) []

end Scaffold.EnvironmentFile
