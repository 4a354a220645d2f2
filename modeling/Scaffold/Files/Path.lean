import Scaffold.Text.Split

/-!
# Paths

A path leads from the working directory or from the root over a list of names. Reading one from
text drops empty names and single dots; two dots stay, since what they lead to depends on the
directories that are there. `Path.resolve` takes them back without looking at directories.

Main statement: `names_join` (a relative path continues the path that it is joined to).
-/

namespace Scaffold.Files

open Text

/-- Where a path starts. -/
inductive Start where
  /-- At the working directory. -/
  | here
  /-- At the root. -/
  | root
  /-- At the root, written with two slashes. -/
  | doubleRoot
  deriving DecidableEq

/-- The text of a start. -/
def Start.text : Start → String
  | .here => ""
  | .root => "/"
  | .doubleRoot => "//"

/-- A path: where it starts, and the names on the way. -/
structure Path where
  /-- Where the path starts. -/
  start : Start := .here
  /-- The names on the way. -/
  names : List String := []
  deriving DecidableEq

namespace Path

/-- The start of a path in text. Three slashes and more count as one. -/
def startOf : List Char → Start
  | '/' :: '/' :: '/' :: _ => .root
  | '/' :: '/' :: _ => .doubleRoot
  | '/' :: _ => .root
  | _ => .here

/-- Whether a piece of text between slashes is a name. -/
def isName (piece : List Char) : Bool := piece ≠ [] && piece ≠ ['.']

/-- Reads a path. -/
def ofText (s : String) : Path :=
  ⟨startOf s.toList, ((splitOn '/' s.toList).filter isName).map String.ofList⟩

/-- The text of a path; the working directory itself is a dot. -/
def text (p : Path) : String :=
  if p.start = .here ∧ p.names = [] then "." else p.start.text ++ joinTexts "/" p.names

/-- A path followed by another one; one that starts at the root does not follow. -/
def join (p q : Path) : Path :=
  match q.start with
  | .here => ⟨p.start, p.names ++ q.names⟩
  | _ => q

/-- The path without its last name. -/
def parent (p : Path) : Path := { p with names := p.names.dropLast }

/-- The names that are left when two dots take back the name before them. -/
def resolve (names : List String) : List String :=
  names.foldl (fun done name => if name = ".." then done.dropLast else done ++ [name]) []

theorem names_join {p q : Path} (h : q.start = .here) :
    (p.join q).names = p.names ++ q.names := by
  simp [join, h]

end Path

end Scaffold.Files
