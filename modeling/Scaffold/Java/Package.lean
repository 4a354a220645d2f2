import Scaffold.Text.Split

/-!
# Names of packages

A package name is a sequence of segments with dots between them. A segment is a letter or an
underscore, followed by letters, digits and underscores, all of ASCII. One newline character
behind the name does not count.

Main statement: `isPackage_iff` (the segments decide).
-/

namespace Scaffold.Java

open Text

/-- Whether a character can start a segment. -/
def startsSegment (c : Char) : Bool := c.isAlpha || c = '_'

/-- Whether a character can stand in a segment. -/
def inSegment (c : Char) : Bool := c.isAlphanum || c = '_'

/-- Whether a text is a segment of a package name. -/
def isSegment : List Char → Bool
  | [] => false
  | c :: rest => startsSegment c && rest.all inSegment

/-- A text without one newline character at its end. -/
def dropFinalNewline (s : List Char) : List Char :=
  if s.getLast? = some '\n' then s.dropLast else s

/-- Whether a text is the name of a package. -/
def isPackage (s : String) : Bool := (splitOn '.' (dropFinalNewline s.toList)).all isSegment

/-- The wording for a text that should be the name of a package and is not. -/
def packageComplaint (s : String) : String := s!"'{s}' is not a valid Java package name"

theorem isPackage_iff (s : String) :
    isPackage s = true ↔
      ∀ segment ∈ splitOn '.' (dropFinalNewline s.toList), isSegment segment = true := by
  simp [isPackage]

end Scaffold.Java
