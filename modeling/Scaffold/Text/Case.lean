import Scaffold.Text.CaseTable

/-!
# Upper and lower case

Full case mappings: the image of a character may have several characters, and a capital sigma
becomes a final sigma where it ends a word. `upper` and `lower` are defined on character lists.
ASCII characters are mapped by the core library, the others by the tables.

Main statements: `upperChar_of_ascii` and `lowerChar_of_ascii` (on ASCII the image is the one
character that the core library gives).
-/

namespace Scaffold.Text

/-- The image of a character under a table of runs and a table of longer images; a character that
neither lists is its own image. -/
def mapCase (runs : List CaseRun) (expansions : List (Nat × List Nat)) (c : Char) : List Char :=
  match expansions.lookup c.toNat with
  | some image => image.map Char.ofNat
  | none => [((runs.findSome? (·.image? c.toNat)).map Char.ofNat).getD c]

/-- The upper-case image of a character. -/
def upperChar (c : Char) : List Char :=
  if c.val < 0x80 then [c.toUpper] else mapCase upperRuns upperExpansions c

/-- The lower-case image of a character that stands alone. -/
def lowerChar (c : Char) : List Char :=
  if c.val < 0x80 then [c.toLower] else mapCase lowerRuns lowerExpansions c

theorem upperChar_of_ascii {c : Char} (h : c.val < 0x80) : upperChar c = [c.toUpper] := by
  simp [upperChar, h]

theorem lowerChar_of_ascii {c : Char} (h : c.val < 0x80) : lowerChar c = [c.toLower] := by
  simp [lowerChar, h]

/-- Whether a character belongs to one of the ranges. -/
def inRanges (ranges : List (Nat × Nat)) (c : Char) : Bool :=
  ranges.any fun r => r.1 ≤ c.toNat && c.toNat ≤ r.2

/-- Whether a list starts, after ignorable characters, with a cased letter. -/
def meetsLetter (s : List Char) : Bool :=
  match s.dropWhile (inRanges caseIgnorableRanges) with
  | [] => false
  | c :: _ => inRanges casedRanges c

/-- The small form of a capital sigma between the given neighbours, the nearest first on either
side: final where a letter comes before it and none follows. -/
def lowerSigma (before after : List Char) : Char :=
  if meetsLetter before && !meetsLetter after then 'ς' else 'σ'

/-- The lower-case image of a text that follows the characters `before`, nearest first. -/
def lowerAfter (before : List Char) : List Char → List Char
  | [] => []
  | c :: rest =>
    (if c = 'Σ' then [lowerSigma before rest] else lowerChar c) ++ lowerAfter (c :: before) rest

/-- The upper-case image of a text. -/
def upper (s : List Char) : List Char := s.flatMap upperChar

/-- The lower-case image of a text. -/
def lower (s : List Char) : List Char := lowerAfter [] s

/-- The upper-case image of a string. -/
def toUpper (s : String) : String := String.ofList (upper s.toList)

/-- The lower-case image of a string. -/
def toLower (s : String) : String := String.ofList (lower s.toList)

end Scaffold.Text
