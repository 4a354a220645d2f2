import Scaffold.Log.Conversion
import Scaffold.Text.Digit

/-!
# Layouts of log records

A layout says how a record is written. It is a text in which a percent sign, a name in parentheses
and a conversion stand for a part of the record, and two percent signs for one. A text in which no
such part can be seen is no layout. There are also layouts that no record can be written with,
because there is no part of a name or because a conversion does not fit its part.

Main statement: `write_usual` (the usual layout shows level, logger and message).
-/

namespace Scaffold.Log

/-- A piece of a layout. -/
inductive Piece where
  /-- A character. -/
  | char (c : Char)
  /-- A part of the record, by its name. -/
  | part (name : String) (conversion : Conversion)
  /-- A percent sign that no record can be written with. -/
  | broken
  deriving DecidableEq

/-- A layout. -/
abbrev Layout := List Piece

namespace Layout

/-! ## Reading -/

/-- The characters that are flags. -/
def flagChars : List Char := ['-', '+', ' ', '#', '0']

/-- The name up to a closing parenthesis, which may hold pairs of them, and the text behind it. -/
def name? (depth : Nat) : List Char → Option (List Char × List Char)
  | [] => none
  | c :: rest =>
    if c = ')' ∧ depth = 0 then some ([], rest)
    else
      (name? (if c = ')' then depth - 1 else if c = '(' then depth + 1 else depth) rest).map
        fun p => (c :: p.1, p.2)

/-- The number at the start of a text, if there is one, and the text behind it. -/
def measure (s : List Char) : Option Nat × List Char :=
  match s.takeWhile Char.isDigit with
  | [] => (none, s)
  | digits =>
    (some (Text.ofDigits 10 (digits.map fun c => c.toNat - 0x30)), s.dropWhile Char.isDigit)

/-- The precision behind a point, if there is one, and the text behind it. -/
def precision (s : List Char) : Option Nat × List Char :=
  match s with
  | '.' :: rest => (some ((measure rest).1.getD 0), (measure rest).2)
  | _ => (none, s)

/-- The text without a letter for the size of numbers, which does not count. -/
def withoutSize : List Char → List Char
  | 'h' :: rest => rest
  | 'l' :: rest => rest
  | 'L' :: rest => rest
  | s => s

/-- The greatest width and precision. -/
def maxMeasure : Nat := 2147483647

/-- The conversion at the start of a text, and the text behind it. -/
def conversion? (s : List Char) : Option (Conversion × List Char) :=
  let (width, rest) := measure (s.dropWhile flagChars.contains)
  let (precision, rest) := precision rest
  match withoutSize rest with
  | letter :: rest =>
    if max (width.getD 0) (precision.getD 0) ≤ maxMeasure then
      (Form.ofLetter? letter).map fun form =>
        (⟨s.takeWhile flagChars.contains, width.getD 0, precision, form⟩, rest)
    else none
  | [] => none

/-- The pieces of a text. -/
def pieces (s : List Char) : Layout :=
  match s with
  | [] => []
  | '%' :: '%' :: rest => .char '%' :: pieces rest
  | '%' :: '(' :: rest =>
    match (name? 0 rest).bind fun p => (conversion? p.2).map fun q => (p.1, q) with
    | some (name, conversion, after) =>
      .part (String.ofList name) conversion ::
        if after.length ≤ rest.length then pieces after else []
    | none => [.broken]
  | '%' :: _ => [.broken]
  | c :: rest => .char c :: pieces rest
termination_by s.length
decreasing_by all_goals (simp only [List.length_cons]; omega)

/-- Whether a character can stand in a name that can be seen. -/
def isNameChar (c : Char) : Bool :=
  c.isAlphanum || c = '_' || (0x80 ≤ c.toNat && Text.isPrintable c)

/-- The letters of conversions that can be seen, in small letters. -/
def letters : List Char := "diouxefgcrsa%ſıİ".toList

/-- The text behind a measure of digits of any script, if there is one. -/
def behindMeasure? (s : List Char) : Option (List Char) :=
  match s with
  | '*' :: rest => some rest
  | _ => if s.head?.any Text.isDigit then some (s.dropWhile Text.isDigit) else none

/-- Whether a text starts with a part that can be seen. -/
def startsWithPart : List Char → Bool
  | '%' :: '(' :: s =>
    match s.takeWhile isNameChar, s.dropWhile isNameChar with
    | _ :: _, ')' :: rest =>
      let rest := rest.dropWhile flagChars.contains
      let rest := (behindMeasure? rest).getD rest
      let rest :=
        match rest with
        | '.' :: more => (behindMeasure? more).getD rest
        | _ => rest
      rest.head?.any fun c => letters.contains c.toLower
    | _, _ => false
  | _ => false

/-- Whether a part can be seen in a text. -/
def showsPart : List Char → Bool
  | [] => false
  | c :: rest => startsWithPart (c :: rest) || showsPart rest

/-- Reads a layout; a part has to be seen in it. -/
def ofText? (s : String) : Option Layout :=
  if showsPart s.toList then some (pieces s.toList) else none

/-! ## Writing -/

/-- A part of the record as it is. -/
def plain (name : String) : Piece := .part name {}

/-- The usual layout. -/
def usual : Layout :=
  [plain "levelname", .char ' ', plain "name", .char ':', .char ' ', plain "message"]

/-- The layout of records of other programs. -/
def bare : Layout := [plain "message"]

/-- A piece of a record in writing, if it can be written. -/
def writePiece (r : Record) : Piece → Option (List Char)
  | .char c => some [c]
  | .part name conversion => (r.part? name).bind conversion.write
  | .broken => none

/-- A record in writing, if it can be written. -/
def write (l : Layout) (r : Record) : Option String :=
  (l.mapM (writePiece r)).map fun pieces => String.ofList pieces.flatten

theorem write_usual (r : Record) :
    usual.write r = some (r.levelName ++ " " ++ r.logger ++ ": " ++ r.message) := by
  have h : ∀ s, Conversion.write {} (.text s) = some s.toList :=
    Conversion.write_text
  have : usual.mapM (writePiece r) =
      some [r.levelName.toList, [' '], r.logger.toList, [':'], [' '], r.message.toList] := by
    simp [usual, plain, writePiece, Record.part?, Record.parts, h]
  simp only [write, this, Option.map_some, Option.some.injEq]
  apply String.toList_inj.1
  simp

end Layout

end Scaffold.Log
