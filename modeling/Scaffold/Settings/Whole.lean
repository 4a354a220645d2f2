import Scaffold.Issue
import Scaffold.Json.Value
import Scaffold.Text.Blank
import Scaffold.Text.Numeral

/-!
# Whole numbers in settings

A whole number is given as an integer, as a truth value, as a float without a fraction, or as
text. The text may have white space around it, a plus sign and zeros in front, underscores between
digits, and a decimal point with zeros behind it. A minus sign may stand between zeros and the
digits behind them. Only digits of ASCII count.
-/

namespace Scaffold.Whole

open Text

/-- Whether a character is white space: a blank, but no information separator. -/
def isSpace (c : Char) : Bool := isBlank c && !(0x1c ≤ c.toNat && c.toNat ≤ 0x1f)

/-- Whether a character is a digit other than zero. -/
def isCounter (c : Char) : Bool := c.isDigit && c ≠ '0'

/-- Whether a character starts the part of a number that counts. -/
def isStart (c : Char) : Bool := isCounter c || c = '-'

/-- The part of the text that counts, behind zeros and underscores, of which `last` is the last. -/
def behindZeros (last : Char) : List Char → Option (List Char)
  | [] => some [last]
  | c :: rest =>
    if c = '0' || c = '_' then behindZeros c rest
    else if isStart c then some (c :: rest)
    else if c = '.' then some (last :: c :: rest)
    else none

/-- The text without zeros in front. -/
def withoutZeros : List Char → Option (List Char)
  | [] => none
  | c :: rest =>
    if c = '0' then behindZeros c rest else if isStart c then some (c :: rest) else none

/-- The text without a plus sign and zeros in front. -/
def withoutLead : List Char → Option (List Char)
  | '+' :: '-' :: _ => none
  | '+' :: rest => withoutZeros rest
  | s => withoutZeros s

/-- The text without a decimal point and the zeros behind it. -/
def withoutPoint (s : List Char) : List Char :=
  let fraction := (s.dropWhile (· ≠ '.')).drop 1
  if !fraction.isEmpty && fraction.all (· = '0') then s.takeWhile (· ≠ '.') else s

/-- Whether two underscores stand next to each other. -/
def hasDoubleUnderscore : List Char → Bool
  | '_' :: '_' :: _ => true
  | _ :: rest => hasDoubleUnderscore rest
  | [] => false

/-- The text without the underscores that separate something. -/
def withoutUnderscores (s : List Char) : List Char :=
  if s.head? = some '_' || s.getLast? = some '_' || hasDoubleUnderscore s then s
  else s.filter (· ≠ '_')

/-- The value of some digits of ASCII. -/
def valueOf (digits : List Char) : Nat := ofDigits 10 (digits.map fun c => c.toNat - 0x30)

/-- The natural number that some digits stand for, of which not too many may count. -/
def digits? (s : List Char) : Option Nat :=
  if s.isEmpty || !s.all Char.isDigit || maxDigits < (s.dropWhile (· = '0')).length then none
  else some (valueOf s)

/-- The number that a text without superfluous characters stands for. -/
def plain? : List Char → Option Int
  | '-' :: rest => (digits? rest).map fun n => -n
  | s => (digits? s).map fun n => n

/-- The number that a text stands for. -/
def text? (s : List Char) : Option Int :=
  (withoutLead (dropWhileEnd isSpace (s.dropWhile isSpace))).bind fun s =>
    plain? (withoutUnderscores (withoutPoint s))

/-- Whether a text starts with a number of too many digits, where a sign counts as one. -/
def isHuge : List Char → Bool
  | '-' :: rest => rest.head?.any isCounter && maxDigits ≤ (rest.takeWhile Char.isDigit).length
  | s => s.head?.any isCounter && maxDigits < (s.takeWhile Char.isDigit).length

/-- Reads a number from text. -/
def ofText (s : String) : Checked Int :=
  if isHuge s.toList then .issue .hugeInteger
  else
    match text? s.toList with
    | some i => .valid i
    | none => .issue .integerText

/-- The first number beyond the signed integers of 64 bits. -/
def longEnd : Int := Decimal.twoTo 63

/-- Reads a number. -/
def ofValue : Json.Value → Checked Int
  | .bool b => .valid (if b then 1 else 0)
  | .int i => .valid i
  | .float x =>
    if !x.isFinite then .issue .infinite
    else
      match x.toInt? with
      | none => .issue .fraction
      | some i => if -longEnd < i ∧ i < longEnd then .valid i else .issue .hugeInteger
  | .str s => ofText s
  | .null => .issue .integer
  | .arr _ => .issue .integer
  | .obj _ => .issue .integer

/-- Reads a number that is not negative. -/
def natural (v : Json.Value) : Checked Nat :=
  (ofValue v).andThen fun i => if i < 0 then .issue .negative else .valid i.toNat

end Scaffold.Whole
