import Scaffold.Decimal.Binary64
import Scaffold.Log.Record
import Scaffold.Text.Encoding
import Scaffold.Text.Quoted

/-!
# Conversions of log records

A conversion says how a part of a record is written. A letter chooses the form: text, quoted text,
a character, a whole number in one of three bases, or a number with a fraction or an exponent.
Flags, a least width and a precision refine the form. Not every form fits every part.

Main statement: `write_text` (a text is written as itself by the plain form for texts).
-/

namespace Scaffold.Log

open Decimal

/-- A form in which a part is written; letters can be capital ones. -/
inductive Form where
  /-- Text. -/
  | text
  /-- Text between quotes, if the part is a text. -/
  | quoted
  /-- The same with the characters beyond ASCII escaped. -/
  | escaped
  /-- A character. -/
  | character
  /-- A whole number in base ten. -/
  | decimal
  /-- A whole number in base eight. -/
  | octal
  /-- A whole number in base sixteen. -/
  | hexadecimal (capital : Bool)
  /-- A number with a fixed number of digits behind the point. -/
  | fixed
  /-- A number with an exponent. -/
  | scientific (capital : Bool)
  /-- A number with an exponent if it needs one. -/
  | general (capital : Bool)
  deriving DecidableEq

/-- The form that a letter chooses. -/
def Form.ofLetter? : Char → Option Form
  | 's' => some .text
  | 'r' => some .quoted
  | 'a' => some .escaped
  | 'c' => some .character
  | 'd' | 'i' | 'u' => some .decimal
  | 'o' => some .octal
  | 'x' => some (.hexadecimal false)
  | 'X' => some (.hexadecimal true)
  | 'f' | 'F' => some .fixed
  | 'e' => some (.scientific false)
  | 'E' => some (.scientific true)
  | 'g' => some (.general false)
  | 'G' => some (.general true)
  | _ => none

/-- A conversion. -/
structure Conversion where
  /-- The flags: minus for the left side, plus and blank for the sign of numbers that are not
  negative, zero for zeros in front, and hash for the other form. -/
  flags : List Char := []
  /-- The least number of characters. -/
  width : Nat := 0
  /-- The precision. -/
  precision : Option Nat := none
  /-- The form. -/
  form : Form := .text
  deriving DecidableEq

namespace Conversion

/-- Whether a flag is set. -/
def has (c : Conversion) (flag : Char) : Bool := c.flags.contains flag

/-! ## Numbers -/

/-- A number in writing, by its parts. -/
structure Numeral where
  /-- The sign. -/
  sign : List Char
  /-- The mark of the base. -/
  mark : List Char := []
  /-- The digits, with a point and an exponent among them. -/
  digits : List Char

/-- The sign of a number. -/
def signOf (c : Conversion) (n : Int) : List Char :=
  if n < 0 then ['-'] else if c.has '+' then ['+'] else if c.has ' ' then [' '] else []

/-- A whole number in a base; the precision is the least number of digits. -/
def wholeNumeral (c : Conversion) (n : Int) (base : Nat) (mark : List Char)
    (onDigit : Char → Char) : Numeral :=
  let digits := (Nat.toDigits base n.natAbs).map onDigit
  { sign := c.signOf n
    mark := if c.has '#' then mark else []
    digits := List.replicate (c.precision.getD 0 - digits.length) '0' ++ digits }

/-- So many leading digits of a number, rounded to the nearest, and the exponent of the first. -/
def leadingDigits (count n : Nat) : List Char × Nat :=
  let digits := Nat.toDigits 10 n
  let exponent := digits.length - 1
  if digits.length ≤ count then
    (digits ++ List.replicate (count - digits.length) '0', exponent)
  else
    let rounded := Nat.toDigits 10 (roundDiv n (tenTo (digits.length - count)))
    (rounded.take count, if count < rounded.length then exponent + 1 else exponent)

/-- Digits before and behind a point. Without digits behind it the point is left out, but not in
the other form. -/
def pointed (c : Conversion) (whole fraction : List Char) : List Char :=
  if fraction.isEmpty && !c.has '#' then whole else whole ++ '.' :: fraction

/-- The exponent in writing. -/
def exponentText (capital : Bool) (exponent : Nat) : List Char :=
  let digits := Nat.toDigits 10 exponent
  (if capital then 'E' else 'e') :: '+' :: (List.replicate (2 - digits.length) '0' ++ digits)

/-- The digits behind a point without the zeros at the end, which the other form keeps. -/
def significant (c : Conversion) (fraction : List Char) : List Char :=
  if c.has '#' then fraction else (fraction.reverse.dropWhile (· = '0')).reverse

/-- A natural number with as many digits behind the point as the precision says. -/
def fixedDigits (c : Conversion) (n : Nat) : List Char :=
  c.pointed (Nat.toDigits 10 n) (List.replicate (c.precision.getD 6) '0')

/-- A natural number with one digit before the point and an exponent. -/
def scientificDigits (c : Conversion) (capital : Bool) (n : Nat) : List Char :=
  let (digits, exponent) := leadingDigits (c.precision.getD 6 + 1) n
  c.pointed (digits.take 1) (digits.drop 1) ++ exponentText capital exponent

/-- A natural number with as many digits as the precision says, and an exponent if the digits do
not reach the point. -/
def generalDigits (c : Conversion) (capital : Bool) (n : Nat) : List Char :=
  let count := max (c.precision.getD 6) 1
  let (digits, exponent) := leadingDigits count n
  if exponent < count then
    c.pointed (digits.take (exponent + 1)) (c.significant (digits.drop (exponent + 1)))
  else
    c.pointed (digits.take 1) (c.significant (digits.drop 1)) ++ exponentText capital exponent

/-- The natural number that a double is nearest to, unless it is beyond all doubles. -/
def asDouble? (n : Nat) : Option Nat := (Binary64.ofDecimal false n 0).toInt?.map Int.toNat

/-- A number in writing, if the form is one for numbers and the number can be written in it. -/
def numeral? (c : Conversion) (n : Int) : Option Numeral :=
  let double (digits : Nat → List Char) : Option Numeral :=
    (asDouble? n.natAbs).map fun m => { sign := c.signOf n, digits := digits m }
  match c.form with
  | .decimal => some (c.wholeNumeral n 10 [] id)
  | .octal => some (c.wholeNumeral n 8 ['0', 'o'] id)
  | .hexadecimal false => some (c.wholeNumeral n 16 ['0', 'x'] id)
  | .hexadecimal true => some (c.wholeNumeral n 16 ['0', 'X'] Char.toUpper)
  | .fixed => double c.fixedDigits
  | .scientific capital => double (c.scientificDigits capital)
  | .general capital => double (c.generalDigits capital)
  | _ => none

/-- A number at its width. -/
def placeNumeral (c : Conversion) (n : Numeral) : List Char :=
  let missing := c.width - (n.sign ++ n.mark ++ n.digits).length
  if c.has '-' then n.sign ++ n.mark ++ n.digits ++ List.replicate missing ' '
  else if c.has '0' then n.sign ++ n.mark ++ List.replicate missing '0' ++ n.digits
  else List.replicate missing ' ' ++ n.sign ++ n.mark ++ n.digits

/-! ## Texts -/

/-- A text at its width. -/
def placeText (c : Conversion) (s : List Char) : List Char :=
  let blanks := List.replicate (c.width - s.length) ' '
  if c.has '-' then s ++ blanks else blanks ++ s

/-- A text with the characters beyond ASCII escaped. -/
def escaped (s : List Char) : List Char :=
  s.flatMap fun c => if c.toNat < 0x80 then [c] else Text.codeEscape c

/-- A part shown as text. -/
def shownText : Part → List Char
  | .text s => s.toList
  | .number n => (Text.showInt n).toList
  | .other s => s.toList

/-- A part shown as text, between quotes if it is one. -/
def quotedText : Part → List Char
  | .text s => (Text.quoted s).toList
  | p => shownText p

/-- The character that a part stands for: one of a code point, or a text of one character. -/
def charForm? : Part → Option Char
  | .text s =>
    match s.toList with
    | [c] => some c
    | _ => none
  | .number n =>
    if 0 ≤ n ∧ n < 0x110000 then some (Text.charOrReplacement n.toNat) else none
  | .other _ => none

/-! ## Parts -/

/-- A text at its width, of which the precision is the greatest length. -/
def writeText (c : Conversion) (s : List Char) : List Char :=
  c.placeText (match c.precision with
    | some n => s.take n
    | none => s)

/-- A part in writing, if the form fits it. -/
def write (c : Conversion) (p : Part) : Option (List Char) :=
  match c.form with
  | .text => some (c.writeText (shownText p))
  | .quoted => some (c.writeText (quotedText p))
  | .escaped => some (c.writeText (escaped (quotedText p)))
  | .character => (charForm? p).map fun x => c.placeText [x]
  | _ =>
    match p with
    | .number n => (c.numeral? n).map c.placeNumeral
    | _ => none

theorem write_text (s : String) : write {} (.text s) = some s.toList := by
  simp [write, writeText, shownText, placeText, has]

end Conversion

end Scaffold.Log
