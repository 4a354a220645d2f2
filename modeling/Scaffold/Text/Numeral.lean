import Scaffold.Text.Digit

/-!
# Whole numbers in text

A numeral is a run of decimal digits of any script, with at most one underscore between two
digits; an integer may have a sign in front. Numerals of more than `maxDigits` digits are refused.
-/

namespace Scaffold.Text

/-- The greatest number of digits that a numeral may have. -/
def maxDigits : Nat := 4300

/-- The number that a list of digit values stands for, the most significant first. -/
def ofDigits (base : Nat) (digits : List Nat) : Nat := digits.foldl (fun n d => n * base + d) 0

/-- The values of the digits of a numeral, where underscores may separate digits. -/
def numeralDigits? : List Char → Option (List Nat)
  | [] => none
  | [c] => (digitValue? c).map ([·])
  | c :: '_' :: rest => do return (← digitValue? c) :: (← numeralDigits? rest)
  | c :: rest => do return (← digitValue? c) :: (← numeralDigits? rest)

/-- The value of a numeral that is not too long. -/
def natural? (s : List Char) : Option Nat := do
  let digits ← numeralDigits? s
  if digits.length ≤ maxDigits then some (ofDigits 10 digits) else none

/-- The value of an integer: a numeral with or without a sign. -/
def integer? : List Char → Option Int
  | '-' :: rest => (natural? rest).map fun n => -(n : Int)
  | '+' :: rest => (natural? rest).map (↑·)
  | s => (natural? s).map (↑·)

/-- The decimal digits of an integer, with a minus sign in front of a negative one. -/
def showInt (i : Int) : String :=
  if i < 0 then "-" ++ Nat.repr i.natAbs else Nat.repr i.natAbs

end Scaffold.Text
