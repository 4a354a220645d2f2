import Scaffold.Decimal.Binary64

/-!
# Shortest decimals

The shortest decimal of a double is the one with the fewest digits that reads back as the same
double, and the nearest of those. `Binary64.shortest` finds it by trying 1, 2, … 17 digits and
looking at the two neighbours of the exact value on each decimal grid. How the digits are then
written is a `Form`: where positional writing ends, how the exponent looks, and the words for
values that have no digits.
-/

namespace Scaffold.Decimal

/-- A positive finite double between its neighbours: the value and the ends of the interval of
reals that round to it, all in multiples of `num / den`. -/
structure Rounding where
  /-- The value. -/
  value : Nat
  /-- The lower end of the interval. -/
  low : Nat
  /-- The upper end of the interval. -/
  high : Nat
  /-- Whether the ends round to the value too. -/
  closed : Bool
  /-- Numerator of the unit. -/
  num : Nat
  /-- Denominator of the unit. -/
  den : Nat

/-- The interval of reals that round to a positive finite double. The unit is a quarter of the
last place, because below a power of two the neighbour is half as far. -/
def Binary64.rounding (x : Binary64) : Rounding :=
  let (m, q) := x.parts
  let e := q - 2
  { value := 4 * m
    low := if m = twoTo 52 ∧ q ≠ -1074 then 4 * m - 1 else 4 * m - 2
    high := 4 * m + 2
    closed := m % 2 = 0
    num := if 0 ≤ e then twoTo e.toNat else 1
    den := if 0 ≤ e then 1 else twoTo (-e).toNat }

/-- Whether `a / b` multiples of the unit round to the value. -/
def Rounding.holds (r : Rounding) (a b : Nat) : Bool :=
  if r.closed then r.low * b ≤ a && a ≤ r.high * b else r.low * b < a && a < r.high * b

/-- The number of digits before the decimal point; zero or negative for values below one. -/
def Rounding.pointAfter (r : Rounding) : Int :=
  ((Nat.repr (r.value * r.num * tenTo 400 / r.den)).length : Int) - 400

/-- The multiple of `10 ^ k` that reads back as the value, if a neighbour of the value does; the
nearer one if both do, and at equal distance the even one. -/
def Rounding.onGrid? (r : Rounding) (k : Int) : Option Nat :=
  let a := r.den * tenTo k.toNat
  let b := r.num * tenTo (-k).toNat
  let d := r.value * b / a
  let rest := r.value * b - d * a
  let nearer := if 2 * rest < a then d else if 2 * rest = a then d + d % 2 else d + 1
  match r.holds (d * a) b, r.holds ((d + 1) * a) b with
  | true, true => some nearer
  | true, false => some d
  | false, true => some (d + 1)
  | false, false => none

/-- The first grid with a hit, from `n` digits on. -/
def Rounding.search (r : Rounding) (point : Int) : Nat → Nat → Nat × Int
  | 0, n => (r.value * r.num / r.den, point - n)
  | fuel + 1, n =>
    match r.onGrid? (point - n) with
    | some d => (d, point - n)
    | none => r.search point fuel (n + 1)

/-- The digits `d` and the exponent `k` of the shortest decimal `d * 10 ^ k` of a positive finite
double. Seventeen digits always suffice. -/
def Binary64.shortest (x : Binary64) : Nat × Int :=
  let r := x.rounding
  r.search r.pointAfter 17 1

/-- How a double is written: positional for exponents in a range and with an exponent outside. -/
structure Form where
  /-- The least exponent of the leading digit that is written positionally. -/
  positionalFrom : Int := -4
  /-- The exponents of the leading digit from here on are not written positionally. -/
  positionalBelow : Int := 16
  /-- The least number of digits of a written exponent. -/
  exponentWidth : Nat := 2
  /-- The word for infinity. -/
  infinity : String
  /-- The word for what is not a number. -/
  nan : String

/-- A list filled up at its left with zeros to a width. -/
def padZeros (width : Nat) (digits : List Char) : List Char :=
  List.replicate (width - digits.length) '0' ++ digits

/-- The digits of a decimal with the point after the first `point` of them. -/
def positional (digits : List Char) (point : Int) : List Char :=
  if point ≤ 0 then '0' :: '.' :: (List.replicate (-point).toNat '0' ++ digits)
  else if (digits.length : Int) ≤ point then
    digits ++ List.replicate (point.toNat - digits.length) '0' ++ ['.', '0']
  else digits.take point.toNat ++ '.' :: digits.drop point.toNat

/-- The digits of a decimal with the point after the first of them and an exponent. -/
def scientific (width : Nat) (digits : List Char) (exponent : Int) : List Char :=
  let mantissa := if digits.length ≤ 1 then digits else digits.take 1 ++ '.' :: digits.drop 1
  mantissa ++ 'e' :: (if exponent < 0 then '-' else '+') ::
    padZeros width (Nat.toDigits 10 exponent.natAbs)

/-- The text of a double in a form. -/
def Form.write (form : Form) (x : Binary64) : String :=
  if x.isNaN then form.nan
  else
    let sign := if x.isNegative then "-" else ""
    if x.isInfinite then sign ++ form.infinity
    else if x.isZero then sign ++ "0.0"
    else
      let (d, k) := x.shortest
      let all := Nat.toDigits 10 d
      let digits := (all.reverse.dropWhile (· = '0')).reverse
      let point := (all.length : Int) + k
      let exponent := point - 1
      let text :=
        if form.positionalFrom ≤ exponent ∧ exponent < form.positionalBelow then
          positional digits point
        else scientific form.exponentWidth digits exponent
      sign ++ String.ofList text

end Scaffold.Decimal
