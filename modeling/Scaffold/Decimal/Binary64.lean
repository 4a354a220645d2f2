/-!
# Double-precision numbers

A `Binary64` is the 64 bits of a double-precision number, so that equality is decidable and a
NaN is equal to itself. `ofDecimal` reads a decimal number: it takes the nearest double, and of
two equally near ones the one with the even significand. All arithmetic is exact, on natural
numbers.
-/

namespace Scaffold.Decimal

/-- A double-precision number, by its bits. -/
structure Binary64 where
  /-- Sign, exponent and significand, from the top. -/
  bits : UInt64
  deriving DecidableEq, Inhabited

/-- A power of two. -/
def twoTo (n : Nat) : Nat := Nat.pow 2 n

/-- A power of ten. -/
def tenTo (n : Nat) : Nat := Nat.pow 10 n

/-- The quotient of two numbers rounded to the nearest whole number, a tie to the even one. -/
def roundDiv (num den : Nat) : Nat :=
  let q := num / den
  let r := num % den
  if 2 * r < den then q
  else if 2 * r = den then (if q % 2 = 0 then q else q + 1)
  else q + 1

namespace Binary64

/-- Whether the sign bit is set. -/
def isNegative (x : Binary64) : Bool := twoTo 63 ≤ x.bits.toNat

/-- The bits without the sign. -/
def magnitude (x : Binary64) : Nat := x.bits.toNat % twoTo 63

/-- The magnitude of the infinities; greater ones are not numbers. -/
def infiniteMagnitude : Nat := 2047 * twoTo 52

/-- Whether the value is not a number. -/
def isNaN (x : Binary64) : Bool := infiniteMagnitude < x.magnitude

/-- Whether the value is infinite. -/
def isInfinite (x : Binary64) : Bool := x.magnitude = infiniteMagnitude

/-- Whether the value is a number, and finite. -/
def isFinite (x : Binary64) : Bool := x.magnitude < infiniteMagnitude

/-- Whether the value is zero, of either sign. -/
def isZero (x : Binary64) : Bool := x.magnitude = 0

/-- The number with the given sign and magnitude. -/
def ofMagnitude (negative : Bool) (n : Nat) : Binary64 :=
  ⟨UInt64.ofNat (n + if negative then twoTo 63 else 0)⟩

/-- A value that is not a number. -/
def nan : Binary64 := ofMagnitude false (2047 * twoTo 52 + twoTo 51)

/-- The infinity of the given sign. -/
def infinity (negative : Bool) : Binary64 := ofMagnitude negative infiniteMagnitude

/-- The significand `m` and the exponent `q` of a finite number, whose size is `m * 2 ^ q`. -/
def parts (x : Binary64) : Nat × Int :=
  let e : Nat := x.magnitude / twoTo 52
  let f : Nat := x.magnitude % twoTo 52
  if e = 0 then (f, -1074) else (f + twoTo 52, Int.ofNat e - 1075)

/-- The magnitude of the double nearest to `num / den`, for positive `num` and `den`. -/
def nearestMagnitude (num den : Nat) : Nat :=
  let guess : Int := (num.log2 : Int) - den.log2 - 52
  let scaled (q : Int) : Nat × Nat :=
    if 0 ≤ q then (num, den * twoTo q.toNat) else (num * twoTo (-q).toNat, den)
  let low := (scaled guess).1 / (scaled guess).2 < twoTo 52
  let q := max (if low then guess - 1 else guess) (-1074)
  (q + 1074).toNat * twoTo 52 + roundDiv (scaled q).1 (scaled q).2

/-- The double nearest to `m * 10 ^ e`, with the given sign. Exponents far outside the range of
doubles are decided by the number of digits alone. -/
def ofDecimal (negative : Bool) (m : Nat) (e : Int) : Binary64 :=
  let size : Int := (Nat.repr m).length + e
  if m = 0 ∨ size < -330 then ofMagnitude negative 0
  else if 310 < size then infinity negative
  else
    let magnitude :=
      if 0 ≤ e then nearestMagnitude (m * tenTo e.toNat) 1
      else nearestMagnitude m (tenTo (-e).toNat)
    ofMagnitude negative (min magnitude infiniteMagnitude)

/-- The whole number that a finite number is equal to, if there is one. -/
def toInt? (x : Binary64) : Option Int :=
  if !x.isFinite then none
  else
    let (m, q) := x.parts
    let size : Option Nat :=
      if 0 ≤ q then some (m * twoTo q.toNat)
      else if m % twoTo (-q).toNat = 0 then some (m / twoTo (-q).toNat) else none
    size.map fun n => if x.isNegative then -(n : Int) else n

end Binary64

end Scaffold.Decimal
