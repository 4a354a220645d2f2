import Scaffold.Java.Type
import Scaffold.Json.Reader
import Scaffold.Json.Shown
import Scaffold.Text.Case
import Scaffold.Text.Numeral

/-!
# Constraints of columns

The length of a column is the number behind the first opening parenthesis of its declared type
that a digit follows. It bounds columns of texts, and with the type of the field it decides which
annotations check a value.
-/

namespace Scaffold.Constraint

open Text

/-- A number that is too long. -/
inductive HugeLength where
  /-- It is declared with so many digits, which is more than are read. -/
  | declared (digits : Nat)
  /-- It stands in a default value, which cannot be shown for that. -/
  | default
  deriving DecidableEq

/-- The wording of the error for a number that is too long. -/
def HugeLength.message : HugeLength → String
  | .declared digits => (Json.ReadError.hugeInteger digits).message
  | .default => Json.unshowableMessage

/-- The digits of the first number that stands directly behind an opening parenthesis. -/
def lengthDigits : List Char → List Char
  | [] => []
  | c :: rest =>
    let digits := rest.takeWhile isDigit
    if c = '(' ∧ digits ≠ [] then digits else lengthDigits rest

/-- The length that a column type declares, if it declares one. -/
def sqlLength (sqlType : Option String) : Except HugeLength (Option Nat) :=
  match lengthDigits (sqlType.getD "").toList with
  | [] => .ok none
  | digits =>
    match natural? digits with
    | some n => .ok (some n)
    | none => .error (.declared digits.length)

/-- The length of text columns that declare none. -/
def defaultLength : Nat := 255

/-- The length of a column, if it holds texts. -/
def columnLength (t : Option JavaType) (sqlType : Option String) :
    Except HugeLength (Option Nat) := do
  if t ≠ some .string then return none
  let length ← sqlLength sqlType
  return some (match length with
    | none | some 0 => defaultLength
    | some n => n)

/-- The texts of ASCII letters that mark a type of bounded texts. -/
def boundedMark : List Char := "VARCHAR".toList

/-- Whether a list occurs in another. -/
def occursIn (s : List Char) : List Char → Bool
  | [] => s.isEmpty
  | c :: rest => s.isPrefixOf (c :: rest) || occursIn s rest

/-- Whether a declared type is one of bounded texts. -/
def isBounded (sqlType : Option String) : Bool :=
  occursIn boundedMark (upper (sqlType.getD "").toList)

/-- The annotation that a value has to be there. -/
def notNull (label : String) : String := s!"@NotNull(message = \"{label} is required\")"

/-- The annotation for the size of a text. -/
def sizeLimit (label : String) (n : Nat) : String :=
  s!"@Size(max = {n}, message = \"{label} must be at most {n} characters\")"

/-- The annotations that constrain a field. -/
def annotations (t : Option JavaType) (sqlType : Option String) (label : String) :
    Except HugeLength (List String) := do
  match t with
  | some .string =>
    let required := s!"@NotBlank(message = \"{label} is required\")"
    match ← sqlLength sqlType with
    | none | some 0 => return [required]
    | some n => return required :: if isBounded sqlType then [sizeLimit label n] else []
  | some .integer | some .long =>
    return [notNull label, s!"@Min(value = 0, message = \"{label} must be zero or positive\")"]
  | some .double | some .bigDecimal =>
    return [notNull label,
      s!"@DecimalMin(value = \"0.0\", message = \"{label} must be zero or positive\")"]
  | some .localDate | some .localDateTime =>
    return [notNull label,
      s!"@PastOrPresent(message = \"{label} cannot be in the future\")"]
  | _ => return [notNull label]

end Scaffold.Constraint
