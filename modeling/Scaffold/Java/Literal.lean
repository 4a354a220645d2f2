import Scaffold.Java.Type
import Scaffold.Json.Shown
import Scaffold.Text.Blank

/-!
# Literals and conversions

`JavaType.literal` is the Java literal for a default value that can be shown, if it fits the type,
and `JavaType.conversion` the expression that makes an id of a type from an object.

Main statement: `conversionTo?_name` (every type of a field has a conversion).
-/

namespace Scaffold

open Text

namespace Literal

/-- A character of a string literal. -/
def escapedChar (c : Char) : List Char := if c = '\\' ∨ c = '"' then ['\\', c] else [c]

/-- A string literal. Line breaks stay as they are. -/
def text (s : String) : String := String.ofList ('"' :: s.toList.flatMap escapedChar ++ ['"'])

/-- The rest of a text behind its digits, of which there is at least one. -/
def afterDigits? (s : List Char) : Option (List Char) :=
  match s with
  | c :: rest => if isDigit c then some (rest.dropWhile isDigit) else none
  | [] => none

/-- Whether a text is an exponent or empty. -/
def isExponentPart : List Char → Bool
  | [] => true
  | e :: rest =>
    (e = 'e' || e = 'E') &&
      (afterDigits? (match rest with
        | '+' :: digits => digits
        | '-' :: digits => digits
        | digits => digits)) = some []

/-- Whether a text is a decimal number: a minus sign, digits, a fraction and an exponent, all but
the digits optional. -/
def isDecimal (s : List Char) : Bool :=
  let unsigned :=
    match s with
    | '-' :: rest => rest
    | _ => s
  match afterDigits? unsigned with
  | none => false
  | some ('.' :: rest) => (afterDigits? rest).any isExponentPart
  | some rest => isExponentPart rest

/-- A decimal number as a literal; one without fraction and exponent gets a fraction. -/
def decimal? (s : String) : Option String :=
  if !isDecimal s.toList then none
  else if s.toList.any (fun c => c = '.' || c = 'e' || c = 'E') then some s
  else some (s ++ ".0")

end Literal

namespace JavaType

/-- The literal for a default value that can be shown. Other types than texts, integers and doubles
of 64 bits have none. -/
def literal (t : JavaType) (v : Json.Value) : Option String :=
  let shown := trim v.shown
  match t with
  | .string => some (Literal.text v.shown)
  | .integer => (integer? shown.toList).map showInt
  | .long => (integer? shown.toList).map fun i => showInt i ++ "L"
  | .double => Literal.decimal? shown
  | _ => none

/-- The expression that converts a number or the text of an object. -/
def numberConversion (unboxing parsing expr : String) : String :=
  s!"{expr} instanceof Number ? ((Number) {expr}).{unboxing}() : {parsing}({expr}.toString())"

/-- The expression that makes a value of a type from an object. -/
def conversion (t : JavaType) (expr : String) : String :=
  match t with
  | .long => numberConversion "longValue" "Long.parseLong" expr
  | .integer => numberConversion "intValue" "Integer.parseInt" expr
  | .double => numberConversion "doubleValue" "Double.parseDouble" expr
  | .float => numberConversion "floatValue" "Float.parseFloat" expr
  | .string => s!"{expr}.toString()"
  | .boolean => s!"Boolean.valueOf({expr}.toString())"
  | .bigDecimal => s!"new BigDecimal({expr}.toString())"
  | .localDate => s!"LocalDate.parse({expr}.toString())"
  | .localDateTime => s!"LocalDateTime.parse({expr}.toString())"

/-- The expression that makes an id of the type of a name from an object; none if the name is not
that of a type. -/
def conversionTo? (typeName expr : String) : Option String :=
  (ofName? typeName).map fun t => t.conversion expr

/-- Every type of a field has a conversion. -/
theorem conversionTo?_name (t : JavaType) (expr : String) :
    conversionTo? t.name expr = some (t.conversion expr) := by
  rw [conversionTo?, ofName?_name, Option.map_some]

end JavaType

end Scaffold
