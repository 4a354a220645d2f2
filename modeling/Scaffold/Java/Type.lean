import Scaffold.Text.Blank
import Scaffold.Text.Ordered

/-!
# Java types of fields

The types that a field of a generated class can have. A diagram declares types by name;
`JavaType.ofDeclared` reads the declaration and falls back to `String`.
-/

namespace Scaffold

/-- The Java types of generated fields. -/
inductive JavaType where
  /-- Texts. -/
  | string
  /-- Integers of 32 bits. -/
  | integer
  /-- Integers of 64 bits. -/
  | long
  /-- Numbers of double precision. -/
  | double
  /-- Numbers of single precision. -/
  | float
  /-- Truth values. -/
  | boolean
  /-- Dates. -/
  | localDate
  /-- Dates with a time. -/
  | localDateTime
  /-- Decimal numbers of any precision. -/
  | bigDecimal
  deriving DecidableEq

namespace JavaType

/-- The name of a type in Java. -/
def name : JavaType → String
  | .string => "String"
  | .integer => "Integer"
  | .long => "Long"
  | .double => "Double"
  | .float => "Float"
  | .boolean => "Boolean"
  | .localDate => "LocalDate"
  | .localDateTime => "LocalDateTime"
  | .bigDecimal => "BigDecimal"

/-- All types. -/
def all : List JavaType :=
  [.string, .integer, .long, .double, .float, .boolean, .localDate, .localDateTime, .bigDecimal]

/-- The type of a name. -/
def ofName? (s : String) : Option JavaType := all.find? (·.name = s)

theorem ofName?_name (t : JavaType) : ofName? t.name = some t := by cases t <;> rfl

theorem name_inj {t t' : JavaType} (h : t.name = t'.name) : t = t' := by
  have hsome := ofName?_name t
  rw [h, ofName?_name] at hsome
  exact (Option.some.inj hsome).symm

/-- The type that a diagram declares: a name of a type or `Date`, with blanks around it, and
`String` for everything else. -/
def ofDeclared (declared : String) : JavaType :=
  let s := Text.trim declared
  if s = "Date" then .localDate else (ofName? s).getD .string

/-- The class that has to be imported for a type. -/
def import? : JavaType → Option String
  | .localDate => some "java.time.LocalDate"
  | .localDateTime => some "java.time.LocalDateTime"
  | .bigDecimal => some "java.math.BigDecimal"
  | _ => none

/-- The classes that have to be imported for some types, once each and in order. -/
def imports (types : List JavaType) : List String := Text.ordered (types.filterMap import?)

end JavaType

end Scaffold
