import Scaffold.Text.Case
import Scaffold.Text.Split

/-!
# Names

How the names of a diagram become names of fields, methods, tables, columns and paths. Every
stage takes its names from here, so a name that is predicted is the name that is emitted. The
rules are stated on character lists and lifted to strings.

Main statements: `toList_capitalize`, `toList_camelCase`, `toList_snakeCase` (the string functions
are the list functions).
-/

namespace Scaffold.Naming

open Scaffold.Text

/-! ## Letter case -/

/-- Only the first character in upper case. -/
def capitalizeChars : List Char → List Char
  | [] => []
  | c :: rest => upperChar c ++ rest

/-- A word with its first character in upper case and the rest in lower case. -/
def titleWord : List Char → List Char
  | [] => []
  | c :: rest => upperChar c ++ lower rest

/-- A field name. Words between underscores are joined, the first in lower case and the others as
titles; without underscores only the first character is changed, to lower case. -/
def camelChars (s : List Char) : List Char :=
  if '_' ∈ s then
    match (splitOn '_' s).filter (!·.isEmpty) with
    | [] => s
    | head :: rest => lower head ++ rest.flatMap titleWord
  else
    match s with
    | [] => []
    | c :: rest => lower [c] ++ rest

/-- Puts an underscore in front of every capital letter of ASCII. -/
def markCapitals (s : List Char) : List Char :=
  s.flatMap fun c => if c.isUpper then ['_', c] else [c]

/-- Replaces pairs of underscores, from the left, by one underscore each. -/
def halveUnderscores : List Char → List Char
  | '_' :: '_' :: rest => '_' :: halveUnderscores rest
  | c :: rest => c :: halveUnderscores rest
  | [] => []

/-- A table or column name: lower case, with an underscore where a capital letter was. -/
def snakeChars (s : List Char) : List Char :=
  halveUnderscores ((lower (markCapitals s)).dropWhile (· = '_'))

/-- Only the first character of a name in upper case. -/
def capitalize (s : String) : String := String.ofList (capitalizeChars s.toList)

/-- The field name of an attribute or a class: `ORDER_date` and `OrderDate` give `orderDate`. -/
def camelCase (s : String) : String := String.ofList (camelChars s.toList)

/-- The table or column name: `OrderLine` gives `order_line`. -/
def snakeCase (s : String) : String := String.ofList (snakeChars s.toList)

/-- The name with underscores replaced by a given character. -/
def replaceUnderscores (c : Char) (s : String) : String :=
  String.ofList (s.toList.map fun x => if x = '_' then c else x)

/-- The path segment: `OrderLine` gives `order-line`. -/
def kebabCase (s : String) : String := replaceUnderscores '-' (snakeCase s)

@[simp] theorem toList_capitalize (s : String) :
    (capitalize s).toList = capitalizeChars s.toList := by
  simp [capitalize]

@[simp] theorem toList_camelCase (s : String) : (camelCase s).toList = camelChars s.toList := by
  simp [camelCase]

@[simp] theorem toList_snakeCase (s : String) : (snakeCase s).toList = snakeChars s.toList := by
  simp [snakeCase]

/-! ## Plurals -/

/-- Whether a character is a vowel in lower case. -/
def isVowel (c : Char) : Bool :=
  match lower [c] with
  | [v] => v ∈ ['a', 'e', 'i', 'o', 'u']
  | _ => false

/-- The English plural of a name that is given from its end. -/
def pluralFromEnd : List Char → List Char
  | [] => []
  | 'y' :: c :: rest => if isVowel c then 's' :: 'y' :: c :: rest else "sei".toList ++ c :: rest
  | 'h' :: 'c' :: rest => "seh".toList ++ 'c' :: rest
  | 'h' :: 's' :: rest => "seh".toList ++ 's' :: rest
  | c :: rest =>
    if c = 's' ∨ c = 'x' ∨ c = 'z' then 's' :: 'e' :: c :: rest else 's' :: c :: rest

/-- The English plural of a name. -/
def pluralize (s : String) : String := String.ofList (pluralFromEnd s.toList.reverse).reverse

/-! ## Members of classes -/

/-- The getter and the setter of a field. -/
structure Accessors where
  /-- The name of the getter. -/
  getter : String
  /-- The name of the setter. -/
  setter : String
  deriving DecidableEq

/-- The getter of a field. -/
def getter (field : String) : String := "get" ++ capitalize field

/-- The setter of a field. -/
def setter (field : String) : String := "set" ++ capitalize field

/-- The getter and the setter of a field. -/
def accessors (field : String) : Accessors := ⟨getter field, setter field⟩

/-- The field of a transfer object that holds the id of a reference. -/
def idField (foreignKey : String) : String := camelCase foreignKey ++ "Id"

/-- The field of an entity that holds the instances of a class. -/
def collectionField (className : String) : String := pluralize (camelCase className)

/-- The name of the transfer object of a class. -/
def dtoName (className : String) : String := className ++ "DTO"

end Scaffold.Naming
