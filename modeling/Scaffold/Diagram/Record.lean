import Scaffold.Diagram.Basic
import Scaffold.Issue
import Scaffold.Json.Shown
import Scaffold.Text.Blank
import Scaffold.Text.Case

/-!
# Records of a diagram

How the parts of a diagram are read from loosely typed data. A field may be given under its name
in camel case or with underscores, and the former counts if both are there. Texts have to be
texts, flags may be given as truth values, as the numbers 0 and 1 or as one of a few words, and
some fields have a value that stands for a missing or empty one.
-/

namespace Scaffold

open Json

namespace Record

/-! ## Parts -/

/-- The names of a field: in camel case, and with underscores. -/
structure FieldName where
  /-- The name in camel case. -/
  camel : String
  /-- The name with underscores. -/
  snake : String

/-- The name of a field that is one word. -/
def FieldName.word (name : String) : FieldName := ⟨name, name⟩

/-- The value of a field, and the name that it was found under. -/
def get? (fields : Fields) (name : FieldName) : Option (String × Value) :=
  ((fields.get? name.camel).map (name.camel, ·)).or
    ((fields.get? name.snake).map (name.snake, ·))

/-- Reads a field that may be missing. Its issues are under the name that it was found under. -/
def fieldOr {α : Type} (fields : Fields) (name : FieldName) (default : α)
    (read : Value → Checked α) : Checked α :=
  match get? fields name with
  | some (key, v) => (read v).under (.field key)
  | none => .valid default

/-- Reads a field that must not be missing. If it is, the issue is under its name in camel case. -/
def requiredField {α : Type} (fields : Fields) (name : FieldName) (read : Value → Checked α) :
    Checked α :=
  match get? fields name with
  | some (key, v) => (read v).under (.field key)
  | none => (Checked.issue .missing).under (.field name.camel)

/-- Reads a text. -/
def text : Value → Checked String
  | .str s => .valid s
  | _ => .issue .text

/-- Reads a text, or nothing for `null`. -/
def textOrNull : Value → Checked (Option String)
  | .null => .valid none
  | .str s => .valid (some s)
  | _ => .issue .text

/-- Reads a text, or nothing for `null` and for blanks. -/
def textOrBlank : Value → Checked (Option String)
  | .null => .valid none
  | .str s => .valid (if Text.isBlankText s then none else some s)
  | _ => .issue .text

/-- Reads a text, and takes a value that is not given for the default. -/
def textOr (default : String) (v : Value) : Checked String :=
  if v.isGiven then text v else .valid default

/-- The issue with a value that cannot be shown. -/
def unshowable : IssueKind := .rule Json.unshowableMessage

/-- Reads a text in which every value is shown, and `null` is empty. -/
def shownText : Value → Checked String
  | .null => .valid ""
  | v => if v.isShowable then .valid v.shown else .issue unshowable

/-- The words that stand for `false`. -/
def falseWords : List String := ["0", "off", "f", "false", "n", "no"]

/-- The words that stand for `true`. -/
def trueWords : List String := ["1", "on", "t", "true", "y", "yes"]

/-- A text with the capital letters of ASCII in lower case. -/
def lowerAscii (s : String) : String := String.ofList (s.toList.map Char.toLower)

/-- Reads a truth value from an integer. Integers beyond 64 bits are no candidates. -/
def truthOfInt (i : Int) : Checked Bool :=
  if i = 0 then .valid false
  else if i = 1 then .valid true
  else if -(Decimal.twoTo 63 : Int) ≤ i ∧ i < Decimal.twoTo 63 then .issue .truthWord
  else .issue .truth

/-- Reads a flag; `null` is `false`. The float at the lower end of 64 bits is no candidate. -/
def flag : Value → Checked Bool
  | .null => .valid false
  | .bool b => .valid b
  | .int i => truthOfInt i
  | .float x =>
    match x.toInt? with
    | some i => if i = -(Decimal.twoTo 63 : Int) then .issue .truth else truthOfInt i
    | none => .issue .truth
  | .str s =>
    let w := lowerAscii s
    if w ∈ falseWords then .valid false
    else if w ∈ trueWords then .valid true
    else .issue .truthWord
  | .arr _ => .issue .truth
  | .obj _ => .issue .truth

/-- Reads an array of records. -/
def array {α : Type} (read : Value → Checked α) : Value → Checked (List α)
  | .arr items => Checked.items read 0 items
  | _ => .issue .array

/-- Reads an object from whose fields a record can be read. -/
def object {α : Type} (name : String) (read : Fields → Checked α) : Value → Checked α
  | .obj fields => read fields
  | _ => .issue (.record name)

/-- Reads the methods of a class: whatever can be iterated, each part of it shown as text. -/
def methodTexts : Value → Checked (List String)
  | .null => .valid []
  | .arr items =>
    if items.all Value.isShowable then .valid (items.map Value.shown) else .issue unshowable
  | .str s => .valid (s.toList.map fun c => String.ofList [c])
  | .obj fields => .valid (Fields.keys fields)
  | .bool _ => .notIterable Kind.bool.word
  | .int _ => .notIterable Kind.int.word
  | .float _ => .notIterable Kind.float.word

/-- Reads any value but `null`. -/
def anyValue : Value → Checked (Option Value)
  | .null => .valid none
  | v => .valid (some v)

end Record

open Record

/-! ## Records -/

/-- Reads an attribute from the fields of an object. -/
def Attribute.ofFields (f : Fields) : Checked Attribute :=
  Attribute.mk <$> requiredField f (.word "name") text
    <*> fieldOr f (.word "type") "String" (textOr "String")
    <*> fieldOr f ⟨"sqlType", "sql_type"⟩ none textOrBlank
    <*> fieldOr f (.word "visibility") "private" (textOr "private")
    <*> fieldOr f ⟨"isStatic", "is_static"⟩ false flag
    <*> fieldOr f ⟨"isPrimaryKey", "is_primary_key"⟩ false flag
    <*> fieldOr f ⟨"isForeignKey", "is_foreign_key"⟩ false flag
    <*> fieldOr f ⟨"referencedEntity", "referenced_entity"⟩ none textOrBlank
    <*> fieldOr f ⟨"referencedField", "referenced_field"⟩ none textOrBlank
    <*> fieldOr f ⟨"referencedType", "referenced_type"⟩ none textOrBlank
    <*> fieldOr f ⟨"isRelationshipAttribute", "is_relationship_attribute"⟩ false flag
    <*> fieldOr f ⟨"defaultValue", "default_value"⟩ none anyValue

/-- Reads an attribute. -/
def Attribute.ofValue : Value → Checked Attribute := object "Attribute" Attribute.ofFields

/-- Reads a class from the fields of an object. -/
def ClassNode.ofFields (f : Fields) : Checked ClassNode :=
  ClassNode.mk <$> requiredField f (.word "id") text
    <*> requiredField f (.word "name") text
    <*> fieldOr f (.word "attributes") [] (array Attribute.ofValue)
    <*> fieldOr f (.word "methods") [] methodTexts
    <*> fieldOr f (.word "stereotype") none textOrNull
    <*> fieldOr f (.word "visibility") none textOrNull
    <*> fieldOr f (.word "description") "" (textOr "")

/-- Reads a class. -/
def ClassNode.ofValue : Value → Checked ClassNode := object "ClassNode" ClassNode.ofFields

/-- Reads an edge from the fields of an object. -/
def Relationship.ofFields (f : Fields) : Checked Relationship :=
  Relationship.mk <$> requiredField f (.word "id") text
    <*> requiredField f (.word "source") text
    <*> requiredField f (.word "target") text
    <*> fieldOr f (.word "type") "association" text
    <*> fieldOr f ⟨"sourceMultiplicity", "source_multiplicity"⟩ "" shownText
    <*> fieldOr f ⟨"targetMultiplicity", "target_multiplicity"⟩ "" shownText
    <*> fieldOr f (.word "label") "" shownText
    <*> fieldOr f ⟨"associationTable", "association_table"⟩ none textOrNull
    <*> fieldOr f ⟨"manyToManyGroup", "many_to_many_group"⟩ none textOrNull

/-- Reads an edge. -/
def Relationship.ofValue : Value → Checked Relationship :=
  object "Relationship" Relationship.ofFields

/-- Reads an association table from the fields of an object. -/
def AssociationTable.ofFields (f : Fields) : Checked AssociationTable :=
  AssociationTable.mk <$> requiredField f (.word "id") text
    <*> requiredField f (.word "name") text
    <*> requiredField f ⟨"tableName", "table_name"⟩ text
    <*> fieldOr f (.word "attributes") [] (array Attribute.ofValue)
    <*> fieldOr f ⟨"foreignKeys", "foreign_keys"⟩ [] (array Attribute.ofValue)
    <*> fieldOr f ⟨"additionalAttributes", "additional_attributes"⟩ [] (array Attribute.ofValue)

/-- Reads an association table. -/
def AssociationTable.ofValue : Value → Checked AssociationTable :=
  object "AssociationTable" AssociationTable.ofFields

/-- Reads a diagram from an object with a field for each of its lists. -/
def Diagram.ofValue : Value → Checked Diagram :=
  object "DiagramIR" fun f =>
    Diagram.mk <$> fieldOr f (.word "classes") [] (array ClassNode.ofValue)
      <*> fieldOr f (.word "relationships") [] (array Relationship.ofValue)
      <*> fieldOr f (.word "association_tables") [] (array AssociationTable.ofValue)

end Scaffold
