import Scaffold.Analysis.Forest
import Scaffold.Distinct
import Scaffold.Java.Type
import Scaffold.Naming
import Scaffold.Slice

/-!
# Keys and members

Which attributes of a class become fields, under which names and of which types. A scalar member
is a column. A reference member is a foreign key to another class: a field of the entity, and an
id field of the transfer object. A class takes its key from its first primary key attribute, or
from the nearest ancestor that has one, and a class without any gets `id: Long`.

A child class leaves out its primary key, the attributes that its parent has by the same name, and
its foreign key to the parent. Attributes whose field name is taken are left out and reported.

Keys and members are resolved on demand and remembered by class id, in `Resolution`: a class that
repeats the id of another shares its key and its members, and reports nothing.
-/

namespace Scaffold

open Naming

/-! ## Types -/

/-- The key of a class: the name of the attribute, and its type. -/
structure PrimaryKey where
  /-- The name of the attribute. -/
  name : String
  /-- The type of the field. -/
  javaType : JavaType
  /-- Whether no attribute stands behind the key. -/
  synthesized : Bool := false
  deriving DecidableEq

/-- The field of a key. -/
def PrimaryKey.fieldName (k : PrimaryKey) : String := camelCase k.name

/-- The key of a class that has none. -/
def PrimaryKey.default : PrimaryKey := ⟨"id", .long, true⟩

/-- An attribute that is a column. -/
structure ScalarMember where
  /-- The attribute. -/
  attr : Attribute
  /-- The field. -/
  fieldName : String
  /-- The type of the field. -/
  javaType : JavaType
  /-- Whether the attribute is made up. -/
  synthesized : Bool := false
  deriving DecidableEq

/-- Whether the member is a primary key. -/
def ScalarMember.isPrimaryKey (m : ScalarMember) : Bool := m.attr.isPrimaryKey

/-- An attribute that is a reference to another class. -/
structure ReferenceMember where
  /-- The attribute. -/
  attr : Attribute
  /-- The class that is referenced. -/
  target : ClassNode
  /-- The field of the entity. -/
  fieldName : String
  /-- The field of the transfer object, unless its name is taken. -/
  dtoFieldName : Option String
  /-- The key of the referenced entity. -/
  targetKey : PrimaryKey
  /-- The property that the id query is about, unless the query's name is taken. -/
  idField : Option String
  deriving DecidableEq

/-- The name of the query on a property. -/
def findBy (field : String) : String := "findBy" ++ capitalize field

/-- The name of the id query of a reference. -/
def ReferenceMember.idQuery (r : ReferenceMember) : Option String := r.idField.map findBy

/-- The members of a class. -/
structure Members where
  /-- The scalar members, in order. -/
  scalars : List ScalarMember := []
  /-- The reference members, in order. -/
  references : List ReferenceMember := []
  deriving DecidableEq

namespace Members

/-- The fields of the entity: scalars, then references. -/
def fields (m : Members) : List String :=
  m.scalars.map (·.fieldName) ++ m.references.map (·.fieldName)

/-- The fields of the transfer object: scalars, then the id fields of references. -/
def dtoFields (m : Members) : List String :=
  m.scalars.map (·.fieldName) ++ m.references.filterMap (·.dtoFieldName)

/-- The scalars that queries may be derived from. -/
def queryable (m : Members) : List ScalarMember := m.scalars.filter fun s => !s.isPrimaryKey

/-- The scalars that queries are derived from, given the greatest number of them. -/
def queried (m : Members) (limit : Int) : List ScalarMember := takeSigned limit m.queryable

/-- The members of a class in a table by class id; none if the table does not have it. -/
def inTable (table : List (String × Members)) (c : ClassNode) : Members :=
  (table.lookup c.id).getD {}

end Members

/-! ## Resolution -/

/-- What is known of keys and members, by class id, and the diagnostics recorded so far. -/
structure Resolution where
  /-- The keys that are known. -/
  keys : List (String × PrimaryKey) := []
  /-- The members that are known. -/
  members : List (String × Members) := []
  /-- The diagnostics, oldest first. -/
  notes : List Diagnostic := []

/-- Computations that resolve keys and members on demand. -/
abbrev Resolve := StateM Resolution

namespace Resolve

/-- Records a diagnostic. -/
def note (finding : Finding) (classId field : Option String) : Resolve Unit :=
  modify fun s => { s with notes := s.notes ++ [⟨finding, classId, field⟩] }

/-- Takes over a result and its diagnostics. -/
def noted {α : Type} (x : Noted α) : Resolve α :=
  modifyGet fun s => (x.value, { s with notes := s.notes ++ x.notes })

/-- Remembers the key of an id. -/
def rememberKey (id : String) (key : PrimaryKey) : Resolve Unit :=
  modify fun s => { s with keys := (id, key) :: s.keys }

/-- Remembers the members of an id. -/
def rememberMembers (id : String) (members : Members) : Resolve Unit :=
  modify fun s => { s with members := (id, members) :: s.members }

end Resolve

/-! ## Keys -/

/-- The key that a class declares: its first primary key attribute, under the name of the
attribute that it references if it is a foreign key too. -/
def ClassNode.ownKey? (c : ClassNode) : Option PrimaryKey :=
  c.primaryKeys.head?.map fun a =>
    { name := if a.isForeignKey then (a.referencedField.filter (· ≠ "")).getD a.name else a.name
      javaType := JavaType.ofDeclared a.type }

namespace Resolve

/-- The key of the first class of a list that is known or declares one. The key is remembered for
every class that is looked at. -/
def keyAlong : List ClassNode → Resolve PrimaryKey
  | [] => return .default
  | c :: rest => do
    match (← get).keys.lookup c.id with
    | some key => return key
    | none =>
      let key ←
        match c.ownKey? with
        | some key => pure key
        | none => keyAlong rest
      rememberKey c.id key
      return key

/-- The key of a class: its own, or that of the nearest ancestor with one. -/
def primaryKey (h : Hierarchy) (c : ClassNode) : Resolve PrimaryKey :=
  keyAlong (c :: h.ancestors c)

/-- The key that the entity of a class exposes: that of the class at the top of its chain. -/
def entityKey (h : Hierarchy) (c : ClassNode) : Resolve PrimaryKey := primaryKey h (h.root c)

end Resolve

/-! ## Members -/

/-- Whether an attribute becomes no field of a class. -/
def Hierarchy.leavesOut (h : Hierarchy) (c : ClassNode) (a : Attribute) : Bool :=
  a.isRelationshipAttribute ||
    match h.parentOf c with
    | some parent =>
      a.isPrimaryKey || parent.attributes.any (·.name = a.name) || a.references parent.name
    | none => false

/-- The class that an attribute is a reference to. Keys are columns even if they reference a
class. -/
def Diagram.referenceTarget? (d : Diagram) (a : Attribute) : Option ClassNode :=
  if a.isReference && !a.isPrimaryKey then a.referencedEntity.bind d.classByName else none

/-- The members that a class starts from: a made-up key if it has no parent and no key. -/
def Hierarchy.startMembers (h : Hierarchy) (c : ClassNode) : Members :=
  if (h.parentOf c).isNone ∧ c.primaryKeys = [] then
    let key := PrimaryKey.default
    { scalars :=
        [{ attr := { name := key.name, type := key.javaType.name, isPrimaryKey := true }
           fieldName := key.name, javaType := key.javaType, synthesized := true }] }
  else {}

namespace Resolve

/-- The members of a class after one more attribute, which asks for a field. -/
def placeAttribute (h : Hierarchy) (c : ClassNode) (m : Members) (a : Attribute)
    (field : String) : Resolve Members := do
  if field ∈ m.fields then
    note (.fieldTaken c.name a.name field) (some c.id) (some a.name)
    return m
  match h.diagram.referenceTarget? a with
  | some target =>
    let reference : ReferenceMember :=
      { attr := a, target := target, fieldName := field, dtoFieldName := some (idField a.name)
        targetKey := ← entityKey h target, idField := none }
    return { m with references := m.references ++ [reference] }
  | none =>
    let scalar : ScalarMember :=
      { attr := a, fieldName := field, javaType := JavaType.ofDeclared a.type }
    return { m with scalars := m.scalars ++ [scalar] }

/-- The members of a class after one more attribute. -/
def addAttribute (h : Hierarchy) (c : ClassNode) (m : Members) (a : Attribute) :
    Resolve Members := do
  if h.leavesOut c a then return m
  let field ← if a.isPrimaryKey then (·.fieldName) <$> primaryKey h c else pure (camelCase a.name)
  placeAttribute h c m a field

end Resolve

/-- Settles the id field and the id query of references, one after the other: `taken` are the
fields that the transfer object has, `fields` the fields of the entity. -/
def settleReferences (c : ClassNode) (fields : List String) (taken : List String) :
    List ReferenceMember → Noted (List ReferenceMember)
  | [] => return []
  | r :: rest => do
    let dtoField := idField r.attr.name
    let dtoFree := dtoField ∉ taken
    if !dtoFree then
      Noted.note (.idFieldTaken c.name r.fieldName dtoField) c.id r.attr.name
    let query := r.fieldName ++ capitalize r.targetKey.fieldName
    let queryFree := query ∉ fields
    if !queryFree then
      Noted.note (.idQueryTaken c.name r.fieldName (findBy query) query) c.id r.attr.name
    let settled : ReferenceMember :=
      { r with
        dtoFieldName := if dtoFree then some dtoField else none
        idField := if queryFree then some query else none }
    let others ← settleReferences c fields (if dtoFree then dtoField :: taken else taken) rest
    return settled :: others

namespace Resolve

/-- Settles the references of a class after those of its ancestors, and remembers its members. -/
def settle (c : ClassNode) (ancestors : List ClassNode) (own : Members) : Resolve Members := do
  let known := (← get).members
  let inherited := ancestors.flatMap fun a => (Members.inTable known a).dtoFields
  let references ← noted <|
    settleReferences c own.fields (own.scalars.map (·.fieldName) ++ inherited) own.references
  let members := { own with references := references }
  rememberMembers c.id members
  return members

/-- The members of the first class of a chain that is given from the class upwards. Those of its
ancestors are resolved after its own attributes have been looked at. -/
def membersAlong (h : Hierarchy) : List ClassNode → Resolve Members
  | [] => return {}
  | c :: rest => do
    match (← get).members.lookup c.id with
    | some members => return members
    | none =>
      let own ← c.attributes.foldlM (addAttribute h c) (h.startMembers c)
      let _ ← membersAlong h rest
      settle c rest own

/-- The members of a class. -/
def membersOf (h : Hierarchy) (c : ClassNode) : Resolve Members :=
  membersAlong h (c :: h.ancestors c)

end Resolve

end Scaffold
