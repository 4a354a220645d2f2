import Scaffold.Json.Value

/-!
# Class diagrams

A diagram consists of classes, the edges between them, and association tables. Ids and names may
repeat. `Diagram.classById` then finds the last class with an id, `Diagram.classByName` the first
class with a name.

Main statements: `id_of_classById` and `mem_of_classById`, `name_of_classByName` and
`mem_of_classByName` (what is found is a class of the diagram and has the id or name).
-/

namespace Scaffold

/-- An attribute of a class. -/
structure Attribute where
  /-- The name. -/
  name : String
  /-- The declared type. -/
  type : String := "String"
  /-- The declared type of the column. -/
  sqlType : Option String := none
  /-- The visibility. -/
  visibility : String := "private"
  /-- Whether the attribute belongs to the class and not to its instances. -/
  isStatic : Bool := false
  /-- Whether the attribute is a primary key. -/
  isPrimaryKey : Bool := false
  /-- Whether the attribute is a foreign key. -/
  isForeignKey : Bool := false
  /-- The name of the class that a foreign key references. -/
  referencedEntity : Option String := none
  /-- The attribute that a foreign key references. -/
  referencedField : Option String := none
  /-- The type that a foreign key references. -/
  referencedType : Option String := none
  /-- Whether the attribute only stands for an edge and becomes no field. -/
  isRelationshipAttribute : Bool := false
  /-- The default value, unless it is `null`. -/
  defaultValue : Option Json.Value := none
  deriving DecidableEq

/-- Whether the attribute is a foreign key and names the class that it references. -/
def Attribute.isReference (a : Attribute) : Bool :=
  a.isForeignKey && a.referencedEntity.any (· ≠ "")

/-- Whether the attribute is a foreign key to a class of the given name. -/
def Attribute.references (a : Attribute) (className : String) : Bool :=
  a.isReference && a.referencedEntity = some className

/-- A class of a diagram. -/
structure ClassNode where
  /-- The id. -/
  id : String
  /-- The name. -/
  name : String
  /-- The attributes, in order. -/
  attributes : List Attribute := []
  /-- The methods, as they are written in the diagram. -/
  methods : List String := []
  /-- The stereotype. -/
  stereotype : Option String := none
  /-- The visibility. -/
  visibility : Option String := none
  /-- The description. -/
  description : String := ""
  deriving DecidableEq

namespace ClassNode

/-- The attributes that are primary keys. -/
def primaryKeys (c : ClassNode) : List Attribute := c.attributes.filter (·.isPrimaryKey)

/-- The foreign keys that name the class that they reference. -/
def foreignKeys (c : ClassNode) : List Attribute := c.attributes.filter (·.isReference)

/-- Whether a foreign key references a class of the given name. -/
def hasReferenceTo (c : ClassNode) (className : String) : Bool :=
  c.foreignKeys.any fun a => a.referencedEntity = some className

end ClassNode

/-- An edge of a diagram. -/
structure Relationship where
  /-- The id. -/
  id : String
  /-- The id at the source end. -/
  source : String
  /-- The id at the target end. -/
  target : String
  /-- The declared type. -/
  type : String := "association"
  /-- The multiplicity at the source end. -/
  sourceMultiplicity : String := ""
  /-- The multiplicity at the target end. -/
  targetMultiplicity : String := ""
  /-- The label. -/
  label : String := ""
  /-- The id or name of the association table that realizes the edge. -/
  associationTable : Option String := none
  /-- A group of edges that belong together. -/
  manyToManyGroup : Option String := none
  deriving DecidableEq

namespace Relationship

/-- Whether a multiplicity admits many. -/
def isMany (multiplicity : String) : Bool := '*' ∈ multiplicity.toList

/-- Whether the source end is many. -/
def isSourceMany (r : Relationship) : Bool := isMany r.sourceMultiplicity

/-- Whether the target end is many. -/
def isTargetMany (r : Relationship) : Bool := isMany r.targetMultiplicity

/-- The id at the end that is opposite to an id. -/
def otherEnd (r : Relationship) (id : String) : String :=
  if r.source = id then r.target else r.source

end Relationship

/-- A class that realizes a many-to-many edge. -/
structure AssociationTable where
  /-- The id. -/
  id : String
  /-- The name. -/
  name : String
  /-- The name of the database table. -/
  tableName : String
  /-- The attributes, in order. -/
  attributes : List Attribute := []
  /-- The attributes that are foreign keys. -/
  foreignKeys : List Attribute := []
  /-- The attributes that are no keys. -/
  additionalAttributes : List Attribute := []
  deriving DecidableEq

/-- The names of the classes that the foreign keys of a table reference. -/
def AssociationTable.referencedEntities (t : AssociationTable) : List (Option String) :=
  t.foreignKeys.map (·.referencedEntity)

/-- A class diagram. -/
structure Diagram where
  /-- The classes, in order. -/
  classes : List ClassNode := []
  /-- The edges, in order. -/
  relationships : List Relationship := []
  /-- The association tables, in order. -/
  associationTables : List AssociationTable := []
  deriving DecidableEq

namespace Diagram

/-- The last class with an id. -/
def classById (d : Diagram) (id : String) : Option ClassNode :=
  d.classes.reverse.find? (·.id = id)

/-- The first class with a name; the empty name names no class. -/
def classByName (d : Diagram) (name : String) : Option ClassNode :=
  if name = "" then none else d.classes.find? (·.name = name)

/-- Whether an id belongs to an association table. -/
def isTable (d : Diagram) (id : String) : Bool := d.associationTables.any (·.id = id)

theorem id_of_classById {d : Diagram} {id : String} {c : ClassNode}
    (h : d.classById id = some c) : c.id = id := by
  simpa using List.find?_some h

theorem mem_of_classById {d : Diagram} {id : String} {c : ClassNode}
    (h : d.classById id = some c) : c ∈ d.classes := by
  simpa using List.mem_of_find?_eq_some h

theorem name_of_classByName {d : Diagram} {name : String} {c : ClassNode}
    (h : d.classByName name = some c) : c.name = name := by
  unfold classByName at h
  split at h
  · cases h
  · simpa using List.find?_some h

theorem mem_of_classByName {d : Diagram} {name : String} {c : ClassNode}
    (h : d.classByName name = some c) : c ∈ d.classes := by
  unfold classByName at h
  split at h
  · cases h
  · exact List.mem_of_find?_eq_some h

end Diagram

end Scaffold
