import Scaffold.Diagram.Document
import Scaffold.Json.Writer

/-!
# Writing diagrams

`Diagram.document` is the document of a diagram, and `Diagram.save` its text. A field stands under
its name in camel case, in a fixed order, and is left out if it has no value. Association tables
are written as classes with their stereotype.
-/

namespace Scaffold

open Json

namespace Export

/-- A field that is always written. -/
def field (name : String) (v : Value) : Fields := [(name, v)]

/-- A field that is left out if it has no value. -/
def optional (name : String) (v : Option Value) : Fields := v.toList.map fun v => (name, v)

/-- A text that may be missing. -/
def optionalText (name : String) (s : Option String) : Fields := optional name (s.map .str)

/-- The fields of an attribute. -/
def attributeFields (a : Attribute) : Fields :=
  field "name" (.str a.name) ++ field "type" (.str a.type) ++
    optionalText "sqlType" a.sqlType ++ field "visibility" (.str a.visibility) ++
    field "isStatic" (.bool a.isStatic) ++ field "isPrimaryKey" (.bool a.isPrimaryKey) ++
    field "isForeignKey" (.bool a.isForeignKey) ++
    optionalText "referencedEntity" a.referencedEntity ++
    optionalText "referencedField" a.referencedField ++
    optionalText "referencedType" a.referencedType ++
    field "isRelationshipAttribute" (.bool a.isRelationshipAttribute) ++
    optional "defaultValue" a.defaultValue

/-- The attributes of a class. -/
def attributeList (attributes : List Attribute) : Value :=
  .arr (attributes.map fun a => .obj (attributeFields a))

/-- The fields of a class. -/
def classFields (c : ClassNode) : Fields :=
  field "id" (.str c.id) ++ field "name" (.str c.name) ++
    field "attributes" (attributeList c.attributes) ++
    field "methods" (.arr (c.methods.map .str)) ++ optionalText "stereotype" c.stereotype ++
    optionalText "visibility" c.visibility ++ field "description" (.str c.description) ++
    field "type" (.str "class")

/-- The fields of an association table. -/
def tableFields (t : AssociationTable) : Fields :=
  field "id" (.str t.id) ++ field "name" (.str t.name) ++ field "type" (.str "class") ++
    field "stereotype" (.str Document.tableStereotype) ++
    field "attributes" (attributeList t.attributes)

/-- The fields of an edge. -/
def relationshipFields (r : Relationship) : Fields :=
  field "id" (.str r.id) ++ field "source" (.str r.source) ++ field "target" (.str r.target) ++
    field "type" (.str r.type) ++ field "sourceMultiplicity" (.str r.sourceMultiplicity) ++
    field "targetMultiplicity" (.str r.targetMultiplicity) ++ field "label" (.str r.label) ++
    optionalText "associationTable" r.associationTable ++
    optionalText "manyToManyGroup" r.manyToManyGroup

end Export

namespace Diagram

/-- The fields of the document of a diagram. -/
def documentFields (d : Diagram) : Fields :=
  [("elements", .arr <|
      (d.classes.map fun c => .obj (Export.classFields c)) ++
        d.associationTables.map fun t => .obj (Export.tableFields t)),
    ("connections", .arr (d.relationships.map fun r => .obj (Export.relationshipFields r)))]

/-- The document of a diagram. -/
def document (d : Diagram) : Value := .obj d.documentFields

/-- The text of the document of a diagram. -/
def save (d : Diagram) : String := d.document.write

end Diagram

end Scaffold
