import Scaffold.Backend.Basic

/-!
# Join entities

The entity of an association table has a composite key with a part for each foreign key of the
table, a reference for each foreign key that leads to a class, and a field for each further
attribute. Setting a reference also sets its part of the key, provided that the referenced entity
has a getter for its key. Foreign keys that lead to no class are reported and have only their part
of the key.

Main statements: `length_keyColumns` (every foreign key has a part of the key) and `relation_sound`
(references lead to classes of the diagram).
-/

namespace Scaffold

open Naming Java Text

namespace JoinEntity

/-! ## Keys -/

/-- A foreign key of an association table. -/
structure KeyColumn where
  /-- The attribute. -/
  attr : Attribute
  /-- The class that it leads to. -/
  target : Option ClassNode
  /-- The field of the reference. -/
  relationField : String
  /-- The field of the part of the key. -/
  keyField : String
  /-- The type of the part of the key. -/
  javaType : JavaType
  deriving DecidableEq

/-- The type of a part of the key: the referenced type if it is given, or else the declared type
if it is no text, or else that of the key that is referenced. -/
def keyType (ctx : Context) (a : Attribute) (target : Option ClassNode) : JavaType :=
  match a.referencedType.filter (· ≠ "") with
  | some declared => JavaType.ofDeclared declared
  | none =>
    let declared := JavaType.ofDeclared a.type
    if declared ≠ .string then declared
    else
      match target with
      | some target => (ctx.entityKey target).javaType
      | none => PrimaryKey.default.javaType

/-- The key column of a foreign key. Its field is called after the referenced class, or after the
attribute if the former name is used. -/
def keyColumn (ctx : Context) (used : List String) (a : Attribute) : KeyColumn :=
  let target := a.referencedEntity.bind ctx.diagram.classByName
  let byClass := camelCase ((a.referencedEntity.filter (· ≠ "")).getD a.name)
  let field := if byClass ∈ used then camelCase a.name else byClass
  { attr := a, target := target, relationField := field, keyField := field ++ "Id"
    javaType := keyType ctx a target }

/-- The key columns of some foreign keys, given the fields that are used. -/
def keyColumnsFrom (ctx : Context) (used : List String) : List Attribute → List KeyColumn
  | [] => []
  | a :: rest =>
    let column := keyColumn ctx used a
    column :: keyColumnsFrom ctx (column.relationField :: used) rest

end JoinEntity

/-- The key columns of an association table. -/
def keyColumns (ctx : Context) (t : AssociationTable) : List JoinEntity.KeyColumn :=
  JoinEntity.keyColumnsFrom ctx [] t.foreignKeys

namespace JoinEntity

theorem length_keyColumnsFrom (ctx : Context) (used : List String) (l : List Attribute) :
    (keyColumnsFrom ctx used l).length = l.length := by
  induction l generalizing used with
  | nil => rfl
  | cons a rest ih => simp [keyColumnsFrom, ih]

theorem length_keyColumns (ctx : Context) (t : AssociationTable) :
    (keyColumns ctx t).length = t.foreignKeys.length :=
  length_keyColumnsFrom ctx [] t.foreignKeys

/-- What a key column leads to is a class of the diagram. -/
theorem mem_classes_of_target {ctx : Context} {used : List String} {l : List Attribute}
    {column : KeyColumn} (hcolumn : column ∈ keyColumnsFrom ctx used l) {target : ClassNode}
    (htarget : column.target = some target) : target ∈ ctx.diagram.classes := by
  induction l generalizing used with
  | nil => cases hcolumn
  | cons a rest ih =>
    rcases List.mem_cons.1 hcolumn with rfl | hcolumn
    · obtain ⟨name, -, hname⟩ := Option.bind_eq_some_iff.1 htarget
      exact Diagram.mem_of_classByName hname
    · exact ih hcolumn

/-- The name of the class of the composite key. -/
def keyClass (t : AssociationTable) : String := t.name ++ "Id"

/-! ## References -/

/-- A reference of a join entity to a class. -/
structure Relation where
  /-- The key column. -/
  column : KeyColumn
  /-- The class. -/
  target : ClassNode
  /-- The call that reads the key of the class. -/
  keyRead : AccessorCall
  deriving DecidableEq

/-- The references of a join entity. -/
def relations (ctx : Context) (t : AssociationTable) : List Relation :=
  (keyColumns ctx t).filterMap fun column =>
    column.target.map fun target =>
      ⟨column, target, ⟨target, .entity, .read, (ctx.entityKey target).fieldName⟩⟩

/-- The reference of a join entity leads to a class of the diagram, whose key it reads. -/
theorem relation_sound {ctx : Context} {t : AssociationTable} {r : Relation}
    (hr : r ∈ relations ctx t) :
    r.target ∈ ctx.diagram.classes ∧
      r.keyRead = ⟨r.target, .entity, .read, (ctx.entityKey r.target).fieldName⟩ := by
  obtain ⟨column, hcolumn, hr⟩ := List.mem_filterMap.1 hr
  obtain ⟨target, htarget, rfl⟩ := Option.map_eq_some_iff.1 hr
  exact ⟨mem_classes_of_target hcolumn htarget, rfl⟩

/-- The diagnostics for the foreign keys that lead to no class. -/
def targetNotes (ctx : Context) (t : AssociationTable) : List Diagnostic :=
  (keyColumns ctx t).filterMap fun column =>
    if column.target.isSome then none
    else
      some ⟨.unknownKeyTarget t.name (column.attr.referencedEntity.getD "None"), some t.id,
        some column.attr.name⟩

/-- The diagnostic for a reference whose part of the key is not set with it. -/
def syncObstacle? (ctx : Context) (t : AssociationTable) (r : Relation) : Option Diagnostic :=
  ctx.obstacle? [r.keyRead]
    ⟨.keyOutOfSync r.target.name r.keyRead.method t.name r.column.relationField, some t.id,
      some r.column.relationField⟩

/-- The declaration of the field of a reference. -/
def relationField (r : Relation) : Lines :=
  let column := snakeCase r.column.attr.name
  ["@ManyToOne(fetch = FetchType.LAZY)",
    s!"@MapsId(\"{r.column.keyField}\")",
    s!"@JoinColumn(name = \"{column}\")",
    jsonIgnore [] 0,
    s!"private {r.target.name} {r.column.relationField};",
    ""]

/-- The code that sets the part of the key that belongs to a reference. -/
def syncKey (t : AssociationTable) (r : Relation) : Statements :=
  let field := r.column.relationField
  .braced s!"if ({field} != null)"
    (Statements.braced "if (this.id == null)" [s!"this.id = new {keyClass t}();"] ++
      [s!"this.id.{setter r.column.keyField}(" ++ r.keyRead.code field ++ ");"])

/-- What the setter of a reference does beside setting it. -/
def syncCode (ctx : Context) (t : AssociationTable) (r : Relation) : Statements :=
  if (syncObstacle? ctx t r).isNone then syncKey t r else []

/-- The accessors of a reference. -/
def relationAccessors (ctx : Context) (t : AssociationTable) (r : Relation) : Lines :=
  let field := r.column.relationField
  braced s!"public {r.target.name} {getter field}()" [s!"return {field};"] ++ [""] ++
    braced s!"public void {setter field}({r.target.name} {field})"
      (s!"this.{field} = {field};" :: (syncCode ctx t r).written) ++
    [""]

/-! ## Further attributes -/

/-- A further attribute of an association table. -/
structure Extra where
  /-- The column. -/
  column : String
  /-- The field. -/
  field : String
  /-- The type of the field. -/
  javaType : JavaType
  deriving DecidableEq

/-- The further attributes of an association table. -/
def extras (t : AssociationTable) : List Extra :=
  t.additionalAttributes.map fun a =>
    ⟨snakeCase a.name, camelCase a.name, JavaType.ofDeclared a.type⟩

/-- The declaration of the field of a further attribute. -/
def extraField (e : Extra) : Lines :=
  [if e.javaType = .string then "@NotBlank" else "@NotNull",
    s!"@Column(name = \"{e.column}\")",
    s!"private {e.javaType.name} {e.field};",
    ""]

/-! ## Files -/

/-- The class of the composite key. -/
def keyClassCode (t : AssociationTable) (columns : List KeyColumn) : Lines :=
  let name := keyClass t
  let parameters := joinTexts ", " (columns.map fun k => s!"{k.javaType.name} {k.keyField}")
  let fields := columns.flatMap fun k =>
    let column := snakeCase k.attr.name
    [s!"@Column(name = \"{column}\")", s!"private {k.javaType.name} {k.keyField};", ""]
  let fullConstructor :=
    if columns.isEmpty then []
    else
      braced s!"public {name}({parameters})"
        (columns.map fun k => s!"this.{k.keyField} = {k.keyField};") ++ [""]
  "@Embeddable" :: braced s!"public static class {name} implements Serializable"
    (["", "private static final long serialVersionUID = 1L;", ""] ++ fields ++
      braced s!"public {name}()" [] ++ [""] ++ fullConstructor ++
      columns.flatMap (fun k => (Property.mk k.keyField k.javaType.name).code) ++
      equalsAndHash name (columns.map (·.keyField)) 0)

/-- The imports of a join entity. -/
def imports (ctx : Context) (t : AssociationTable) : List String :=
  ["jakarta.persistence.*", "jakarta.validation.constraints.*", "java.io.Serializable",
    "java.util.Objects", "com.fasterxml.jackson.annotation.JsonIgnoreProperties"] ++
    JavaType.imports ((keyColumns ctx t).map (·.javaType) ++ (extras t).map (·.javaType))

/-- The source file of the join entity of an association table. -/
def file (ctx : Context) (t : AssociationTable) : Noted SourceFile :=
  let related := relations ctx t
  let key := keyClass t
  ⟨{ package := ctx.groupPackage .entities
     imports := imports ctx t
     body := ["@Entity", s!"@Table(name = \"{t.tableName}\")"] ++
      braced s!"public class {t.name}"
        (["", "@EmbeddedId", s!"private {key} id;", ""] ++
          related.flatMap relationField ++ (extras t).flatMap extraField ++
          braced s!"public {t.name}()" [] ++ [""] ++
          braced s!"public {t.name}({key} id)" ["this.id = id;"] ++ [""] ++
          accessors "id" key "getId" "setId" 0 ++
          related.flatMap (relationAccessors ctx t) ++
          (extras t).flatMap (fun e => (Property.mk e.field e.javaType.name).code) ++
          equalsAndHash t.name ["id"] 0 ++ keyClassCode t (keyColumns ctx t)) },
    targetNotes ctx t ++ related.filterMap (syncObstacle? ctx t)⟩

end JoinEntity

/-- The text of the join entity of an association table. -/
def joinEntity (ctx : Context) (t : AssociationTable) : Noted String := do
  return (← JoinEntity.file ctx t).text

end Scaffold
