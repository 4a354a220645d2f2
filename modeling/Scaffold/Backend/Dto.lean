import Scaffold.Backend.Basic

/-!
# Transfer objects

The transfer object of a class carries its columns, and the ids of the entities that it
references. That of a child class extends that of its parent. A reference whose id field would
clash with another field is left out.

Main statement: `field_mem_properties` (the fields are those that the members name).
-/

namespace Scaffold

open Naming Java

namespace Dto

/-- A field of a transfer object. -/
structure Field extends Property where
  /-- What is said about the field behind its declaration. -/
  comment : Option String := none
  deriving DecidableEq

/-- The fields of the transfer object of a class. -/
def fields (ctx : Context) (c : ClassNode) : List Field :=
  let members := ctx.membersOf c
  members.scalars.map (fun m => { field := m.fieldName, type := m.javaType.name }) ++
    members.references.filterMap fun r =>
      r.dtoFieldName.map fun field =>
        { field := field, type := r.targetKey.javaType.name
          comment := some s!"FK to {r.target.name}" }

/-- The fields with their accessors. -/
def properties (ctx : Context) (c : ClassNode) : List Property :=
  (fields ctx c).map Field.toProperty

theorem field_mem_properties {ctx : Context} {c : ClassNode} :
    (properties ctx c).map (·.field) = (ctx.membersOf c).dtoFields := by
  simp only [properties, fields, Members.dtoFields, List.map_append, List.map_map,
    List.map_filterMap, Option.map_map, Function.comp_def, Option.map_id']

/-- The declaration of a field. -/
def declaration (f : Field) : String :=
  match f.comment with
  | some comment => s!"private {f.type} {f.field}; // {comment}"
  | none => s!"private {f.type} {f.field};"

/-- The imports of a transfer object. -/
def imports (ctx : Context) (c : ClassNode) : List String :=
  let members := ctx.membersOf c
  "java.io.Serializable" ::
    JavaType.imports
      (members.scalars.map (·.javaType) ++
        (members.references.filter (·.dtoFieldName.isSome)).map (·.targetKey.javaType))

/-- The head of the class declaration. -/
def head (ctx : Context) (c : ClassNode) : String :=
  match ctx.hierarchy.parentOf c with
  | some parent =>
    s!"public class {dtoName c.name} extends {dtoName parent.name} implements Serializable"
  | none => s!"public class {dtoName c.name} implements Serializable"

/-- The source file of the transfer object of a class. -/
def file (ctx : Context) (c : ClassNode) : SourceFile where
  package := ctx.groupPackage .dto
  imports := imports ctx c
  body := braced (head ctx c)
    (["", "private static final long serialVersionUID = 1L;", ""] ++
      (fields ctx c).map declaration ++ [""] ++
      braced s!"public {dtoName c.name}()" [] ++ [""] ++
      (properties ctx c).flatMap Property.code)

end Dto

/-- The text of the transfer object of a class. -/
def dto (ctx : Context) (c : ClassNode) : String := (Dto.file ctx c).text

end Scaffold
