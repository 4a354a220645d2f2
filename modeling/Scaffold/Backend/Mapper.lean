import Scaffold.Backend.Basic

/-!
# Mappers

The mapper of a class copies entities into transfer objects and back, inherited fields included.
Every mapping is a record of the accessors that it calls; it is used in a direction only if all
that this direction calls are predicted, and is reported otherwise. An update from a transfer
object leaves the key alone.

Main statements: `toDto_predicted` and `toEntity_predicted` (what is used calls nothing that is not
predicted).
-/

namespace Scaffold

open Naming Java

namespace Mapper

/-! ## Mappings -/

/-- The mapping of a column. -/
structure ScalarMapping where
  /-- The field of both classes. -/
  field : String
  /-- The call that reads the entity. -/
  entityRead : AccessorCall
  /-- The call that writes the entity. -/
  entityWrite : AccessorCall
  /-- The call that reads the transfer object. -/
  dtoRead : AccessorCall
  /-- The call that writes the transfer object. -/
  dtoWrite : AccessorCall
  /-- Whether the column is the key. -/
  isPrimaryKey : Bool
  deriving DecidableEq

/-- The mapping of a reference by the key of the referenced entity. -/
structure ReferenceMapping where
  /-- The reference. -/
  reference : ReferenceMember
  /-- The call that reads the reference. -/
  entityRead : AccessorCall
  /-- The call that writes the reference. -/
  entityWrite : AccessorCall
  /-- The call that reads the id of the transfer object. -/
  dtoRead : AccessorCall
  /-- The call that writes the id of the transfer object. -/
  dtoWrite : AccessorCall
  /-- The call that reads the key of the referenced entity. -/
  keyRead : AccessorCall
  /-- The call that writes the key of the referenced entity. -/
  keyWrite : AccessorCall
  deriving DecidableEq

/-- The mapping of a scalar member of a class. -/
def ofScalar (c : ClassNode) (m : ScalarMember) : ScalarMapping where
  field := m.fieldName
  entityRead := ⟨c, .entity, .read, m.fieldName⟩
  entityWrite := ⟨c, .entity, .write, m.fieldName⟩
  dtoRead := ⟨c, .dto, .read, m.fieldName⟩
  dtoWrite := ⟨c, .dto, .write, m.fieldName⟩
  isPrimaryKey := m.isPrimaryKey

/-- The mapping of a reference member of a class, if it has an id field. -/
def ofReference? (c : ClassNode) (r : ReferenceMember) : Option ReferenceMapping :=
  r.dtoFieldName.map fun field =>
    { reference := r
      entityRead := ⟨c, .entity, .read, r.fieldName⟩
      entityWrite := ⟨c, .entity, .write, r.fieldName⟩
      dtoRead := ⟨c, .dto, .read, field⟩
      dtoWrite := ⟨c, .dto, .write, field⟩
      keyRead := ⟨r.target, .entity, .read, r.targetKey.fieldName⟩
      keyWrite := ⟨r.target, .entity, .write, r.targetKey.fieldName⟩ }

namespace ScalarMapping

/-- The calls for mapping to the transfer object. -/
def toDtoCalls (m : ScalarMapping) : List AccessorCall := [m.entityRead, m.dtoWrite]

/-- The calls for mapping to the entity. -/
def toEntityCalls (m : ScalarMapping) : List AccessorCall := [m.dtoRead, m.entityWrite]

/-- The code for mapping to the transfer object. -/
def toDto (m : ScalarMapping) : Statements :=
  [m.dtoWrite.code "dto" (m.entityRead.code "entity") ++ ";"]

/-- The code for mapping to the entity. -/
def toEntity (m : ScalarMapping) : Statements :=
  [m.entityWrite.code "entity" (m.dtoRead.code "dto") ++ ";"]

/-- The code for mapping to the entity what the transfer object has. -/
def update (m : ScalarMapping) : Statements :=
  .braced ("if (" ++ m.dtoRead.code "dto" ++ " != null)") m.toEntity

end ScalarMapping

namespace ReferenceMapping

/-- The calls for mapping to the transfer object. -/
def toDtoCalls (m : ReferenceMapping) : List AccessorCall := [m.entityRead, m.keyRead, m.dtoWrite]

/-- The calls for mapping to the entity. -/
def toEntityCalls (m : ReferenceMapping) : List AccessorCall :=
  [m.dtoRead, m.keyWrite, m.entityWrite]

/-- The code for mapping to the transfer object. -/
def toDto (m : ReferenceMapping) : Statements :=
  let related := m.entityRead.code "entity"
  .braced ("if (" ++ related ++ " != null)")
    [m.dtoWrite.code "dto" (m.keyRead.code related) ++ ";"]

/-- The code for mapping to the entity. -/
def toEntity (m : ReferenceMapping) : Statements :=
  let id := m.dtoRead.code "dto"
  let target := m.reference.target.name
  let stub := m.reference.fieldName ++ "Temp"
  .braced ("if (" ++ id ++ " != null)")
    [s!"{target} {stub} = new {target}();", m.keyWrite.code stub id ++ ";",
      m.entityWrite.code "entity" stub ++ ";"]

end ReferenceMapping

/-- The mappings of the columns of a class. -/
def scalarMappings (ctx : Context) (c : ClassNode) : List ScalarMapping :=
  (ctx.chainScalars c).map (ofScalar c)

/-- The mappings of the references of a class. -/
def referenceMappings (ctx : Context) (c : ClassNode) : List ReferenceMapping :=
  (ctx.chainReferences c).filterMap (ofReference? c)

/-! ## Gaps -/

/-- The diagnostics for a field that is not mapped in both directions. -/
def gapNotes (c : ClassNode) (field : String) (toDto toEntity : Bool) : List Diagnostic :=
  (if toDto then [] else [⟨.unmappedToDto c.name field, some c.id, some field⟩]) ++
    if toEntity then [] else [⟨.unmappedToEntity c.name field, some c.id, some field⟩]

/-- The diagnostics for the mapping of a column. -/
def scalarNotes (ctx : Context) (c : ClassNode) (m : ScalarMapping) : List Diagnostic :=
  gapNotes c m.field (ctx.predictsAll m.toDtoCalls) (ctx.predictsAll m.toEntityCalls)

/-- The diagnostics for the mapping of a reference. -/
def referenceNotes (ctx : Context) (c : ClassNode) (r : ReferenceMember) : List Diagnostic :=
  match ofReference? c r with
  | none => gapNotes c r.fieldName false false
  | some m =>
    gapNotes c r.fieldName (ctx.predictsAll m.toDtoCalls) (ctx.predictsAll m.toEntityCalls)

/-! ## Use -/

/-- What a mapper does in one direction. -/
structure Plan where
  /-- The mappings of columns. -/
  scalars : List ScalarMapping
  /-- The mappings of references. -/
  references : List ReferenceMapping

/-- The mappings that are used towards the transfer object. -/
def toDtoPlan (ctx : Context) (c : ClassNode) : Plan where
  scalars := (scalarMappings ctx c).filter fun m => ctx.predictsAll m.toDtoCalls
  references := (referenceMappings ctx c).filter fun m => ctx.predictsAll m.toDtoCalls

/-- The mappings that are used towards the entity. -/
def toEntityPlan (ctx : Context) (c : ClassNode) : Plan where
  scalars := (scalarMappings ctx c).filter fun m => ctx.predictsAll m.toEntityCalls
  references := (referenceMappings ctx c).filter fun m => ctx.predictsAll m.toEntityCalls

/-- The mappings that are used for an update. -/
def updatePlan (ctx : Context) (c : ClassNode) : Plan :=
  let plan := toEntityPlan ctx c
  { plan with scalars := plan.scalars.filter fun m => !m.isPrimaryKey }

theorem toDto_predicted {ctx : Context} {c : ClassNode} {m : ScalarMapping}
    (h : m ∈ (toDtoPlan ctx c).scalars) : ∀ call ∈ m.toDtoCalls, ctx.predicts call = true := by
  simpa [Context.predictsAll] using (List.mem_filter.1 h).2

theorem toEntity_predicted {ctx : Context} {c : ClassNode} {m : ScalarMapping}
    (h : m ∈ (toEntityPlan ctx c).scalars) :
    ∀ call ∈ m.toEntityCalls, ctx.predicts call = true := by
  simpa [Context.predictsAll] using (List.mem_filter.1 h).2

/-! ## Code -/

/-- The statements for mapping to the transfer object. -/
def toDtoCode (ctx : Context) (c : ClassNode) : Statements :=
  let plan := toDtoPlan ctx c
  plan.scalars.flatMap (·.toDto) ++ plan.references.flatMap (·.toDto)

/-- The statements for mapping to the entity. -/
def toEntityCode (ctx : Context) (c : ClassNode) : Statements :=
  let plan := toEntityPlan ctx c
  plan.scalars.flatMap (·.toEntity) ++ plan.references.flatMap (·.toEntity)

/-- The statements of an update. -/
def updateCode (ctx : Context) (c : ClassNode) : Statements :=
  let plan := updatePlan ctx c
  plan.scalars.flatMap (·.update) ++ plan.references.flatMap (·.toEntity)

/-! ## Files -/

/-- The margin of the templates of mappers. -/
def margin : Nat := 3

/-- The beginning of a method that returns early if its argument is missing. -/
def opening (head condition early : String) (start : Lines) : Lines :=
  template margin 0 <|
    (head ++ " \x7b") :: indented 1 (braced s!"if ({condition})" [early] ++ start)

/-- The method that makes a transfer object. -/
def toDtoMethod (ctx : Context) (c : ClassNode) : Lines :=
  let dto := dtoName c.name
  opening s!"public {dto} toDTO({c.name} entity)" "entity == null" "return null;"
      [s!"{dto} dto = new {dto}();"] ++
    indented 1 ((toDtoCode ctx c).written ++ ["return dto;"]) ++ ["\x7d", ""]

/-- The method that makes an entity. -/
def toEntityMethod (ctx : Context) (c : ClassNode) : Lines :=
  let dto := dtoName c.name
  opening s!"public {c.name} toEntity({dto} dto)" "dto == null" "return null;"
      [s!"{c.name} entity = new {c.name}();"] ++
    indented 1 ((toEntityCode ctx c).written ++ ["return entity;"]) ++ ["\x7d", ""]

/-- The method that updates an entity with what a transfer object has. -/
def updateMethod (ctx : Context) (c : ClassNode) : Lines :=
  let dto := dtoName c.name
  opening s!"public void updateEntityFromDTO({c.name} entity, {dto} dto)"
      "dto == null || entity == null" "return;" [] ++
    indented 1 (updateCode ctx c).written ++ ["\x7d", ""]

/-- The methods for lists. -/
def listMethods (c : ClassNode) : Lines :=
  let dto := dtoName c.name
  let method (result name parameter list step : String) : Lines :=
    braced s!"public List<{result}> {name}(List<{parameter}> {list})"
      (braced s!"if ({list} == null)" ["return List.of();"] ++
        [s!"return {list}.stream().map(this::{step}).collect(Collectors.toList());"])
  template margin 0 <|
    method dto "toDTOList" c.name "entities" "toDTO" ++ [""] ++
      method c.name "toEntityList" dto "dtos" "toEntity"

/-- The imports of a mapper. -/
def imports (ctx : Context) (c : ClassNode) : List String :=
  [ctx.groupImport .entities c.name, ctx.groupImport .dto (dtoName c.name),
    "org.springframework.stereotype.Component", "java.util.List", "java.util.stream.Collectors"] ++
    (referenceMappings ctx c).map fun m => ctx.groupImport .entities m.reference.target.name

/-- The source file of the mapper of a class. -/
def file (ctx : Context) (c : ClassNode) : Noted SourceFile :=
  ⟨{ package := ctx.groupPackage .mappers
     imports := imports ctx c
     body := "@Component" :: braced s!"public class {c.name}Mapper"
      ("" :: toDtoMethod ctx c ++ toEntityMethod ctx c ++ updateMethod ctx c ++ listMethods c) },
    (scalarMappings ctx c).flatMap (scalarNotes ctx c) ++
      (ctx.chainReferences c).flatMap (referenceNotes ctx c)⟩

end Mapper

/-- The text of the mapper of a class. -/
def mapper (ctx : Context) (c : ClassNode) : Noted String := do
  return (← Mapper.file ctx c).text

end Scaffold
