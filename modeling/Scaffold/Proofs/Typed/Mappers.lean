import Scaffold.Proofs.Typed.Beans

/-!
# Mappers with their types

The file of a mapper with the types told apart. An entity that is referenced is a type of the
mapper where the mapper makes one to hold a key.

Main statements: `Mapper.artifact_typedFile` (the file is the one that is generated) and
`Mapper.allTypes_typedFile` (the types in it).
-/

namespace Scaffold

open Naming Java Text TypedCode

namespace Mapper

/-- The code for mapping a column to the transfer object. -/
def typedScalarToDto (m : ScalarMapping) : TypedCode :=
  lines [.call m.dtoWrite "dto" (.call m.entityRead "entity") ++ ";"]

/-- The code for mapping a column to the entity. -/
def typedScalarToEntity (m : ScalarMapping) : TypedCode :=
  lines [.call m.entityWrite "entity" (.call m.dtoRead "dto") ++ ";"]

/-- The code for mapping a column to the entity if the transfer object has it. -/
def typedScalarUpdate (m : ScalarMapping) : TypedCode :=
  braced ("if (" ++ .call m.dtoRead "dto" ++ " != null)") (typedScalarToEntity m)

/-- The code for mapping a reference to the transfer object. -/
def typedReferenceToDto (m : ReferenceMapping) : TypedCode :=
  let related : TypedLine := .call m.entityRead "entity"
  braced ("if (" ++ related ++ " != null)")
    (lines [.call m.dtoWrite "dto" (.call m.keyRead related) ++ ";"])

/-- The code for mapping a reference to the entity. -/
def typedReferenceToEntity (m : ReferenceMapping) : TypedCode :=
  let id : TypedLine := .call m.dtoRead "dto"
  let target := m.reference.target.entityUse
  let stub : TypedLine := .word (m.reference.fieldName ++ "Temp")
  braced ("if (" ++ id ++ " != null)")
    (lines [target ++ " " ++ stub ++ " = new " ++ target ++ "();",
      .call m.keyWrite stub id ++ ";", .call m.entityWrite "entity" stub ++ ";"])

theorem written_scalarToDto (m : ScalarMapping) :
    (typedScalarToDto m).written = Statements.written m.toDto := by
  simp only [ScalarMapping.toDto, Statements.written_cons, Statements.written_nil,
    Line.written_append, Line.written_text, AccessorCall.written_code]
  rfl

theorem written_scalarToEntity (m : ScalarMapping) :
    (typedScalarToEntity m).written = Statements.written m.toEntity := by
  simp only [ScalarMapping.toEntity, Statements.written_cons, Statements.written_nil,
    Line.written_append, Line.written_text, AccessorCall.written_code]
  rfl

theorem written_scalarUpdate (m : ScalarMapping) :
    (typedScalarUpdate m).written = Statements.written m.update := by
  simp only [ScalarMapping.update, Statements.written_braced, Line.written_append,
    Line.written_text, AccessorCall.written_code, ← written_scalarToEntity]
  rfl

theorem written_referenceToDto (m : ReferenceMapping) :
    (typedReferenceToDto m).written = Statements.written m.toDto := by
  simp only [ReferenceMapping.toDto, Statements.written_braced, Statements.written_cons,
    Statements.written_nil, Line.written_append, Line.written_text, AccessorCall.written_code]
  rfl

theorem written_referenceToEntity (m : ReferenceMapping) :
    (typedReferenceToEntity m).written = Statements.written m.toEntity := by
  simp only [ReferenceMapping.toEntity, Statements.written_braced, Statements.written_cons,
    Statements.written_nil, Line.written_append, Line.written_text, AccessorCall.written_code]
  rfl

/-- The beginning of a method that returns early if its argument is missing. -/
def typedOpening (head : TypedLine) (condition early : String) (start : TypedCode) : TypedCode :=
  template margin 0 <|
    lines [head ++ " \x7b"] ++
      indented 1 (braced ("if (" ++ condition ++ ")") (lines [early]) ++ start)

/-- The method that makes a transfer object. -/
def typedToDtoMethod (ctx : Context) (c : ClassNode) : TypedCode :=
  let plan := toDtoPlan ctx c
  typedOpening ("public " ++ c.dtoUse ++ " toDTO(" ++ c.entityUse ++ " entity)") "entity == null"
      "return null;" (lines [c.dtoUse ++ " dto = new " ++ c.dtoUse ++ "();"]) ++
    indented 1
      (each plan.scalars typedScalarToDto ++ each plan.references typedReferenceToDto ++
        lines ["return dto;"]) ++
    lines ["\x7d", ""]

/-- The method that makes an entity. -/
def typedToEntityMethod (ctx : Context) (c : ClassNode) : TypedCode :=
  let plan := toEntityPlan ctx c
  typedOpening ("public " ++ c.entityUse ++ " toEntity(" ++ c.dtoUse ++ " dto)") "dto == null"
      "return null;" (lines [c.entityUse ++ " entity = new " ++ c.entityUse ++ "();"]) ++
    indented 1
      (each plan.scalars typedScalarToEntity ++ each plan.references typedReferenceToEntity ++
        lines ["return entity;"]) ++
    lines ["\x7d", ""]

/-- The method that updates an entity with what a transfer object has. -/
def typedUpdateMethod (ctx : Context) (c : ClassNode) : TypedCode :=
  let plan := updatePlan ctx c
  typedOpening
      ("public void updateEntityFromDTO(" ++ c.entityUse ++ " entity, " ++ c.dtoUse ++ " dto)")
      "dto == null || entity == null" "return;" (lines []) ++
    indented 1
      (each plan.scalars typedScalarUpdate ++ each plan.references typedReferenceToEntity) ++
    lines ["\x7d", ""]

/-- A method for lists. -/
def typedListMethod (result : TypedLine) (name : String) (parameter : TypedLine)
    (list step : String) : TypedCode :=
  braced ("public List<" ++ result ++ "> " ++ name ++ "(List<" ++ parameter ++ "> " ++ list ++ ")")
    (braced ("if (" ++ list ++ " == null)") (lines ["return List.of();"]) ++
      lines ["return " ++ list ++ ".stream().map(this::" ++ step ++
        ").collect(Collectors.toList());"])

/-- The methods for lists. -/
def typedListMethods (c : ClassNode) : TypedCode :=
  template margin 0 <|
    typedListMethod c.dtoUse "toDTOList" c.entityUse "entities" "toDTO" ++ lines [""] ++
      typedListMethod c.entityUse "toEntityList" c.dtoUse "dtos" "toEntity"

theorem written_toDtoMethod (ctx : Context) (c : ClassNode) :
    (typedToDtoMethod ctx c).written = toDtoMethod ctx c := by
  simp only [toDtoMethod, toDtoCode, Statements.written_append, Statements.written_flatMap,
    ← written_scalarToDto, ← written_referenceToDto, ← written_each]
  rfl

theorem written_toEntityMethod (ctx : Context) (c : ClassNode) :
    (typedToEntityMethod ctx c).written = toEntityMethod ctx c := by
  simp only [toEntityMethod, toEntityCode, Statements.written_append, Statements.written_flatMap,
    ← written_scalarToEntity, ← written_referenceToEntity, ← written_each]
  rfl

theorem written_updateMethod (ctx : Context) (c : ClassNode) :
    (typedUpdateMethod ctx c).written = updateMethod ctx c := by
  simp only [updateMethod, updateCode, Statements.written_append, Statements.written_flatMap,
    ← written_scalarUpdate, ← written_referenceToEntity, ← written_each]
  rfl

theorem written_listMethods (c : ClassNode) : (typedListMethods c).written = listMethods c := rfl

/-- The file of the mapper of a class. -/
def typedFile (ctx : Context) (c : ClassNode) : TypedFile where
  group := .mappers
  name := c.name ++ "Mapper"
  imports := imports ctx c
  code :=
    lines ["@Component"] ++ braced ("public class " ++ c.mapperUse)
      (lines [""] ++ typedToDtoMethod ctx c ++ typedToEntityMethod ctx c ++
        typedUpdateMethod ctx c ++ typedListMethods c)

theorem artifact_typedFile (ctx : Context) (c : ClassNode) :
    (typedFile ctx c).artifact ctx = ⟨.mappers, c.name ++ "Mapper", (mapper ctx c).value⟩ := by
  have hhead : ("public class " ++ c.mapperUse : TypedLine).written =
      s!"public class {c.name}Mapper" := (String.append_assoc ..).symm
  have hbody : (typedFile ctx c).code.written = (file ctx c).value.body := by
    simp only [typedFile, file, TypedCode.written_append, written_lines, List.map_cons,
      List.map_nil, TypedLine.written_text, List.cons_append, List.nil_append, written_braced,
      hhead, written_toDtoMethod, written_toEntityMethod, written_updateMethod, written_listMethods]
  exact TypedFile.artifact_eq hbody rfl rfl

section
variable {P : TypeUse → Prop} {ctx : Context} {c : ClassNode}

@[simp] theorem allTypes_opening (head : TypedLine) (condition early : String) (start : TypedCode) :
    (typedOpening head condition early start).AllTypes P ↔
      head.AllTypes P ∧ (isPlain condition = true ∧ isPlain early = true) ∧ start.AllTypes P := by
  simp (disch := first | exact rfl | decide) [typedOpening, isPlain_of_chars]

theorem allTypes_referenceToEntity {m : ReferenceMapping}
    (htarget : P (.generated .entities m.reference.target.name)) :
    (typedReferenceToEntity m).AllTypes P := by
  simp (disch := first | exact rfl | decide) [typedReferenceToEntity, isPlain_of_chars, htarget]

/-- The types in a mapper are the mapper, the transfer object, the entity, and the entities that are
referenced. -/
theorem allTypes_typedFile (hmapper : P (.generated .mappers (c.name ++ "Mapper")))
    (hdto : P (.generated .dto (dtoName c.name))) (hentity : P (.generated .entities c.name))
    (htargets : ∀ m ∈ referenceMappings ctx c, P (.generated .entities m.reference.target.name)) :
    (typedFile ctx c).code.AllTypes P := by
  have hscalarToDto : ∀ m, (typedScalarToDto m).AllTypes P := by
    intro m
    simp (disch := first | exact rfl | decide) [typedScalarToDto, isPlain_of_chars]
  have hscalarToEntity : ∀ m, (typedScalarToEntity m).AllTypes P := by
    intro m
    simp (disch := first | exact rfl | decide) [typedScalarToEntity, isPlain_of_chars]
  have hscalarUpdate : ∀ m, (typedScalarUpdate m).AllTypes P := by
    intro m
    simp (disch := first | exact rfl | decide) [typedScalarUpdate, isPlain_of_chars,
      hscalarToEntity]
  have hreferenceToDto : ∀ m, (typedReferenceToDto m).AllTypes P := by
    intro m
    simp (disch := first | exact rfl | decide) [typedReferenceToDto, isPlain_of_chars]
  have hreferences : ∀ m ∈ (toEntityPlan ctx c).references, (typedReferenceToEntity m).AllTypes P :=
    fun m hm => allTypes_referenceToEntity (htargets m (List.mem_of_mem_filter hm))
  have hupdates : ∀ m ∈ (updatePlan ctx c).references, (typedReferenceToEntity m).AllTypes P :=
    hreferences
  have htoDto : (typedToDtoMethod ctx c).AllTypes P := by
    simp (disch := first | exact rfl | decide) [typedToDtoMethod, isPlain_of_chars, hdto,
      hentity, hscalarToDto, hreferenceToDto]
  have htoEntity : (typedToEntityMethod ctx c).AllTypes P := by
    simpa (disch := first | exact rfl | decide) [typedToEntityMethod, isPlain_of_chars, hdto,
      hentity, hscalarToEntity]
      using hreferences
  have hupdate : (typedUpdateMethod ctx c).AllTypes P := by
    simpa (disch := first | exact rfl | decide) [typedUpdateMethod, isPlain_of_chars, hdto,
      hentity, hscalarUpdate]
      using hupdates
  have hlists : (typedListMethods c).AllTypes P := by
    simp (disch := first | exact rfl | decide) [typedListMethods, typedListMethod,
      isPlain_of_chars, hdto, hentity]
  simp (disch := first | exact rfl | decide) [typedFile, isPlain_of_chars, ClassNode.mapperUse,
    hmapper, htoDto, htoEntity, hupdate, hlists]

end

end Mapper

end Scaffold
