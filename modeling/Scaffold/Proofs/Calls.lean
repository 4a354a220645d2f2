import Scaffold.Backend.Controller
import Scaffold.Backend.Entity
import Scaffold.Backend.JoinEntity
import Scaffold.Backend.Mapper
import Scaffold.Backend.Service

/-!
# Generated code calls what is predicted

The generators put a statement that calls accessors into the code only if all of them are predicted,
and report what they leave out. `Mapper.calls`, `Service.calls`, `Controller.calls`, `Entity.calls`
and `JoinEntity.calls` are the accessors that the code of a generator calls, read off the code
itself. Nothing is asked of the context, so the predictions may be changed in any way before the
files are generated.

Main statement: `calls_predicted`.
-/

namespace Scaffold

/-! ## Predicted calls -/

namespace Context

/-- All accessors that some code calls are predicted. -/
def Covers (ctx : Context) (code : Statements) : Prop :=
  ∀ call ∈ code.calls, ctx.predicts call = true

theorem covers_append {ctx : Context} {code code' : Statements} (h : ctx.Covers code)
    (h' : ctx.Covers code') : ctx.Covers (code ++ code') := by
  intro call hcall
  rw [Statements.calls_append] at hcall
  rcases List.mem_append.1 hcall with hcall | hcall
  · exact h call hcall
  · exact h' call hcall

theorem covers_flatMap {α : Type} {ctx : Context} {l : List α} {code : α → Statements}
    (h : ∀ a ∈ l, ctx.Covers (code a)) : ctx.Covers (l.flatMap code) := by
  intro call hcall
  rw [Statements.calls_flatMap] at hcall
  obtain ⟨a, ha, hcall⟩ := List.mem_flatMap.1 hcall
  exact h a ha call hcall

/-- Code that calls nothing but some accessors is covered if all of those are predicted. -/
theorem covers_of_subset {ctx : Context} {code : Statements} {calls : List AccessorCall}
    (hcode : code.calls ⊆ calls) (hcalls : ∀ call ∈ calls, ctx.predicts call = true) :
    ctx.Covers code := fun call hcall =>
  hcalls call (hcode hcall)

end Context

/-! ## Warnings -/

/-- A consistency warning about a field of a class is among some diagnostics. -/
def Warned (notes : List Diagnostic) (classId field : String) : Prop :=
  ∃ finding : Finding, finding.code = .consistency ∧ ⟨finding, some classId, some field⟩ ∈ notes

theorem Warned.mono {notes notes' : List Diagnostic} {classId field : String}
    (h : Warned notes classId field) (hsub : notes ⊆ notes') : Warned notes' classId field := by
  obtain ⟨finding, hcode, hmem⟩ := h
  exact ⟨finding, hcode, hsub hmem⟩

/-- What is not kept is warned about, if its obstacle is such a warning. -/
theorem warned_or_mem_keepFree {α : Type} {obstacle? : α → Option Diagnostic} {l : List α} {a : α}
    {notes : List Diagnostic} {classId field : String} (ha : a ∈ l)
    (hnotes : (keepFree obstacle? l).notes ⊆ notes)
    (hnote : ∀ note, obstacle? a = some note → Warned [note] classId field) :
    Warned notes classId field ∨ a ∈ (keepFree obstacle? l).value := by
  cases hobstacle : obstacle? a with
  | none => exact .inr (mem_keepFree.2 ⟨ha, hobstacle⟩)
  | some note =>
    refine .inl ((hnote note hobstacle).mono fun x hx => hnotes ?_)
    rw [List.mem_singleton.1 hx]
    exact List.mem_filterMap.2 ⟨a, ha, hobstacle⟩

/-- The obstacle to code that calls accessors is the given diagnostic. -/
theorem eq_of_obstacle {ctx : Context} {calls : List AccessorCall} {note note' : Diagnostic}
    (h : ctx.obstacle? calls note = some note') : note' = note := by
  unfold Context.obstacle? at h
  split at h
  · cases h
  · exact (Option.some.inj h).symm

theorem warned_singleton {finding : Finding} (classId field : String)
    (hcode : finding.code = .consistency) :
    Warned [⟨finding, some classId, some field⟩] classId field :=
  ⟨finding, hcode, List.mem_singleton_self _⟩

/-! ## Mappers -/

namespace Mapper

/-- The accessors that the mapper of a class calls. -/
def calls (ctx : Context) (c : ClassNode) : List AccessorCall :=
  Statements.calls (toDtoCode ctx c ++ toEntityCode ctx c ++ updateCode ctx c)

theorem ScalarMapping.calls_toDto (m : ScalarMapping) :
    m.toDto.calls = [m.dtoWrite, m.entityRead] := by
  simp [toDto]

theorem ScalarMapping.calls_toEntity (m : ScalarMapping) :
    m.toEntity.calls = [m.entityWrite, m.dtoRead] := by
  simp [toEntity]

theorem ScalarMapping.calls_update (m : ScalarMapping) :
    m.update.calls = [m.dtoRead, m.entityWrite, m.dtoRead] := by
  simp [update, calls_toEntity]

theorem ReferenceMapping.calls_toDto (m : ReferenceMapping) :
    m.toDto.calls = [m.entityRead, m.dtoWrite, m.entityRead, m.keyRead] := by
  simp [toDto]

theorem ReferenceMapping.calls_toEntity (m : ReferenceMapping) :
    m.toEntity.calls = [m.dtoRead, m.keyWrite, m.dtoRead, m.entityWrite] := by
  simp [toEntity]

theorem covers_toDtoCode (ctx : Context) (c : ClassNode) : ctx.Covers (toDtoCode ctx c) := by
  refine Context.covers_append ?_ ?_
  · refine Context.covers_flatMap fun m hm => ?_
    refine Context.covers_of_subset ?_ (toDto_predicted hm)
    simp [ScalarMapping.calls_toDto, ScalarMapping.toDtoCalls]
  · refine Context.covers_flatMap fun m hm => ?_
    refine Context.covers_of_subset ?_ (Context.predictsAll_iff.1 (List.mem_filter.1 hm).2)
    simp [ReferenceMapping.calls_toDto, ReferenceMapping.toDtoCalls]

theorem covers_toEntity {ctx : Context} {c : ClassNode} {m : ReferenceMapping}
    (hm : m ∈ (toEntityPlan ctx c).references) : ctx.Covers m.toEntity := by
  refine Context.covers_of_subset ?_ (Context.predictsAll_iff.1 (List.mem_filter.1 hm).2)
  simp [ReferenceMapping.calls_toEntity, ReferenceMapping.toEntityCalls]

theorem covers_toEntityCode (ctx : Context) (c : ClassNode) : ctx.Covers (toEntityCode ctx c) := by
  refine Context.covers_append ?_ (Context.covers_flatMap fun m hm => covers_toEntity hm)
  refine Context.covers_flatMap fun m hm => ?_
  refine Context.covers_of_subset ?_ (toEntity_predicted hm)
  simp [ScalarMapping.calls_toEntity, ScalarMapping.toEntityCalls]

theorem covers_updateCode (ctx : Context) (c : ClassNode) : ctx.Covers (updateCode ctx c) := by
  refine Context.covers_append ?_ (Context.covers_flatMap fun m hm => covers_toEntity hm)
  refine Context.covers_flatMap fun m hm => ?_
  have hplan : m ∈ (toEntityPlan ctx c).scalars := (List.mem_filter.1 hm).1
  refine Context.covers_of_subset ?_ (toEntity_predicted hplan)
  simp [ScalarMapping.calls_update, ScalarMapping.toEntityCalls]

theorem covers_code (ctx : Context) (c : ClassNode) :
    ∀ call ∈ calls ctx c, ctx.predicts call = true :=
  Context.covers_append
    (Context.covers_append (covers_toDtoCode ctx c) (covers_toEntityCode ctx c))
    (covers_updateCode ctx c)

/-- A field that is not mapped in both directions is warned about. -/
theorem warned_gapNotes (c : ClassNode) (field : String) (toDto toEntity : Bool) :
    Warned (gapNotes c field toDto toEntity) c.id field ∨ (toDto = true ∧ toEntity = true) := by
  cases toDto with
  | false => exact .inl ⟨.unmappedToDto c.name field, rfl, by simp [gapNotes]⟩
  | true =>
    cases toEntity with
    | false => exact .inl ⟨.unmappedToEntity c.name field, rfl, by simp [gapNotes]⟩
    | true => exact .inr ⟨rfl, rfl⟩

/-- A scalar member whose column is not mapped in a direction is warned about. -/
theorem warned_or_scalar {ctx : Context} {c : ClassNode} {m : ScalarMember}
    (hm : m ∈ ctx.chainScalars c) :
    Warned (file ctx c).notes c.id m.fieldName ∨
      (ofScalar c m ∈ (toDtoPlan ctx c).scalars ∧ ofScalar c m ∈ (toEntityPlan ctx c).scalars ∧
        (m.isPrimaryKey = false → ofScalar c m ∈ (updatePlan ctx c).scalars)) := by
  have hmapping : ofScalar c m ∈ scalarMappings ctx c := List.mem_map_of_mem hm
  rcases warned_gapNotes c m.fieldName (ctx.predictsAll (ofScalar c m).toDtoCalls)
    (ctx.predictsAll (ofScalar c m).toEntityCalls) with hwarned | ⟨hdto, hentity⟩
  · refine .inl (hwarned.mono fun note hnote => List.mem_append_left _ ?_)
    exact List.mem_flatMap.2 ⟨_, hmapping, hnote⟩
  · have hplan : ofScalar c m ∈ (toEntityPlan ctx c).scalars :=
      List.mem_filter.2 ⟨hmapping, hentity⟩
    refine .inr ⟨List.mem_filter.2 ⟨hmapping, hdto⟩, hplan, fun hkey => ?_⟩
    exact List.mem_filter.2 ⟨hplan, by simp [ofScalar, hkey]⟩

/-- A reference member that is not mapped in a direction is warned about. -/
theorem warned_or_reference {ctx : Context} {c : ClassNode} {r : ReferenceMember}
    (hr : r ∈ ctx.chainReferences c) :
    Warned (file ctx c).notes c.id r.fieldName ∨
      ∃ m, ofReference? c r = some m ∧ m ∈ (toDtoPlan ctx c).references ∧
        m ∈ (toEntityPlan ctx c).references ∧ m ∈ (updatePlan ctx c).references := by
  have hnotes : referenceNotes ctx c r ⊆ (file ctx c).notes := fun note hnote =>
    List.mem_append_right _ (List.mem_flatMap.2 ⟨r, hr, hnote⟩)
  cases hmapping : ofReference? c r with
  | none =>
    rw [referenceNotes, hmapping] at hnotes
    refine .inl (Warned.mono ?_ hnotes)
    exact (warned_gapNotes c r.fieldName false false).resolve_right (by simp)
  | some m =>
    have hm : m ∈ referenceMappings ctx c := List.mem_filterMap.2 ⟨r, hr, hmapping⟩
    rw [referenceNotes, hmapping] at hnotes
    rcases warned_gapNotes c r.fieldName (ctx.predictsAll m.toDtoCalls)
      (ctx.predictsAll m.toEntityCalls) with hwarned | ⟨hdto, hentity⟩
    · exact .inl (hwarned.mono hnotes)
    · have hplan : m ∈ (toEntityPlan ctx c).references := List.mem_filter.2 ⟨hm, hentity⟩
      exact .inr ⟨m, rfl, List.mem_filter.2 ⟨hm, hdto⟩, hplan, hplan⟩

end Mapper

/-! ## Services -/

namespace Service

/-- The accessors that the implementation of the service of a class calls. -/
def calls (ctx : Context) (c : ClassNode) : List AccessorCall :=
  let references := (resolved ctx c).value
  Statements.calls <|
    copyCode c (copied ctx c).value ++
      references.flatMap
        (loadReference c (Access.of c.name).field (relatedAccess c references))

theorem calls_copyField (c : ClassNode) (field : String) :
    (copyField c field).calls ⊆ copyCalls c field := by
  simp [copyField, copyCalls]

theorem calls_loadReference (c : ClassNode) (repository : String) (related : List Access)
    (r : ReferenceMember) : (loadReference c repository related r).calls ⊆ resolveCalls c r := by
  simp [loadReference, resolveCalls]

theorem covers_code (ctx : Context) (c : ClassNode) :
    ∀ call ∈ calls ctx c, ctx.predicts call = true := by
  refine Context.covers_append ?_ ?_
  · refine Context.covers_flatMap fun field hfield => ?_
    exact Context.covers_of_subset (calls_copyField c field) (copied_predicted hfield)
  · refine Context.covers_flatMap fun r hr => ?_
    exact Context.covers_of_subset (calls_loadReference c _ _ r) (resolved_predicted hr)

/-- A reference whose entity is not loaded is warned about. -/
theorem warned_or_resolved {ctx : Context} {c : ClassNode} {r : ReferenceMember}
    (hr : r ∈ ctx.chainReferences c) :
    Warned (implementationFile ctx c).notes c.id r.fieldName ∨ r ∈ (resolved ctx c).value := by
  refine warned_or_mem_keepFree hr (List.subset_append_left _ _) fun note hnote => ?_
  have hnote : note = ⟨.unresolvable c.name r.fieldName, some c.id, some r.fieldName⟩ := by
    unfold resolveObstacle? at hnote
    dsimp only at hnote
    split at hnote
    · exact eq_of_obstacle hnote
    · exact (Option.some.inj hnote).symm
  rw [hnote]
  exact warned_singleton _ _ rfl

/-- A field that is not copied is warned about. -/
theorem warned_or_copied {ctx : Context} {c : ClassNode} {field : String}
    (hfield : field ∈ updateFields ctx c) :
    Warned (implementationFile ctx c).notes c.id field ∨ field ∈ (copied ctx c).value := by
  refine warned_or_mem_keepFree hfield (fun note hnote => ?_) fun note hnote => ?_
  · exact List.mem_append_right _ (List.mem_append_left _ hnote)
  · rw [eq_of_obstacle hnote]
    exact warned_singleton _ _ rfl

end Service

/-! ## Controllers -/

namespace Controller

/-- The accessors that the controller of a class calls. -/
def calls (ctx : Context) (c : ClassNode) : List AccessorCall :=
  Statements.calls ((navigated ctx c).value.flatMap (followReference (names ctx c) c))

theorem calls_followReference (n : Names) (c : ClassNode) (r : ReferenceMember) :
    (followReference n c r).calls ⊆ [referenceRead c r, keyRead r] := by
  simp [followReference]

theorem covers_code (ctx : Context) (c : ClassNode) :
    ∀ call ∈ calls ctx c, ctx.predicts call = true := by
  refine Context.covers_flatMap fun r hr => ?_
  exact Context.covers_of_subset (calls_followReference _ c r) (navigated_predicted hr)

/-- A reference without an endpoint is warned about. -/
theorem warned_or_navigated {ctx : Context} {c : ClassNode} {r : ReferenceMember}
    (hr : r ∈ ctx.chainReferences c) :
    Warned (file ctx c).notes c.id r.fieldName ∨ r ∈ (navigated ctx c).value := by
  refine warned_or_mem_keepFree hr (List.subset_append_left _ _) fun note hnote => ?_
  rw [eq_of_obstacle hnote]
  exact warned_singleton _ _ rfl

end Controller

/-! ## Entities and join entities -/

namespace Entity

/-- The accessors of other entities that the entity of a class calls. -/
def calls (ctx : Context) (c : ClassNode) : List AccessorCall :=
  (keySetterCode (keySetters ctx c).value).calls

theorem calls_keySetter (r : ReferenceMember) : (keySetter r).calls ⊆ [keyWrite r] := by
  unfold keySetter
  split <;> simp

/-- A reference with a setter that takes the key leads to an entity with a setter for its key. -/
theorem predicts_keyWrite {ctx : Context} {c : ClassNode} {r : ReferenceMember}
    (hr : r ∈ (keySetters ctx c).value) : ∀ call ∈ [keyWrite r], ctx.predicts call = true := by
  have hfree := (mem_keepFree.1 hr).2
  unfold keyObstacle? at hfree
  split at hfree
  · cases hfree
  · next hnone => exact Context.obstacle?_eq_none_iff.1 hnone

theorem covers_code (ctx : Context) (c : ClassNode) :
    ∀ call ∈ calls ctx c, ctx.predicts call = true :=
  Context.covers_flatMap fun r hr =>
    Context.covers_of_subset (calls_keySetter r) (predicts_keyWrite hr)

/-- A file that does not fail reports the references without a setter that takes the key. -/
theorem notes_keySetters_subset {ctx : Context} {c : ClassNode} {f : Java.SourceFile}
    (hf : (file ctx c).run.value = .ok f) :
    (keySetters ctx c).notes ⊆ (file ctx c).run.notes := by
  obtain ⟨_, -, hrest, hnotes⟩ := Generation.bind_ok hf
  obtain ⟨_, -, -, hsetters⟩ := Generation.bind_ok hrest
  have hlift : (ExceptT.run (liftM (keySetters ctx c) : Generation _)).notes =
      (keySetters ctx c).notes := Noted.notes_map _ _
  intro note hnote
  refine (congrArg (note ∈ ·) hnotes).mpr (List.mem_append_right _ ?_)
  refine (congrArg (note ∈ ·) hsetters).mpr (List.mem_append_left _ ?_)
  rw [hlift]
  exact hnote

/-- Unless the file fails, a reference without a setter that takes the key is warned about. -/
theorem warned_or_keySetter {ctx : Context} {c : ClassNode} {f : Java.SourceFile}
    (hf : (file ctx c).run.value = .ok f) {r : ReferenceMember}
    (hr : r ∈ (ctx.membersOf c).references) :
    Warned (file ctx c).run.notes c.id r.fieldName ∨ r ∈ (keySetters ctx c).value := by
  refine warned_or_mem_keepFree hr (notes_keySetters_subset hf) fun note hnote => ?_
  unfold keyObstacle? at hnote
  split at hnote
  · next note' hobstacle =>
    obtain rfl := Option.some.inj hnote
    rw [eq_of_obstacle hobstacle]
    exact warned_singleton _ _ rfl
  · split at hnote
    · cases hnote
    · obtain rfl := Option.some.inj hnote
      exact warned_singleton _ _ rfl

end Entity

namespace JoinEntity

/-- The accessors that the join entity of an association table calls. -/
def calls (ctx : Context) (t : AssociationTable) : List AccessorCall :=
  Statements.calls ((relations ctx t).flatMap (syncCode ctx t))

theorem calls_syncKey (t : AssociationTable) (r : Relation) :
    (syncKey t r).calls ⊆ [r.keyRead] := by
  simp [syncKey]

theorem covers_code (ctx : Context) (t : AssociationTable) :
    ∀ call ∈ calls ctx t, ctx.predicts call = true := by
  refine Context.covers_flatMap fun r _ => ?_
  unfold syncCode
  split
  · next hfree =>
    refine Context.covers_of_subset (calls_syncKey t r) ?_
    exact Context.obstacle?_eq_none_iff.1 (Option.isNone_iff_eq_none.1 hfree)
  · intro call hcall
    cases hcall

/-- A reference whose part of the key is not set with it is warned about. -/
theorem warned_or_synchronized {ctx : Context} {t : AssociationTable} {r : Relation}
    (hr : r ∈ relations ctx t) :
    Warned (file ctx t).notes t.id r.column.relationField ∨ syncCode ctx t r = syncKey t r := by
  cases hobstacle : syncObstacle? ctx t r with
  | none => exact .inr (by simp [syncCode, hobstacle])
  | some note =>
    rw [eq_of_obstacle hobstacle] at hobstacle
    refine .inl ⟨.keyOutOfSync r.target.name r.keyRead.method t.name r.column.relationField, rfl,
      List.mem_append_right _ ?_⟩
    exact List.mem_filterMap.2 ⟨r, hr, hobstacle⟩

end JoinEntity

/-! ## All generators -/

/-- The accessors that the files of a class and the join entity of an association table call. -/
def calls (ctx : Context) (c : ClassNode) (t : AssociationTable) : List AccessorCall :=
  Mapper.calls ctx c ++ Service.calls ctx c ++ Controller.calls ctx c ++ Entity.calls ctx c ++
    JoinEntity.calls ctx t

theorem covers_calls (ctx : Context) (c : ClassNode) (t : AssociationTable) :
    ∀ call ∈ calls ctx c t, ctx.predicts call = true := by
  intro call hcall
  simp only [calls, List.mem_append] at hcall
  rcases hcall with (((hcall | hcall) | hcall) | hcall) | hcall
  · exact Mapper.covers_code ctx c call hcall
  · exact Service.covers_code ctx c call hcall
  · exact Controller.covers_code ctx c call hcall
  · exact Entity.covers_code ctx c call hcall
  · exact JoinEntity.covers_code ctx t call hcall

/-- Whatever the predictions are, each accessor that generated code calls is predicted for the
entity or the transfer object that it is called on, and each generator warns about the members of
which it leaves a statement out. An entity whose file fails has no code. -/
theorem calls_predicted (ctx : Context) (c : ClassNode) (t : AssociationTable) :
    (∀ call ∈ calls ctx c t, ∃ accessors,
      (ctx.surface call.owner call.bean).get? call.field = some accessors ∧
        call.select accessors = call.method) ∧
    (∀ m ∈ ctx.chainScalars c, Warned (Mapper.file ctx c).notes c.id m.fieldName ∨
      (Mapper.ofScalar c m ∈ (Mapper.toDtoPlan ctx c).scalars ∧
        Mapper.ofScalar c m ∈ (Mapper.toEntityPlan ctx c).scalars ∧
        (m.isPrimaryKey = false → Mapper.ofScalar c m ∈ (Mapper.updatePlan ctx c).scalars))) ∧
    (∀ r ∈ ctx.chainReferences c, Warned (Mapper.file ctx c).notes c.id r.fieldName ∨
      ∃ m, Mapper.ofReference? c r = some m ∧ m ∈ (Mapper.toDtoPlan ctx c).references ∧
        m ∈ (Mapper.toEntityPlan ctx c).references ∧
        m ∈ (Mapper.updatePlan ctx c).references) ∧
    (∀ r ∈ ctx.chainReferences c,
      Warned (Service.implementationFile ctx c).notes c.id r.fieldName ∨
        r ∈ (Service.resolved ctx c).value) ∧
    (∀ field ∈ Service.updateFields ctx c,
      Warned (Service.implementationFile ctx c).notes c.id field ∨
        field ∈ (Service.copied ctx c).value) ∧
    (∀ r ∈ ctx.chainReferences c, Warned (Controller.file ctx c).notes c.id r.fieldName ∨
      r ∈ (Controller.navigated ctx c).value) ∧
    (∀ f, (Entity.file ctx c).run.value = .ok f → ∀ r ∈ (ctx.membersOf c).references,
      Warned (Entity.file ctx c).run.notes c.id r.fieldName ∨
        r ∈ (Entity.keySetters ctx c).value) ∧
    ∀ r ∈ JoinEntity.relations ctx t,
      Warned (JoinEntity.file ctx t).notes t.id r.column.relationField ∨
        JoinEntity.syncCode ctx t r = JoinEntity.syncKey t r := by
  refine ⟨?_, ?_, ?_, ?_, ?_, ?_, ?_, ?_⟩
  · intro call hcall
    exact Context.predicts_iff.1 (covers_calls ctx c t call hcall)
  · intro m hm
    exact Mapper.warned_or_scalar hm
  · intro r hr
    exact Mapper.warned_or_reference hr
  · intro r hr
    exact Service.warned_or_resolved hr
  · intro field hfield
    exact Service.warned_or_copied hfield
  · intro r hr
    exact Controller.warned_or_navigated hr
  · intro f hf r hr
    exact Entity.warned_or_keySetter hf hr
  · intro r hr
    exact JoinEntity.warned_or_synchronized hr

end Scaffold
