import Scaffold.Backend.Controller
import Scaffold.Backend.Entity
import Scaffold.Backend.JoinEntity
import Scaffold.Backend.Mapper
import Scaffold.Backend.Service
import Scaffold.Proofs.Prediction

/-!
# Generated code leaves nothing out

The generators leave out what calls an accessor that is not predicted. `Context.Complete` says that
nothing that they ask for is missing, and a built context is complete (`complete_build`), provided
that the key of every entity is one of its fields. What remains is that the id field of a reference
is taken: the mapper cannot map the reference then.

Main statement: `nothing_left_out`.
-/

namespace Scaffold

/-- Nothing is left out and nothing reported if there is no obstacle. -/
theorem keepFree_of_free {α : Type} {obstacle? : α → Option Diagnostic} {l : List α}
    (h : ∀ a ∈ l, obstacle? a = none) : keepFree obstacle? l = ⟨l, []⟩ := by
  have hkept : (keepFree obstacle? l).value = l :=
    List.filter_eq_self.2 fun a ha => by simp [h a ha]
  exact Noted.ext hkept (notes_keepFree_eq_nil_iff.2 hkept)

/-! ## Complete contexts -/

namespace Context

/-- Everything that generated code may call is predicted: the accessors of the members along the
chain of every class, and those of the key of every entity, which is the one that references to the
entity go by. -/
structure Complete (ctx : Context) : Prop where
  /-- The hierarchy is a forest. -/
  wellFormed : ctx.hierarchy.WellFormed
  /-- A reference leads to a class of the diagram, by the key of its entity. -/
  reference : ∀ c ∈ ctx.diagram.classes, ∀ r ∈ (ctx.membersOf c).references,
    r.target ∈ ctx.diagram.classes ∧ r.targetKey = ctx.entityKey r.target
  /-- The accessors of the fields of entities are predicted. -/
  entity : ∀ c ∈ ctx.diagram.classes, ∀ a ∈ ctx.hierarchy.chain c,
    ∀ field ∈ (ctx.membersOf a).fields, ∀ access,
      ctx.predicts ⟨c, .entity, access, field⟩ = true
  /-- The accessors of the fields of transfer objects are predicted. -/
  dto : ∀ c ∈ ctx.diagram.classes, ∀ a ∈ ctx.hierarchy.chain c,
    ∀ field ∈ (ctx.membersOf a).dtoFields, ∀ access,
      ctx.predicts ⟨c, .dto, access, field⟩ = true
  /-- The accessors of the keys of entities are predicted. -/
  key : ∀ c ∈ ctx.diagram.classes, ∀ access,
    ctx.predicts ⟨c, .entity, access, (ctx.entityKey c).fieldName⟩ = true
  /-- Entities are found by their keys. -/
  findsById : ∀ c ∈ ctx.diagram.classes, Service.findsById ctx c = true

section Build

variable {d : Diagram} (hd : d.DistinctIds) (basePackage : String) (queryLimit : Int)
include hd

/-- The repository of every class finds entities by their key. -/
theorem findsById_build {c : ClassNode} (hc : c ∈ d.classes) :
    Service.findsById (build d basePackage queryLimit).value c = true := by
  rw [Service.findsById, prediction_build hd basePackage queryLimit hc, decide_eq_true_iff]
  refine Text.mem_ordered.2 (List.mem_append_left _ ?_)
  simp [Hierarchy.repositoryBasics]

theorem complete_build (hkeys : (Hierarchy.ofDiagram d).value.KeysDeclared) :
    (build d basePackage queryLimit).value.Complete where
  wellFormed := Hierarchy.wellFormed_ofDiagram d
  reference c hc r hr := by
    rw [membersOf_build hd basePackage queryLimit hc] at hr
    obtain ⟨htarget, hkey⟩ := Hierarchy.reference_sound c r hr
    refine ⟨htarget, ?_⟩
    rw [entityKey_build hd basePackage queryLimit htarget]
    exact hkey
  entity c hc a ha field hfield access :=
    (predicts_entity hd basePackage queryLimit hc access field).2
      ⟨a, ha, Hierarchy.fields_subset_entityFields a hfield⟩
  dto c hc a ha field hfield access :=
    (predicts_dto hd basePackage queryLimit hc access field).2 ⟨a, ha, hfield⟩
  key c hc access := by
    rw [entityKey_build hd basePackage queryLimit hc]
    exact predicts_entityKey hd basePackage queryLimit hc hkeys access
  findsById c hc := findsById_build hd basePackage queryLimit hc

end Build

namespace Complete

variable {ctx : Context} (h : ctx.Complete) {c : ClassNode} (hc : c ∈ ctx.diagram.classes)
include h hc

/-- The accessors of the columns along a chain are predicted. -/
theorem scalar {m : ScalarMember} (hm : m ∈ ctx.chainScalars c) (bean : Bean) (access : Access) :
    ctx.predicts ⟨c, bean, access, m.fieldName⟩ = true := by
  obtain ⟨a, ha, hm⟩ := List.mem_flatMap.1 (mem_of_mem_distinctBy hm)
  cases bean with
  | entity =>
    exact h.entity c hc a ha _ (List.mem_append_left _ (List.mem_map_of_mem hm)) access
  | dto => exact h.dto c hc a ha _ (List.mem_append_left _ (List.mem_map_of_mem hm)) access

/-- The accessors of the references along a chain are predicted. -/
theorem chainReference {r : ReferenceMember} (hr : r ∈ ctx.chainReferences c) (access : Access) :
    ctx.predicts ⟨c, .entity, access, r.fieldName⟩ = true := by
  obtain ⟨a, ha, hr⟩ := List.mem_flatMap.1 (mem_of_mem_distinctBy hr)
  exact h.entity c hc a ha _ (List.mem_append_right _ (List.mem_map_of_mem hr)) access

/-- The accessors of the id fields along a chain are predicted. -/
theorem chainId {r : ReferenceMember} (hr : r ∈ ctx.chainReferences c) {field : String}
    (hfield : r.dtoFieldName = some field) (access : Access) :
    ctx.predicts ⟨c, .dto, access, field⟩ = true := by
  obtain ⟨a, ha, hr⟩ := List.mem_flatMap.1 (mem_of_mem_distinctBy hr)
  refine h.dto c hc a ha _ (List.mem_append_right _ ?_) access
  exact List.mem_filterMap.2 ⟨r, hr, hfield⟩

/-- The accessors of the key of what a reference leads to are predicted. -/
theorem targetKey {r : ReferenceMember} (hr : r ∈ (ctx.membersOf c).references)
    (access : Access) :
    ctx.predicts ⟨r.target, .entity, access, r.targetKey.fieldName⟩ = true := by
  obtain ⟨htarget, hkey⟩ := h.reference c hc r hr
  rw [hkey]
  exact h.key _ htarget access

/-- A reference along a chain is one of a class of the diagram. -/
theorem exists_of_mem_chainReferences {r : ReferenceMember} (hr : r ∈ ctx.chainReferences c) :
    ∃ a ∈ ctx.diagram.classes, r ∈ (ctx.membersOf a).references := by
  obtain ⟨a, ha, hr⟩ := List.mem_flatMap.1 (mem_of_mem_distinctBy hr)
  exact ⟨a, h.wellFormed.mem_classes_of_mem_chain hc ha, hr⟩

/-- The accessors of the key of what a reference along a chain leads to are predicted. -/
theorem chainTargetKey {r : ReferenceMember} (hr : r ∈ ctx.chainReferences c) (access : Access) :
    ctx.predicts ⟨r.target, .entity, access, r.targetKey.fieldName⟩ = true := by
  obtain ⟨a, ha, hr⟩ := h.exists_of_mem_chainReferences hc hr
  exact h.targetKey ha hr access

end Complete

end Context

/-! ## Generators -/

namespace Mapper

section Complete

variable {ctx : Context} (h : ctx.Complete) {c : ClassNode} (hc : c ∈ ctx.diagram.classes)
include h hc

/-- Every column is mapped in both directions. -/
theorem scalarNotes_eq_nil {m : ScalarMember} (hm : m ∈ ctx.chainScalars c) :
    scalarNotes ctx c (ofScalar c m) = [] := by
  have hdto : ctx.predictsAll (ofScalar c m).toDtoCalls = true := by
    simp [Context.predictsAll, ScalarMapping.toDtoCalls, ofScalar, h.scalar hc hm]
  have hentity : ctx.predictsAll (ofScalar c m).toEntityCalls = true := by
    simp [Context.predictsAll, ScalarMapping.toEntityCalls, ofScalar, h.scalar hc hm]
  rw [scalarNotes, hdto, hentity]
  rfl

/-- Every reference with an id field is mapped in both directions. -/
theorem referenceNotes_eq_nil {r : ReferenceMember} (hr : r ∈ ctx.chainReferences c)
    {field : String} (hfield : r.dtoFieldName = some field) : referenceNotes ctx c r = [] := by
  obtain ⟨m, hm⟩ : ∃ m, ofReference? c r = some m := by simp [ofReference?, hfield]
  have hcalls : ∀ call ∈ m.toDtoCalls ++ m.toEntityCalls, ctx.predicts call = true := by
    simp only [ofReference?, hfield, Option.map_some, Option.some.injEq] at hm
    subst hm
    simp [ReferenceMapping.toDtoCalls, ReferenceMapping.toEntityCalls, h.chainReference hc hr,
      h.chainId hc hr hfield, h.chainTargetKey hc hr]
  obtain ⟨hdto, hentity⟩ := List.forall_mem_append.1 hcalls
  rw [referenceNotes, hm]
  dsimp only
  rw [Context.predictsAll_iff.2 hdto, Context.predictsAll_iff.2 hentity]
  rfl

/-- Only references whose id field is taken are reported. -/
theorem notes_file {note : Diagnostic} (hnote : note ∈ (file ctx c).notes) :
    ∃ r ∈ ctx.chainReferences c, r.dtoFieldName = none ∧
      note ∈ gapNotes c r.fieldName false false := by
  rcases List.mem_append.1 hnote with hnote | hnote
  · obtain ⟨m, hm, hnote⟩ := List.mem_flatMap.1 hnote
    obtain ⟨scalar, hscalar, rfl⟩ := List.mem_map.1 hm
    rw [scalarNotes_eq_nil h hc hscalar] at hnote
    cases hnote
  · obtain ⟨r, hr, hnote⟩ := List.mem_flatMap.1 hnote
    cases hfield : r.dtoFieldName with
    | some field =>
      rw [referenceNotes_eq_nil h hc hr hfield] at hnote
      cases hnote
    | none =>
      refine ⟨r, hr, hfield, ?_⟩
      rw [referenceNotes, ofReference?, hfield] at hnote
      exact hnote

end Complete

end Mapper

namespace Service

section Complete

variable {ctx : Context} (h : ctx.Complete) {c : ClassNode} (hc : c ∈ ctx.diagram.classes)
include h hc

/-- The entities of all references are loaded. -/
theorem resolved_eq : resolved ctx c = ⟨ctx.chainReferences c, []⟩ := by
  refine keepFree_of_free fun r hr => ?_
  obtain ⟨a, ha, hmem⟩ := h.exists_of_mem_chainReferences hc hr
  have htarget : r.target ∈ ctx.diagram.classes := (h.reference a ha r hmem).1
  rw [resolveObstacle?, if_pos (h.findsById _ htarget), Context.obstacle?_eq_none_iff]
  simp [resolveCalls, referenceRead, referenceWrite, keyRead, h.chainReference hc hr,
    h.chainTargetKey hc hr]

/-- All fields but the key are copied. -/
theorem copied_eq : copied ctx c = ⟨updateFields ctx c, []⟩ := by
  refine keepFree_of_free fun field hfield => ?_
  have haccess : ∀ access, ctx.predicts ⟨c, .entity, access, field⟩ = true := by
    intro access
    rcases List.mem_append.1 hfield with hfield | hfield
    · obtain ⟨m, hm, rfl⟩ := List.mem_map.1 hfield
      exact h.scalar hc (List.mem_filter.1 hm).1 .entity access
    · obtain ⟨r, hr, rfl⟩ := List.mem_map.1 hfield
      exact h.chainReference hc hr access
  rw [Context.obstacle?_eq_none_iff]
  simp [copyCalls, haccess]

end Complete

end Service

/-- Every reference has an endpoint. -/
theorem Controller.navigated_eq {ctx : Context} (h : ctx.Complete) {c : ClassNode}
    (hc : c ∈ ctx.diagram.classes) : navigated ctx c = ⟨ctx.chainReferences c, []⟩ := by
  refine keepFree_of_free fun r hr => ?_
  rw [Context.obstacle?_eq_none_iff]
  simp [referenceRead, keyRead, h.chainReference hc hr, h.chainTargetKey hc hr]

/-- Every reference has a setter that takes the key. -/
theorem Entity.keySetters_eq {ctx : Context} (h : ctx.Complete) {c : ClassNode}
    (hc : c ∈ ctx.diagram.classes) :
    keySetters ctx c = ⟨(ctx.membersOf c).references, []⟩ := by
  refine keepFree_of_free fun r hr => ?_
  have hconversion : (keyConversion? r).isSome = true := by
    rw [keyConversion?, JavaType.conversionTo?_name, Option.isSome_some]
  have hfree : ∀ note, ctx.obstacle? [keyWrite r] note = none := by
    intro note
    rw [Context.obstacle?_eq_none_iff]
    simp [keyWrite, h.targetKey hc hr]
  rw [keyObstacle?, hfree]
  exact if_pos hconversion

namespace JoinEntity

/-- Every part of the key is set with the reference that it belongs to. -/
theorem syncObstacle_eq_none {ctx : Context} (h : ctx.Complete) {t : AssociationTable}
    {r : Relation} (hr : r ∈ relations ctx t) : syncObstacle? ctx t r = none := by
  obtain ⟨htarget, hread⟩ := relation_sound hr
  rw [syncObstacle?, Context.obstacle?_eq_none_iff]
  simp [hread, h.key _ htarget]

/-- Only the foreign keys that lead to no class are reported. -/
theorem notes_file {ctx : Context} (h : ctx.Complete) (t : AssociationTable) :
    (file ctx t).notes = targetNotes ctx t := by
  have hnone : (relations ctx t).filterMap (syncObstacle? ctx t) = [] :=
    List.filterMap_eq_nil_iff.2 fun r hr => syncObstacle_eq_none h hr
  change targetNotes ctx t ++ (relations ctx t).filterMap (syncObstacle? ctx t) = _
  rw [hnone, List.append_nil]

end JoinEntity

/-! ## All generators -/

/-- If every class without a parent that has primary keys has one that is no relationship attribute,
nothing is left out of the generated code, and only the references whose id field is taken and the
foreign keys that lead to no class are reported. -/
theorem nothing_left_out (d : Diagram) (hd : d.DistinctIds)
    (hkeys : (Hierarchy.ofDiagram d).value.KeysDeclared) (basePackage : String)
    (queryLimit : Int) :
    let ctx := (Context.build d basePackage queryLimit).value
    (∀ c ∈ d.classes,
      Entity.keySetters ctx c = ⟨(ctx.membersOf c).references, []⟩ ∧
      Service.resolved ctx c = ⟨ctx.chainReferences c, []⟩ ∧
      Service.copied ctx c = ⟨Service.updateFields ctx c, []⟩ ∧
      Controller.navigated ctx c = ⟨ctx.chainReferences c, []⟩ ∧
      ∀ note ∈ (Mapper.file ctx c).notes, ∃ r ∈ ctx.chainReferences c, r.dtoFieldName = none ∧
        note ∈ Mapper.gapNotes c r.fieldName false false) ∧
    ∀ t, (∀ r ∈ JoinEntity.relations ctx t, JoinEntity.syncObstacle? ctx t r = none) ∧
      (JoinEntity.file ctx t).notes = JoinEntity.targetNotes ctx t := by
  intro ctx
  have h : ctx.Complete := Context.complete_build hd basePackage queryLimit hkeys
  refine ⟨fun c hc => ⟨?_, ?_, ?_, ?_, ?_⟩, fun t => ⟨?_, ?_⟩⟩
  · exact Entity.keySetters_eq h hc
  · exact Service.resolved_eq h hc
  · exact Service.copied_eq h hc
  · exact Controller.navigated_eq h hc
  · intro note hnote
    exact Mapper.notes_file h hc hnote
  · intro r hr
    exact JoinEntity.syncObstacle_eq_none h hr
  · exact JoinEntity.notes_file h t

/-- Cars are vehicles, which have a key, and are referenced by trips, which have none. -/
def fleet : Diagram where
  classes :=
    [{ id := "1", name := "Vehicle", attributes := [{ name := "plate", isPrimaryKey := true }] },
      { id := "2", name := "Car", attributes := [{ name := "doors", type := "Integer" }] },
      { id := "3", name := "Trip"
        attributes :=
          [{ name := "car_plate", isForeignKey := true, referencedEntity := some "Car"
             referencedField := some "plate" }] }]
  relationships :=
    [{ id := "12", source := "1", target := "2", type := inheritanceType
       sourceMultiplicity := "1", targetMultiplicity := "*" }]

theorem nothing_left_out_fleet :
    fleet.DistinctIds ∧ (Hierarchy.ofDiagram fleet).value.KeysDeclared ∧
      (Hierarchy.ofDiagram fleet).value.forest.links = [("2", "1")] ∧
      let ctx := (Context.build fleet "app" 3).value
      ∀ c ∈ fleet.classes, Service.resolved ctx c = ⟨ctx.chainReferences c, []⟩ ∧
        Entity.keySetters ctx c = ⟨(ctx.membersOf c).references, []⟩ := by
  have hd : fleet.DistinctIds := by
    unfold Diagram.DistinctIds
    decide
  have hkeys : (Hierarchy.ofDiagram fleet).value.KeysDeclared := by
    unfold Hierarchy.KeysDeclared
    decide
  obtain ⟨hclasses, -⟩ := nothing_left_out fleet hd hkeys "app" 3
  refine ⟨hd, hkeys, by decide, fun c hc => ?_⟩
  obtain ⟨hsetters, hresolved, -⟩ := hclasses c hc
  exact ⟨hresolved, hsetters⟩

end Scaffold
