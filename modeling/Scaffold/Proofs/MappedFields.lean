import Scaffold.Proofs.Completeness
import Scaffold.Proofs.KeyUpdates

/-!
# All fields of a transfer object are mapped

The mapper of a class goes by the members along its chain, of which the first with a field of the
entity counts. The transfer object has the fields that the classes of the chain declare for it. A
reference may be passed over because one further up has its field, and a reference may have no id
field. Neither hides a field of the transfer object. If references have one field, the id field of
the upper one is taken for the lower one too, or the upper one has none because it is taken anyway
(`Hierarchy.WellFormed.dtoFieldName_of_above`). So every id field is the id field of a reference
that counts: `Context.mem_chainReferences_of_idField`. In `marina` a class has a reference with the
field of one two generations further up.

Main statement: `mapped_fields`.
-/

namespace Scaffold

open Naming Java

/-! ## Id fields along a chain -/

/-- When references are settled, the id field of each is one of theirs or was taken. -/
theorem idField_mem_settleReferences (c : ClassNode) (fields taken : List String)
    (l : List ReferenceMember) :
    ∀ r ∈ (settleReferences c fields taken l).value, idField r.attr.name ∈
      (settleReferences c fields taken l).value.filterMap (·.dtoFieldName) ++ taken := by
  induction l generalizing taken with
  | nil => exact fun _ hr => absurd hr List.not_mem_nil
  | cons r₀ rest ih =>
    rw [value_settleReferences_cons]
    intro r hr
    rcases List.mem_cons.1 hr with rfl | hr
    · by_cases htaken : idField r₀.attr.name ∈ taken
      · exact List.mem_append_right _ htaken
      · have hsome : (r₀.settledIn fields taken).dtoFieldName = some (idField r₀.attr.name) :=
          if_neg htaken
        rw [List.filterMap_cons_some hsome]
        exact List.mem_append_left _ List.mem_cons_self
    · have hmem := ih _ r hr
      cases hfield : (r₀.settledIn fields taken).dtoFieldName with
      | none =>
        rw [hfield] at hmem
        rw [List.filterMap_cons_none hfield]
        exact hmem
      | some field =>
        rw [hfield] at hmem
        rw [List.filterMap_cons_some hfield]
        simpa [or_left_comm] using hmem

namespace Hierarchy

variable {h : Hierarchy}

/-- The transfer object of a class declares or inherits a field that is called like the id field of
each reference. -/
theorem idField_mem_dtoFieldsAlong {c : ClassNode} {r : ReferenceMember}
    (hr : r ∈ (h.membersOf c).references) :
    r.fieldName ++ "Id" ∈ (h.membersOf c).dtoFields ++ h.dtoFieldsAlong (h.ancestors c) := by
  have hname : r.fieldName ++ "Id" = idField r.attr.name := by
    rw [(fieldName_membersOf hr).2, idField]
  rw [membersOf, references_settledMembers] at hr
  rw [hname]
  have hmem := idField_mem_settleReferences _ _ _ _ r hr
  rcases List.mem_append.1 hmem with hown | htaken
  · exact List.mem_append_left _ (List.mem_append_right _ hown)
  · rcases List.mem_append.1 htaken with hscalar | hinherited
    · exact List.mem_append_left _ (List.mem_append_left _ hscalar)
    · exact List.mem_append_right _ hinherited

/-- A reference has no id field if a reference of an ancestor has its field. -/
theorem WellFormed.dtoFieldName_of_above (hh : h.WellFormed) {p q : ClassNode}
    (hq : q ∈ h.ancestors p) {r r' : ReferenceMember} (hr : r ∈ (h.membersOf p).references)
    (hr' : r' ∈ (h.membersOf q).references) (hfield : r'.fieldName = r.fieldName) :
    r.dtoFieldName = none := by
  cases hid : r.dtoFieldName with
  | none => rfl
  | some field =>
    obtain ⟨rfl, -, hfree⟩ := dtoFieldName_sound hr hid
    refine absurd ?_ hfree
    have habove := idField_mem_dtoFieldsAlong hr'
    rw [hh.dtoFieldsAlong_ancestors] at habove ⊢
    rw [← hfield]
    rcases List.mem_append.1 habove with hown | hinherited
    · exact List.mem_flatMap.2 ⟨q, hq, hown⟩
    · obtain ⟨a, ha, hmem⟩ := List.mem_flatMap.1 hinherited
      exact List.mem_flatMap.2 ⟨a, hh.ancestors_subset hq ha, hmem⟩

/-- Behind an ancestor its own ancestors are met. -/
theorem WellFormed.ancestors_suffix (hh : h.WellFormed) {c p : ClassNode}
    (hp : p ∈ h.ancestors c) : p :: h.ancestors p <:+ h.ancestors c := by
  have hpath := hh.ascends_ancestors c
  generalize h.ancestors c = path at hpath hp
  induction hpath with
  | top => cases hp
  | step _ rest ih =>
    rcases List.mem_cons.1 hp with rfl | hp
    · rw [(hh.ascends_ancestors p).det rest]
    · exact (ih hp).trans (List.suffix_cons _ _)

/-- The chain of a class starts with the chains of its ancestors. -/
theorem WellFormed.chain_prefix (hh : h.WellFormed) {c p : ClassNode} (hp : p ∈ h.chain c) :
    h.chain p <+: h.chain c := by
  rcases mem_chain.1 hp with habove | rfl
  · have hprefix := List.reverse_prefix.2 (hh.ancestors_suffix habove)
    rw [List.reverse_cons] at hprefix
    exact hprefix.trans (List.prefix_append _ _)
  · exact List.prefix_rfl

end Hierarchy

section Build

variable {d : Diagram} (hd : d.DistinctIds) (basePackage : String) (queryLimit : Int)
  {c : ClassNode} (hc : c ∈ d.classes)
include hd hc

/-- A reference with an id field counts: no reference further up has its field. -/
theorem Context.mem_chainReferences_of_idField {p : ClassNode} {r : ReferenceMember}
    {field : String} (hfield : r.dtoFieldName = some field) :
    let ctx := (build d basePackage queryLimit).value
    p ∈ ctx.hierarchy.chain c → r ∈ (ctx.membersOf p).references → r ∈ ctx.chainReferences c := by
  intro ctx hp hr
  have hh : ctx.hierarchy.WellFormed := Hierarchy.wellFormed_ofDiagram d
  have hclass : ∀ q ∈ ctx.hierarchy.chain c, ctx.membersOf q = ctx.hierarchy.membersOf q :=
    fun q hq => membersOf_build hd basePackage queryLimit (hh.mem_classes_of_mem_chain hc hq)
  -- The reference that counts for the field is one of the chain of `p`.
  obtain ⟨rest, hrest⟩ := hh.chain_prefix hp
  have hmem : r ∈ (ctx.hierarchy.chain p).flatMap fun a => (ctx.membersOf a).references :=
    List.mem_flatMap.2 ⟨p, Hierarchy.mem_chain.2 (.inr rfl), hr⟩
  obtain ⟨first, hfirst, hsame⟩ : ∃ first ∈ ctx.chainReferences c, first.fieldName = r.fieldName :=
    exists_mem_distinctBy (List.mem_flatMap.2 ⟨p, hp, hr⟩)
  have habove : first ∈ (ctx.hierarchy.chain p).flatMap fun a => (ctx.membersOf a).references := by
    rw [chainReferences, ← hrest, List.flatMap_append] at hfirst
    exact mem_left_of_mem_distinctBy hfirst hmem hsame.symm
  obtain ⟨q, hq, hmemq⟩ := List.mem_flatMap.1 habove
  have hqc : q ∈ ctx.hierarchy.chain c := hrest ▸ List.mem_append_left _ hq
  rw [hclass p hp] at hr
  rw [hclass q hqc] at hmemq
  rcases Hierarchy.mem_chain.1 hq with hq | rfl
  · rw [hh.dtoFieldName_of_above hq hr hmemq hsame] at hfield
    cases hfield
  · have hnodup : ((ctx.hierarchy.membersOf q).references.map (·.fieldName)).Nodup :=
      (List.nodup_append.1 (Hierarchy.nodup_fields q)).2.1
    obtain rfl := List.inj_on_of_nodup_map hnodup hmemq hr hsame
    exact hfirst

/-- The classes of a chain declare for the transfer object the fields of the columns and the id
fields of the references that count. -/
theorem Context.mem_dtoFields_chain (field : String) :
    let ctx := (build d basePackage queryLimit).value
    (∃ p ∈ ctx.hierarchy.chain c, field ∈ (ctx.membersOf p).dtoFields) ↔
      (∃ s ∈ ctx.chainScalars c, s.fieldName = field) ∨
        ∃ r ∈ ctx.chainReferences c, r.dtoFieldName = some field := by
  intro ctx
  constructor
  · rintro ⟨p, hp, hfield⟩
    rcases List.mem_append.1 hfield with hfield | hfield
    · obtain ⟨s, hs, rfl⟩ := List.mem_map.1 hfield
      exact .inl (exists_mem_distinctBy (List.mem_flatMap.2 ⟨p, hp, hs⟩))
    · obtain ⟨r, hr, hfield⟩ := List.mem_filterMap.1 hfield
      exact .inr ⟨r, mem_chainReferences_of_idField hd basePackage queryLimit hc hfield hp hr,
        hfield⟩
  · rintro (⟨s, hs, rfl⟩ | ⟨r, hr, hfield⟩)
    · obtain ⟨p, hp, hs⟩ := List.mem_flatMap.1 (mem_of_mem_distinctBy hs)
      exact ⟨p, hp, List.mem_append_left _ (List.mem_map_of_mem hs)⟩
    · obtain ⟨p, hp, hr⟩ := List.mem_flatMap.1 (mem_of_mem_distinctBy hr)
      exact ⟨p, hp, List.mem_append_right _ (List.mem_filterMap.2 ⟨r, hr, hfield⟩)⟩

/-- No reference of a chain has the field of a primary key for its id field. -/
theorem Context.idField_ne_key {r : ReferenceMember} {k : ClassNode × ScalarMember} :
    let ctx := (build d basePackage queryLimit).value
    r ∈ ctx.chainReferences c → k ∈ ctx.chainKeys c → r.dtoFieldName ≠ some k.2.fieldName := by
  intro ctx hr hk hfield
  have hh : ctx.hierarchy.WellFormed := Hierarchy.wellFormed_ofDiagram d
  obtain ⟨-, hroot⟩ := mem_scalars_root hd basePackage queryLimit hc hk
  rw [membersOf_build hd basePackage queryLimit (hh.root_mem hc)] at hroot
  obtain ⟨p, hp, -, hmem⟩ := (Mapper.mem_chain_build hd basePackage queryLimit hc).2 r hr
  have habove := hh.below_of_idField hp (Hierarchy.root_mem_chain c) hmem hroot hfield
  rw [hh.ancestors_of_top (hh.parentOf_root c)] at habove
  cases habove

end Build

namespace Mapper

/-! ## Fields that a mapper reads -/

section Reads

variable {ctx : Context} {c : ClassNode} {call : AccessorCall}

/-- Code that reads from the transfer object the field of each mapping of a plan, and nothing
else. -/
theorem mem_dtoCalls_of_reads (ctx : Context) {p : Plan} {code : ScalarMapping → Statements}
    (hscalars : ∀ m ∈ p.scalars, ∀ call,
      call ∈ dtoCalls (code m) ↔ call = ⟨c, .dto, .read, m.field⟩)
    (hreferences : p.references.Sublist (referenceMappings ctx c)) :
    call ∈ dtoCalls (p.scalars.flatMap code ++ p.references.flatMap (·.toEntity)) ↔
      ∃ field ∈ p.transferFields, call = ⟨c, .dto, .read, field⟩ := by
  have hreads : ∀ m ∈ p.references,
      (call ∈ dtoCalls m.toEntity ↔ call = ⟨c, .dto, .read, m.dtoWrite.field⟩) := by
    intro m hm
    obtain ⟨r, -, hr⟩ := exists_of_mem_referenceMappings ctx c (hreferences.mem hm)
    obtain ⟨field, -, rfl⟩ := Option.map_eq_some_iff.1 hr
    simp [dtoCalls, ReferenceMapping.calls_toEntity]
  rw [dtoCalls_append, dtoCalls_flatMap, dtoCalls_flatMap, List.mem_append, List.mem_flatMap,
    List.mem_flatMap, Plan.transferFields]
  constructor
  · rintro (⟨m, hm, hcall⟩ | ⟨m, hm, hcall⟩)
    · exact ⟨_, List.mem_append_left _ (List.mem_map_of_mem hm), (hscalars m hm call).1 hcall⟩
    · exact ⟨_, List.mem_append_right _ (List.mem_map_of_mem hm), (hreads m hm).1 hcall⟩
  · rintro ⟨field, hfield, hcall⟩
    rcases List.mem_append.1 hfield with hfield | hfield
    · obtain ⟨m, hm, rfl⟩ := List.mem_map.1 hfield
      exact .inl ⟨m, hm, (hscalars m hm call).2 hcall⟩
    · obtain ⟨m, hm, rfl⟩ := List.mem_map.1 hfield
      exact .inr ⟨m, hm, (hreads m hm).2 hcall⟩

theorem mem_dtoCalls_toDtoCode :
    call ∈ dtoCalls (toDtoCode ctx c) ↔
      ∃ field ∈ (toDtoPlan ctx c).transferFields, call = ⟨c, .dto, .write, field⟩ := by
  rw [calls_toDtoCode, List.mem_map]
  simp only [eq_comm]

theorem mem_dtoCalls_toEntityCode :
    call ∈ dtoCalls (toEntityCode ctx c) ↔
      ∃ field ∈ (toEntityPlan ctx c).transferFields, call = ⟨c, .dto, .read, field⟩ := by
  refine mem_dtoCalls_of_reads ctx (fun m hm call => ?_) List.filter_sublist
  obtain ⟨s, -, rfl⟩ := exists_of_mem_scalarMappings ctx c (List.mem_filter.1 hm).1
  simp [dtoCalls, ScalarMapping.calls_toEntity, ofScalar]

theorem mem_dtoCalls_updateCode :
    call ∈ dtoCalls (updateCode ctx c) ↔
      ∃ field ∈ (updatePlan ctx c).transferFields, call = ⟨c, .dto, .read, field⟩ := by
  refine mem_dtoCalls_of_reads ctx (fun m hm call => ?_) List.filter_sublist
  have hplan : m ∈ (toEntityPlan ctx c).scalars := (List.mem_filter.1 hm).1
  obtain ⟨s, -, rfl⟩ := exists_of_mem_scalarMappings ctx c (List.mem_filter.1 hplan).1
  simp [dtoCalls, ScalarMapping.calls_update, ofScalar]

end Reads

/-! ## Plans of complete contexts -/

section Complete

variable {ctx : Context} (h : ctx.Complete) {c : ClassNode} (hc : c ∈ ctx.diagram.classes)
include h hc

/-- In both directions all mappings are used. -/
theorem plans_eq :
    toDtoPlan ctx c = ⟨scalarMappings ctx c, referenceMappings ctx c⟩ ∧
      toEntityPlan ctx c = ⟨scalarMappings ctx c, referenceMappings ctx c⟩ := by
  have hscalar : ∀ m ∈ scalarMappings ctx c,
      ctx.predictsAll m.toDtoCalls = true ∧ ctx.predictsAll m.toEntityCalls = true := by
    intro m hm
    obtain ⟨s, hs, rfl⟩ := exists_of_mem_scalarMappings ctx c hm
    simp [Context.predictsAll, ScalarMapping.toDtoCalls, ScalarMapping.toEntityCalls, ofScalar,
      h.scalar hc hs]
  have hreference : ∀ m ∈ referenceMappings ctx c,
      ctx.predictsAll m.toDtoCalls = true ∧ ctx.predictsAll m.toEntityCalls = true := by
    intro m hm
    obtain ⟨r, hr, hm⟩ := exists_of_mem_referenceMappings ctx c hm
    obtain ⟨field, hfield, rfl⟩ := Option.map_eq_some_iff.1 hm
    simp [Context.predictsAll, ReferenceMapping.toDtoCalls, ReferenceMapping.toEntityCalls,
      h.chainReference hc hr, h.chainId hc hr hfield, h.chainTargetKey hc hr]
  unfold toDtoPlan toEntityPlan
  rw [List.filter_eq_self.2 fun m hm => (hscalar m hm).1,
    List.filter_eq_self.2 fun m hm => (hreference m hm).1,
    List.filter_eq_self.2 fun m hm => (hscalar m hm).2,
    List.filter_eq_self.2 fun m hm => (hreference m hm).2]
  exact ⟨rfl, rfl⟩

end Complete

/-- The mappings of references use the id fields of the references that count. -/
theorem mem_referenceFields {ctx : Context} {c : ClassNode} {field : String} :
    field ∈ (referenceMappings ctx c).map (·.dtoWrite.field) ↔
      ∃ r ∈ ctx.chainReferences c, r.dtoFieldName = some field := by
  rw [List.mem_map]
  constructor
  · rintro ⟨m, hm, rfl⟩
    obtain ⟨r, hr, hm⟩ := exists_of_mem_referenceMappings ctx c hm
    obtain ⟨field, hfield, rfl⟩ := Option.map_eq_some_iff.1 hm
    exact ⟨r, hr, hfield⟩
  · rintro ⟨r, hr, hfield⟩
    exact ⟨_, List.mem_filterMap.2 ⟨r, hr, congrArg (Option.map _) hfield⟩, rfl⟩

section Build

variable {d : Diagram} (hd : d.DistinctIds)
  (hkeys : (Hierarchy.ofDiagram d).value.KeysDeclared) (basePackage : String) (queryLimit : Int)
  {c : ClassNode} (hc : c ∈ d.classes)
include hd hkeys hc

/-- In both directions the fields are mapped that the chain declares for the transfer object. -/
theorem mem_transferFields (field : String) :
    let ctx := (Context.build d basePackage queryLimit).value
    (field ∈ (toDtoPlan ctx c).transferFields ↔
        ∃ p ∈ ctx.hierarchy.chain c, field ∈ (ctx.membersOf p).dtoFields) ∧
      (field ∈ (toEntityPlan ctx c).transferFields ↔
        ∃ p ∈ ctx.hierarchy.chain c, field ∈ (ctx.membersOf p).dtoFields) := by
  intro ctx
  have hcomplete : ctx.Complete := Context.complete_build hd basePackage queryLimit hkeys
  obtain ⟨hdto, hentity⟩ := plans_eq hcomplete hc
  have hfields : field ∈ (Plan.mk (scalarMappings ctx c) (referenceMappings ctx c)).transferFields ↔
      ∃ p ∈ ctx.hierarchy.chain c, field ∈ (ctx.membersOf p).dtoFields := by
    refine Iff.trans ?_ (Context.mem_dtoFields_chain hd basePackage queryLimit hc field).symm
    rw [Plan.transferFields, List.mem_append, mem_referenceFields, scalarMappings, List.map_map,
      List.mem_map]
    rfl
  rw [hdto, hentity]
  exact ⟨hfields, hfields⟩

/-- An update leaves out the fields of primary keys and maps all others. -/
theorem mem_transferFields_updatePlan (field : String) :
    let ctx := (Context.build d basePackage queryLimit).value
    field ∈ (updatePlan ctx c).transferFields ↔
      (∃ p ∈ ctx.hierarchy.chain c, field ∈ (ctx.membersOf p).dtoFields) ∧
        ∀ k ∈ ctx.chainKeys c, k.2.fieldName ≠ field := by
  intro ctx
  have hcomplete : ctx.Complete := Context.complete_build hd basePackage queryLimit hkeys
  have hplan : updatePlan ctx c =
      ⟨(scalarMappings ctx c).filter (!·.isPrimaryKey), referenceMappings ctx c⟩ := by
    rw [updatePlan, (plans_eq hcomplete hc).2]
  have hscalars : field ∈ ((scalarMappings ctx c).filter (!·.isPrimaryKey)).map (·.field) ↔
      ∃ s ∈ ctx.chainScalars c, s.isPrimaryKey = false ∧ s.fieldName = field := by
    rw [scalarMappings, List.filter_map, List.map_map, List.mem_map]
    simp only [List.mem_filter, Function.comp_apply, ofScalar, Bool.not_eq_true', and_assoc]
  have hplain : ∀ s ∈ ctx.chainScalars c,
      (s.isPrimaryKey = false ↔ ∀ k ∈ ctx.chainKeys c, k.2.fieldName ≠ s.fieldName) := by
    intro s hs
    rw [← Bool.not_eq_true, Context.isPrimaryKey_iff hd basePackage queryLimit hc hs]
    push Not
    rfl
  have hcover := Context.mem_dtoFields_chain hd basePackage queryLimit hc field
  rw [hplan, Plan.transferFields, List.mem_append, hscalars, mem_referenceFields]
  refine Iff.trans ?_ (and_congr_left' hcover.symm)
  constructor
  · rintro (⟨s, hs, hmark, rfl⟩ | ⟨r, hr, hfield⟩)
    · exact ⟨.inl ⟨s, hs, rfl⟩, (hplain s hs).1 hmark⟩
    · refine ⟨.inr ⟨r, hr, hfield⟩, fun k hk hkey => ?_⟩
      exact Context.idField_ne_key hd basePackage queryLimit hc hr hk (hkey ▸ hfield)
  · rintro ⟨⟨s, hs, rfl⟩ | hreference, hfree⟩
    · exact .inl ⟨s, hs, (hplain s hs).2 hfree, rfl⟩
    · exact .inr hreference

end Build

end Mapper

/-! ## Files -/

/-- The methods of the mapper that make a transfer object or an entity are in its file. -/
theorem Mapper.methods_in_file (ctx : Context) (c : ClassNode) :
    indented 1 (toDtoMethod ctx c) <:+: (file ctx c).value.body ∧
      indented 1 (toEntityMethod ctx c) <:+: (file ctx c).value.body := by
  constructor
  · refine (indented_infix_braced ?_).trans (List.suffix_cons _ _).isInfix
    iterate 2 refine List.infix_append_of_infix_left ?_
    exact List.infix_append_of_infix_left (List.suffix_cons _ _).isInfix
  · refine (indented_infix_braced ?_).trans (List.suffix_cons _ _).isInfix
    refine List.infix_append_of_infix_left ?_
    exact List.infix_append_of_infix_left List.infix_append_right

/-- In the files of a diagram without repeated ids in which every class without a parent that has
primary keys has one that is no relationship attribute, the mapper of a class calls on the transfer
object the setters of all fields that the transfer object is predicted to have, and of no other.
Towards the entity it calls their getters, and in an update those of all but the fields of primary
keys. The fields are those that the transfer objects of the chain declare. -/
theorem mapped_fields (d : Diagram) (hd : d.DistinctIds)
    (hkeys : (Hierarchy.ofDiagram d).value.KeysDeclared) (basePackage : String)
    (queryLimit : Int) (c : ClassNode) (hc : c ∈ d.classes) :
    let ctx := (Context.build d basePackage queryLimit).value
    let known (field : String) : Prop := (ctx.prediction c).dtoAll.has field = true
    let methods :=
      [Mapper.toDtoMethod ctx c, Mapper.toEntityMethod ctx c, Mapper.updateMethod ctx c]
    (∀ code ∈ methods, indented 1 code <:+: (Mapper.file ctx c).value.body) ∧
      (∀ call, call ∈ Mapper.dtoCalls (Mapper.toDtoCode ctx c) ↔
        ∃ field, known field ∧ call = ⟨c, .dto, .write, field⟩) ∧
      (∀ call, call ∈ Mapper.dtoCalls (Mapper.toEntityCode ctx c) ↔
        ∃ field, known field ∧ call = ⟨c, .dto, .read, field⟩) ∧
      (∀ call, call ∈ Mapper.dtoCalls (Mapper.updateCode ctx c) ↔
        ∃ field, (known field ∧ ∀ k ∈ ctx.chainKeys c, k.2.fieldName ≠ field) ∧
          call = ⟨c, .dto, .read, field⟩) ∧
      ∀ field, known field ↔
        ∃ a ∈ ctx.hierarchy.chain c, ∃ p ∈ Dto.properties ctx a, p.field = field := by
  intro ctx known methods
  have hdeclared : ∀ field, known field ↔
      ∃ a ∈ ctx.hierarchy.chain c, ∃ p ∈ Dto.properties ctx a, p.field = field :=
    Context.has_dtoAll_build hd basePackage queryLimit hc
  have hknown : ∀ field, known field ↔
      ∃ a ∈ ctx.hierarchy.chain c, field ∈ (ctx.membersOf a).dtoFields := by
    intro field
    simp only [hdeclared, ← Dto.field_mem_properties, List.mem_map]
  have hfields := Mapper.mem_transferFields hd hkeys basePackage queryLimit hc
  have hupdate := Mapper.mem_transferFields_updatePlan hd hkeys basePackage queryLimit hc
  refine ⟨?_, fun call => ?_, fun call => ?_, fun call => ?_, hdeclared⟩
  · obtain ⟨hdto, hentity⟩ := Mapper.methods_in_file ctx c
    simp only [methods, List.forall_mem_cons]
    exact ⟨hdto, hentity, Mapper.updateMethod_in_file ctx c, nofun⟩
  · rw [Mapper.mem_dtoCalls_toDtoCode]
    exact exists_congr fun field => and_congr_left' ((hfields field).1.trans (hknown field).symm)
  · rw [Mapper.mem_dtoCalls_toEntityCode]
    exact exists_congr fun field => and_congr_left' ((hfields field).2.trans (hknown field).symm)
  · rw [Mapper.mem_dtoCalls_updateCode]
    exact exists_congr fun field =>
      and_congr_left' ((hupdate field).trans (and_congr_left' (hknown field).symm))

/-- Ports have a key. -/
def port : ClassNode where
  id := "1"
  name := "Port"
  attributes := [{ name := "id", type := "Long", isPrimaryKey := true }]

/-- A foreign key to ports. -/
def portKey (name : String) : Attribute where
  name := name
  type := "Long"
  isForeignKey := true
  referencedEntity := some "Port"

/-- Ships have a key and a port. -/
def ship : ClassNode where
  id := "2"
  name := "Ship"
  attributes := [{ name := "imo", type := "String", isPrimaryKey := true }, portKey "home_port"]

/-- Ferries are ships with lanes. -/
def carFerry : ClassNode where
  id := "3"
  name := "Ferry"
  attributes := [{ name := "lanes", type := "Integer" }]

/-- Catamarans are ferries with two ports of their own. One of them is called as that of ships
is. -/
def catamaran : ClassNode where
  id := "4"
  name := "Catamaran"
  attributes := [portKey "home_port", portKey "summer_port"]

/-- Ports, and ships with two generations of children. -/
def marina : Diagram where
  classes := [port, ship, carFerry, catamaran]
  relationships := [parentEdge "2" "3", parentEdge "3" "4"]

/-- A catamaran has two references with one field, and its own one has no id field. The mapper uses
the id field all the same, and every other field of the transfer object. -/
theorem mapped_fields_catamaran :
    let ctx := (Context.build marina "app" 3).value
    let fields := ["imo", "homePortId", "lanes", "summerPortId"]
    marina.DistinctIds ∧ (Hierarchy.ofDiagram marina).value.KeysDeclared ∧
      catamaran ∈ marina.classes ∧
      (ctx.membersOf catamaran).references.map (fun r => (r.fieldName, r.dtoFieldName)) =
        [("homePort", none), ("summerPort", some "summerPortId")] ∧
      (∀ field ∈ fields,
        ⟨catamaran, .dto, .write, field⟩ ∈ Mapper.dtoCalls (Mapper.toDtoCode ctx catamaran) ∧
        ⟨catamaran, .dto, .read, field⟩ ∈ Mapper.dtoCalls (Mapper.toEntityCode ctx catamaran) ∧
        (⟨catamaran, .dto, .read, field⟩ ∈ Mapper.dtoCalls (Mapper.updateCode ctx catamaran) ↔
          field ≠ "imo")) := by
  intro ctx fields
  have hd : marina.DistinctIds := by
    unfold Diagram.DistinctIds
    decide
  have hkeys : (Hierarchy.ofDiagram marina).value.KeysDeclared := by
    unfold Hierarchy.KeysDeclared
    decide
  have hc : catamaran ∈ marina.classes := by decide
  have hknown : ∀ field ∈ fields, (ctx.prediction catamaran).dtoAll.has field = true := by
    decide +kernel
  have hkey : ∀ field ∈ fields,
      (∀ k ∈ ctx.chainKeys catamaran, k.2.fieldName ≠ field) ↔ field ≠ "imo" := by
    decide +kernel
  obtain ⟨-, hdto, hentity, hupdate, -⟩ :=
    mapped_fields marina hd hkeys "app" 3 catamaran hc
  refine ⟨hd, hkeys, hc, by decide +kernel, fun field hfield => ⟨?_, ?_, ?_⟩⟩
  · exact (hdto _).2 ⟨field, hknown field hfield, rfl⟩
  · exact (hentity _).2 ⟨field, hknown field hfield, rfl⟩
  · rw [hupdate, ← hkey field hfield]
    constructor
    · rintro ⟨field', ⟨-, hfree⟩, heq⟩
      obtain rfl : field = field' := congrArg AccessorCall.field heq
      exact hfree
    · exact fun hfree => ⟨field, ⟨hknown field hfield, hfree⟩, rfl⟩

end Scaffold
