import Scaffold.Proofs.Accessors
import Scaffold.Proofs.Calls

/-!
# Fields of transfer objects that mappers use

The mapper of a class has one mapping for each column and each reference along the chain, and each
mapping uses one field of the transfer object. The code towards the transfer object writes these
fields once each, and the code towards the entity reads them: `calls_toDtoCode` and
`calls_toEntityCode`.

Columns differ in their fields, and so do references. The id field of a reference is settled against
the columns of its own class and what the transfer object inherits, but not against columns further
down. A column may therefore use the id field of a reference of an ancestor, and no other:
`WellFormed.below_of_idField`. `kennelClub` has such a column.

Main statement: `transfer_fields`.
-/

namespace Scaffold

open Naming

/-! ## Columns and id fields along a chain -/

namespace Hierarchy

variable {h : Hierarchy}

/-- A column that is called like the id field of a reference of its chain belongs to a class further
down. -/
theorem WellFormed.below_of_idField (hh : h.WellFormed) {c p q : ClassNode} (hp : p ∈ h.chain c)
    (hq : q ∈ h.chain c) {r : ReferenceMember} (hr : r ∈ (h.membersOf p).references)
    {s : ScalarMember} (hs : s ∈ (h.membersOf q).scalars)
    (hfield : r.dtoFieldName = some s.fieldName) : p ∈ h.ancestors q := by
  obtain ⟨-, hown, hinherited⟩ := dtoFieldName_sound hr hfield
  rcases hh.comparable hp hq with habove | hbelow | rfl
  · exact habove
  · refine absurd ?_ hinherited
    rw [hh.dtoFieldsAlong_ancestors]
    exact List.mem_flatMap.2 ⟨q, hbelow, List.mem_append_left _ (List.mem_map_of_mem hs)⟩
  · exact absurd (List.mem_map_of_mem hs) hown

end Hierarchy

namespace Mapper

/-! ## Calls of the transfer object -/

/-- The fields of the transfer object that the mappings of a plan use, one for each mapping. -/
def Plan.transferFields (p : Plan) : List String :=
  p.scalars.map (·.field) ++ p.references.map (·.dtoWrite.field)

/-- No column uses the field of the transfer object that the id of a reference uses. -/
def Plan.Apart (p : Plan) : Prop :=
  ∀ s ∈ p.scalars, ∀ r ∈ p.references, s.field ≠ r.dtoWrite.field

instance (p : Plan) : Decidable p.Apart :=
  inferInstanceAs (Decidable (∀ s ∈ p.scalars, ∀ r ∈ p.references, s.field ≠ r.dtoWrite.field))

/-- The calls of the transfer object in some code. -/
def dtoCalls (code : Statements) : List AccessorCall := code.calls.filter (·.bean = .dto)

theorem dtoCalls_append (code code' : Statements) :
    dtoCalls (code ++ code') = dtoCalls code ++ dtoCalls code' := by
  rw [dtoCalls, Statements.calls_append, List.filter_append, dtoCalls, dtoCalls]

theorem dtoCalls_flatMap {α : Type} (l : List α) (code : α → Statements) :
    dtoCalls (l.flatMap code) = l.flatMap fun a => dtoCalls (code a) := by
  rw [dtoCalls, Statements.calls_flatMap, List.filter_flatMap]
  rfl

section Chain

variable (ctx : Context) (c : ClassNode)

theorem exists_of_mem_scalarMappings {m : ScalarMapping} (hm : m ∈ scalarMappings ctx c) :
    ∃ s ∈ ctx.chainScalars c, ofScalar c s = m :=
  List.mem_map.1 hm

theorem exists_of_mem_referenceMappings {m : ReferenceMapping}
    (hm : m ∈ referenceMappings ctx c) :
    ∃ r ∈ ctx.chainReferences c, ofReference? c r = some m :=
  List.mem_filterMap.1 hm

/-- The code towards the transfer object writes one field for each mapping. -/
theorem calls_toDtoCode :
    dtoCalls (toDtoCode ctx c) =
      (toDtoPlan ctx c).transferFields.map fun field => ⟨c, .dto, .write, field⟩ := by
  rw [toDtoCode, dtoCalls_append, dtoCalls_flatMap, dtoCalls_flatMap, Plan.transferFields,
    List.map_append, List.map_map, List.map_map, List.map_eq_flatMap, List.map_eq_flatMap]
  congr 1
  · refine List.flatMap_congr fun m hm => ?_
    obtain ⟨s, -, rfl⟩ := exists_of_mem_scalarMappings ctx c (List.mem_filter.1 hm).1
    simp [dtoCalls, ScalarMapping.calls_toDto, ofScalar]
  · refine List.flatMap_congr fun m hm => ?_
    obtain ⟨r, -, hr⟩ := exists_of_mem_referenceMappings ctx c (List.mem_filter.1 hm).1
    obtain ⟨field, -, rfl⟩ := Option.map_eq_some_iff.1 hr
    simp [dtoCalls, ReferenceMapping.calls_toDto]

/-- The code towards the entity reads one field for each mapping, that of a reference once to see
whether it is there and once more to use it. -/
theorem calls_toEntityCode :
    dtoCalls (toEntityCode ctx c) =
      ((toEntityPlan ctx c).scalars.map fun m => ⟨c, .dto, .read, m.field⟩) ++
        (toEntityPlan ctx c).references.flatMap fun m =>
          List.replicate 2 ⟨c, .dto, .read, m.dtoWrite.field⟩ := by
  rw [toEntityCode, dtoCalls_append, dtoCalls_flatMap, dtoCalls_flatMap, List.map_eq_flatMap]
  congr 1
  · refine List.flatMap_congr fun m hm => ?_
    obtain ⟨s, -, rfl⟩ := exists_of_mem_scalarMappings ctx c (List.mem_filter.1 hm).1
    simp [dtoCalls, ScalarMapping.calls_toEntity, ofScalar]
  · refine List.flatMap_congr fun m hm => ?_
    obtain ⟨r, -, hr⟩ := exists_of_mem_referenceMappings ctx c (List.mem_filter.1 hm).1
    obtain ⟨field, -, rfl⟩ := Option.map_eq_some_iff.1 hr
    simp [dtoCalls, ReferenceMapping.calls_toEntity]

end Chain

/-! ## Distinct fields -/

section Chain

variable {ctx : Context} {c : ClassNode}

theorem nodup_scalarFields : ((scalarMappings ctx c).map (·.field)).Nodup := by
  rw [scalarMappings, List.map_map]
  exact nodup_distinctBy _ _

/-- The references of a chain have different id fields, if each is called after its reference. -/
theorem nodup_referenceFields
    (hsound : ∀ r ∈ ctx.chainReferences c, ∀ field, r.dtoFieldName = some field →
      field = r.fieldName ++ "Id") :
    ((referenceMappings ctx c).map (·.dtoWrite.field)).Nodup := by
  -- References of a chain have different fields, and an id field is such a field with an ending.
  have hids : ((ctx.chainReferences c).map fun r => r.fieldName ++ "Id").Nodup := by
    have hfields : ((ctx.chainReferences c).map (·.fieldName)).Nodup := nodup_distinctBy _ _
    simpa only [List.map_map, Function.comp_def] using
      hfields.map (f := (· ++ "Id")) fun s t hst => (String.append_left_inj _).1 hst
  refine hids.sublist (map_filterMap_sublist fun r hr m hm => ?_)
  obtain ⟨field, hfield, rfl⟩ := Option.map_eq_some_iff.1 hm
  exact hsound r hr field hfield

/-- What is drawn from the mappings of a class uses no field twice exactly if no column uses the id
field of a reference. -/
theorem Plan.nodup_transferFields_iff {p : Plan}
    (hsound : ∀ r ∈ ctx.chainReferences c, ∀ field, r.dtoFieldName = some field →
      field = r.fieldName ++ "Id")
    (hscalars : p.scalars.Sublist (scalarMappings ctx c))
    (hreferences : p.references.Sublist (referenceMappings ctx c)) :
    p.transferFields.Nodup ↔ p.Apart := by
  have hleft : (p.scalars.map (·.field)).Nodup := nodup_scalarFields.sublist (hscalars.map _)
  have hright : (p.references.map (·.dtoWrite.field)).Nodup :=
    (nodup_referenceFields hsound).sublist (hreferences.map _)
  rw [transferFields, List.nodup_append]
  constructor
  · rintro ⟨-, -, hdisjoint⟩ s hs r hr
    exact hdisjoint _ (List.mem_map_of_mem hs) _ (List.mem_map_of_mem hr)
  · intro hapart
    refine ⟨hleft, hright, fun field hfield other hother => ?_⟩
    obtain ⟨s, hs, rfl⟩ := List.mem_map.1 hfield
    obtain ⟨r, hr, rfl⟩ := List.mem_map.1 hother
    exact hapart s hs r hr

end Chain

section Build

variable {d : Diagram} (hd : d.DistinctIds) (basePackage : String) (queryLimit : Int)
  {c : ClassNode} (hc : c ∈ d.classes)
include hd hc

/-- The columns and the references along a chain are members of its classes. -/
theorem mem_chain_build :
    let ctx := (Context.build d basePackage queryLimit).value
    (∀ s ∈ ctx.chainScalars c, ∃ p ∈ ctx.hierarchy.chain c, p ∈ d.classes ∧
      s ∈ (ctx.hierarchy.membersOf p).scalars) ∧
    ∀ r ∈ ctx.chainReferences c, ∃ p ∈ ctx.hierarchy.chain c, p ∈ d.classes ∧
      r ∈ (ctx.hierarchy.membersOf p).references := by
  intro ctx
  have hclass : ∀ p ∈ ctx.hierarchy.chain c, p ∈ d.classes := fun p hp =>
    (Hierarchy.wellFormed_ofDiagram d).mem_classes_of_mem_chain hc hp
  refine ⟨fun s hs => ?_, fun r hr => ?_⟩
  · obtain ⟨p, hp, hs⟩ := List.mem_flatMap.1 (mem_of_mem_distinctBy hs)
    rw [Context.membersOf_build hd basePackage queryLimit (hclass p hp)] at hs
    exact ⟨p, hp, hclass p hp, hs⟩
  · obtain ⟨p, hp, hr⟩ := List.mem_flatMap.1 (mem_of_mem_distinctBy hr)
    rw [Context.membersOf_build hd basePackage queryLimit (hclass p hp)] at hr
    exact ⟨p, hp, hclass p hp, hr⟩

/-- The id field of a reference along a chain is called after the reference. -/
theorem idField_build :
    let ctx := (Context.build d basePackage queryLimit).value
    ∀ r ∈ ctx.chainReferences c, ∀ field, r.dtoFieldName = some field →
      field = r.fieldName ++ "Id" := by
  intro ctx r hr field hfield
  obtain ⟨p, -, -, hr⟩ := (mem_chain_build hd basePackage queryLimit hc).2 r hr
  exact (Hierarchy.dtoFieldName_sound hr hfield).1

/-- The fields of the transfer object that mappings use start with no capital letter, if the names
of the diagram are made of ASCII characters and attributes have names. -/
theorem startsSmall_mappings (hn : d.AsciiNames)
    (hnamed : ∀ p ∈ d.classes, ∀ a ∈ p.attributes, a.name ≠ "") :
    let ctx := (Context.build d basePackage queryLimit).value
    (∀ m ∈ scalarMappings ctx c, StartsSmall m.field.toList) ∧
      ∀ m ∈ referenceMappings ctx c, StartsSmall m.dtoWrite.field.toList := by
  intro ctx
  obtain ⟨hscalars, hreferences⟩ := mem_chain_build hd basePackage queryLimit hc
  have hsmall : ∀ p ∈ d.classes, ∀ field ∈ (ctx.hierarchy.membersOf p).fields,
      StartsSmall field.toList := fun p hp =>
    Hierarchy.startsSmall_fields hn (Hierarchy.wellFormed_ofDiagram d) hp
  refine ⟨fun m hm => ?_, fun m hm => ?_⟩
  · obtain ⟨s, hs, rfl⟩ := exists_of_mem_scalarMappings ctx c hm
    obtain ⟨p, -, hp, hs⟩ := hscalars s hs
    exact hsmall p hp _ (List.mem_append_left _ (List.mem_map_of_mem hs))
  · obtain ⟨r, hr, hm⟩ := exists_of_mem_referenceMappings ctx c hm
    obtain ⟨field, hfield, rfl⟩ := Option.map_eq_some_iff.1 hm
    obtain ⟨p, -, hp, hr⟩ := hreferences r hr
    obtain ⟨hattr, hname⟩ := Hierarchy.fieldName_membersOf hr
    have hne : r.fieldName ≠ "" := by
      rw [hname]
      exact camelCase_ne_empty (hnamed p hp r.attr hattr)
    have hstart := hsmall p hp _ (List.mem_append_right _ (List.mem_map_of_mem hr))
    obtain ⟨rfl, -⟩ := Hierarchy.dtoFieldName_sound hr hfield
    rw [String.toList_append]
    exact hstart.append (by simpa using hne) _

/-- The fields of the transfer object that a plan uses start with no capital letter, too. -/
theorem startsSmall_transferFields (hn : d.AsciiNames)
    (hnamed : ∀ p ∈ d.classes, ∀ a ∈ p.attributes, a.name ≠ "") (plan : Plan) :
    let ctx := (Context.build d basePackage queryLimit).value
    plan.scalars.Sublist (scalarMappings ctx c) →
      plan.references.Sublist (referenceMappings ctx c) →
        ∀ field ∈ plan.transferFields, StartsSmall field.toList := by
  intro ctx hs hr field hfield
  obtain ⟨hscalars, hreferences⟩ :=
    startsSmall_mappings hd basePackage queryLimit hc hn hnamed
  rcases List.mem_append.1 hfield with hfield | hfield
  · obtain ⟨m, hm, rfl⟩ := List.mem_map.1 hfield
    exact hscalars m (hs.mem hm)
  · obtain ⟨m, hm, rfl⟩ := List.mem_map.1 hfield
    exact hreferences m (hr.mem hm)

end Build

/-- On fields that start with no capital letter, accessors are as distinct as the fields. -/
theorem nodup_map_accessor_iff {accessor : String → String} {fields : List String}
    (hinj : ∀ {s t : String}, StartsSmall s.toList → StartsSmall t.toList →
      accessor s = accessor t → s = t)
    (hfields : ∀ field ∈ fields, StartsSmall field.toList) :
    (fields.map accessor).Nodup ↔ fields.Nodup :=
  ⟨List.Nodup.of_map _,
    fun h => h.map_on fun s hs t ht hst => hinj (hfields s hs) (hfields t ht) hst⟩

end Mapper

/-- In a context that is built from a diagram without repeated ids, the code of a mapper towards the
transfer object writes one field for each mapping, and the code towards the entity reads them. No
field is written or read for two mappings exactly if no column uses the id field of a reference, and
with names made of ASCII characters the same holds of the setters and getters. Only a column of a
class can use the id field of a reference, and only that of a reference of an ancestor. -/
theorem transfer_fields (d : Diagram) (hd : d.DistinctIds) (basePackage : String)
    (queryLimit : Int) (c : ClassNode) (hc : c ∈ d.classes) :
    let ctx := (Context.build d basePackage queryLimit).value
    let toDto := Mapper.toDtoPlan ctx c
    let toEntity := Mapper.toEntityPlan ctx c
    Mapper.dtoCalls (Mapper.toDtoCode ctx c) =
      (toDto.transferFields.map fun field => ⟨c, .dto, .write, field⟩) ∧
    Mapper.dtoCalls (Mapper.toEntityCode ctx c) =
      (toEntity.scalars.map fun m => ⟨c, .dto, .read, m.field⟩) ++
        (toEntity.references.flatMap fun m =>
          List.replicate 2 ⟨c, .dto, .read, m.dtoWrite.field⟩) ∧
    (toDto.transferFields.Nodup ↔ toDto.Apart) ∧
    (toEntity.transferFields.Nodup ↔ toEntity.Apart) ∧
    (d.AsciiNames → (∀ p ∈ d.classes, ∀ a ∈ p.attributes, a.name ≠ "") →
      (((Mapper.dtoCalls (Mapper.toDtoCode ctx c)).map (·.method)).Nodup ↔ toDto.Apart) ∧
      ((toEntity.transferFields.map getter).Nodup ↔ toEntity.Apart)) ∧
    ∀ p ∈ ctx.hierarchy.chain c, ∀ q ∈ ctx.hierarchy.chain c,
      ∀ r ∈ (ctx.membersOf p).references, ∀ s ∈ (ctx.membersOf q).scalars,
        r.dtoFieldName = some s.fieldName → p ∈ ctx.hierarchy.ancestors q := by
  intro ctx toDto toEntity
  have hsound := Mapper.idField_build hd basePackage queryLimit hc
  have hdto : toDto.transferFields.Nodup ↔ toDto.Apart :=
    Mapper.Plan.nodup_transferFields_iff hsound List.filter_sublist List.filter_sublist
  have hentity : toEntity.transferFields.Nodup ↔ toEntity.Apart :=
    Mapper.Plan.nodup_transferFields_iff hsound List.filter_sublist List.filter_sublist
  refine ⟨Mapper.calls_toDtoCode ctx c, Mapper.calls_toEntityCode ctx c, hdto, hentity,
    fun hn hnamed => ?_, fun p hp q hq r hr s hs hfield => ?_⟩
  · have hwritten : (Mapper.dtoCalls (Mapper.toDtoCode ctx c)).map (·.method) =
        toDto.transferFields.map setter := by
      rw [Mapper.calls_toDtoCode, List.map_map]
      rfl
    rw [hwritten]
    have hsmall := Mapper.startsSmall_transferFields hd basePackage queryLimit hc hn hnamed
    refine ⟨Iff.trans (Mapper.nodup_map_accessor_iff setter_inj ?_) hdto,
      Iff.trans (Mapper.nodup_map_accessor_iff getter_inj ?_) hentity⟩
    · exact hsmall toDto List.filter_sublist List.filter_sublist
    · exact hsmall toEntity List.filter_sublist List.filter_sublist
  · have hh := Hierarchy.wellFormed_ofDiagram d
    have hclass : ∀ a ∈ ctx.hierarchy.chain c, a ∈ d.classes := fun a ha =>
      hh.mem_classes_of_mem_chain hc ha
    rw [Context.membersOf_build hd basePackage queryLimit (hclass p hp)] at hr
    rw [Context.membersOf_build hd basePackage queryLimit (hclass q hq)] at hs
    exact hh.below_of_idField hp hq hr hs hfield

/-- Animals have an owner. -/
def animal : ClassNode where
  id := "2"
  name := "Animal"
  attributes :=
    [{ name := "id", type := "Long", isPrimaryKey := true },
      { name := "owner", isForeignKey := true, referencedEntity := some "Owner" }]

/-- Dogs are animals with a column that is called like the id field of the owner. -/
def dog : ClassNode where
  id := "3"
  name := "Dog"
  attributes := [{ name := "ownerId", type := "Long" }]

/-- Owners, animals and dogs. -/
def kennelClub : Diagram where
  classes :=
    [{ id := "1", name := "Owner"
       attributes := [{ name := "id", type := "Long", isPrimaryKey := true }] },
      animal, dog]
  relationships := [parentEdge "2" "3"]

theorem transfer_fields_kennelClub :
    kennelClub.DistinctIds ∧ animal ∈ kennelClub.classes ∧
      let ctx := (Context.build kennelClub "app" 3).value
      (Mapper.toDtoPlan ctx animal).Apart ∧
        (Mapper.toDtoPlan ctx animal).transferFields = ["id", "ownerId"] ∧
        ((Mapper.dtoCalls (Mapper.toDtoCode ctx animal)).map (·.method)).Nodup := by
  have hd : kennelClub.DistinctIds := by
    unfold Diagram.DistinctIds
    decide
  have hc : animal ∈ kennelClub.classes := by decide
  have hapart : (Mapper.toDtoPlan (Context.build kennelClub "app" 3).value animal).Apart := by
    decide +kernel
  have hn : kennelClub.AsciiNames := by
    unfold Diagram.AsciiNames
    decide
  obtain ⟨-, -, -, -, hascii, -⟩ := transfer_fields kennelClub hd "app" 3 animal hc
  exact ⟨hd, hc, hapart, by decide +kernel, (hascii hn (by decide)).1.2 hapart⟩

/-- The transfer object of a dog has one field for the column and for the owner of the animal. It is
written twice, and read into two fields of the entity. -/
theorem not_apart_kennelClub :
    kennelClub.DistinctIds ∧ dog ∈ kennelClub.classes ∧
      let ctx := (Context.build kennelClub "app" 3).value
      (Mapper.dtoCalls (Mapper.toDtoCode ctx dog)).map (·.method) =
          ["setId", "setOwnerId", "setOwnerId"] ∧
        ¬((Mapper.dtoCalls (Mapper.toDtoCode ctx dog)).map (·.method)).Nodup ∧
        ¬(Mapper.toEntityPlan ctx dog).transferFields.Nodup := by
  refine ⟨?_, by decide, by decide +kernel, by decide +kernel, by decide +kernel⟩
  unfold Diagram.DistinctIds
  decide

end Scaffold
