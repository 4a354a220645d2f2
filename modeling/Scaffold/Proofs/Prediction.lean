import Scaffold.Backend.Basic
import Scaffold.Proofs.Resolution

/-!
# What a built context holds

A built context holds a prediction for each class of the diagram, which is that of the last class
with its id: `lookup_predictAll`. If the ids of classes are pairwise distinct, it holds for each
class its members, the key of its entity and its prediction, as they are without a memory:
`membersOf_build`, `entityKey_build` and `prediction_build`. So an accessor of the entity or of the
transfer object of a class is predicted exactly if a class of its chain declares the field:
`predicts_entity` and `predicts_dto`.

`Hierarchy.KeysDeclared` is what the diagram has to satisfy for the key of every entity to be one of
its fields: `entityKey_mem`.
-/

namespace Scaffold

open Naming

/-- There is a class with the id of a class. -/
theorem Diagram.exists_classById {d : Diagram} {c : ClassNode} (hc : c ∈ d.classes) :
    ∃ last, d.classById c.id = some last :=
  Option.isSome_iff_exists.1 <|
    List.find?_isSome.2 ⟨c, List.mem_reverse.2 hc, decide_eq_true rfl⟩

theorem Hierarchy.representative_eq {h : Hierarchy} (hd : h.diagram.DistinctIds) {c : ClassNode}
    (hc : c ∈ h.diagram.classes) : h.representative c = c := by
  unfold representative
  cases hclass : h.diagram.classById c.id with
  | none => rfl
  | some c' =>
    exact hd.eq_of_id (Diagram.mem_of_classById hclass) hc (Diagram.id_of_classById hclass)

/-- The class that stands for a class of the diagram is one of the diagram too, with the same id. -/
theorem Hierarchy.representative_mem {h : Hierarchy} {c : ClassNode}
    (hc : c ∈ h.diagram.classes) :
    h.representative c ∈ h.diagram.classes ∧ (h.representative c).id = c.id := by
  unfold representative
  cases hclass : h.diagram.classById c.id with
  | none => exact ⟨hc, rfl⟩
  | some c' => exact ⟨Diagram.mem_of_classById hclass, Diagram.id_of_classById hclass⟩

/-- Classes with one id have one class that stands for them. -/
theorem Hierarchy.representative_congr {h : Hierarchy} {c c' : ClassNode}
    (hc : c ∈ h.diagram.classes) (hid : c'.id = c.id) :
    h.representative c' = h.representative c := by
  obtain ⟨last, hlast⟩ := Diagram.exists_classById hc
  rw [representative, representative, hid, hlast, Option.getD_some, Option.getD_some]

/-- What a table made from a list without repeated keys holds. -/
theorem lookup_map_key {α β : Type} {key : α → String} (value : α → β) {l : List α} {a : α}
    (hl : (l.map key).Nodup) (ha : a ∈ l) :
    (l.map fun a => (key a, value a)).lookup (key a) = some (value a) := by
  induction l with
  | nil => cases ha
  | cons b rest ih =>
    obtain ⟨hb, hrest⟩ := List.nodup_cons.1 hl
    rcases List.mem_cons.1 ha with rfl | ha
    · exact List.lookup_cons_self
    · have hne : key a ≠ key b := fun heq => hb (heq ▸ List.mem_map_of_mem ha)
      rw [List.map_cons, List.lookup_cons, beq_false_of_ne hne]
      exact ih hrest ha

namespace Context

/-- The predictions for all classes have one for each class: that for the class which stands for
it. -/
theorem lookup_predictAll {h : Hierarchy} (limit : Int) (keys : List (String × PrimaryKey))
    (table : List (String × Members)) {c : ClassNode} (hc : c ∈ h.diagram.classes) :
    (predictAll h limit keys table).lookup c.id =
      some (h.predict table limit (keyIn keys (h.root (h.representative c)))
        (h.representative c)) := by
  have hfirst : ∃ b ∈ distinctBy (·.id) h.diagram.classes, b.id = c.id := exists_mem_distinctBy hc
  obtain ⟨b, hb, hid⟩ := hfirst
  have hlookup := lookup_map_key
    (fun c => h.predict table limit (keyIn keys (h.root (h.representative c)))
      (h.representative c)) (nodup_distinctBy (·.id) h.diagram.classes) hb
  rw [hid, Hierarchy.representative_congr hc hid] at hlookup
  exact hlookup

/-- A built context has a prediction for each class. -/
theorem lookup_predictions (d : Diagram) (basePackage : String) (queryLimit : Int) {c : ClassNode}
    (hc : c ∈ d.classes) :
    (build d basePackage queryLimit).value.predictions.lookup c.id =
      some ((build d basePackage queryLimit).value.prediction c) := by
  have hlookup := lookup_predictAll (h := (Hierarchy.ofDiagram d).value) queryLimit
    (build d basePackage queryLimit).value.keys (build d basePackage queryLimit).value.members hc
  have hpredictions : (build d basePackage queryLimit).value.predictions =
      predictAll (Hierarchy.ofDiagram d).value queryLimit
        (build d basePackage queryLimit).value.keys
        (build d basePackage queryLimit).value.members := rfl
  rw [prediction, hpredictions, hlookup, Option.getD_some]

/-- A built context predicts for a class what it predicts for the class that stands for it. -/
theorem prediction_of_mem (d : Diagram) (basePackage : String) (queryLimit : Int) {c : ClassNode}
    (hc : c ∈ d.classes) :
    (build d basePackage queryLimit).value.prediction c =
      (Hierarchy.ofDiagram d).value.predict (build d basePackage queryLimit).value.members
        queryLimit
        ((build d basePackage queryLimit).value.entityKey
          ((Hierarchy.ofDiagram d).value.representative c))
        ((Hierarchy.ofDiagram d).value.representative c) :=
  Option.some.inj <| (lookup_predictions d basePackage queryLimit hc).symm.trans <|
    lookup_predictAll (h := (Hierarchy.ofDiagram d).value) queryLimit
      (build d basePackage queryLimit).value.keys (build d basePackage queryLimit).value.members hc

section Build

variable {d : Diagram} (hd : d.DistinctIds) (basePackage : String) (queryLimit : Int)
include hd

/-- The tables that the resolution of a diagram ends with. -/
theorem resolved_sound :
    let h := (Hierarchy.ofDiagram d).value
    let s := ((resolveAll h).run {}).2
    s.Sound h ∧ ∀ c ∈ d.classes, s.KnowsMembers c ∧ s.KnowsKey c ∧ s.KnowsKey (h.root c) := by
  intro h s
  obtain ⟨hs, -, hknown⟩ :=
    Resolve.meets_resolveAll_sound hd (Hierarchy.wellFormed_ofDiagram d) {}
      (Resolution.sound_empty _) trivial
  exact ⟨hs, hknown⟩

variable {c : ClassNode} (hc : c ∈ d.classes)
include hc

/-- A built context holds the members of each class. -/
theorem membersOf_build :
    (build d basePackage queryLimit).value.membersOf c =
      (Hierarchy.ofDiagram d).value.membersOf c := by
  obtain ⟨hs, hknown⟩ := resolved_sound hd
  exact hs.inTable hc (hknown c hc).1

/-- The table of members that a built context holds has the members of each class. -/
theorem inTable_build :
    Members.inTable (build d basePackage queryLimit).value.members c =
      (Hierarchy.ofDiagram d).value.membersOf c :=
  membersOf_build hd basePackage queryLimit hc

/-- A built context holds the key that the entity of each class exposes. -/
theorem entityKey_build :
    (build d basePackage queryLimit).value.entityKey c =
      (Hierarchy.ofDiagram d).value.entityKeyOf c := by
  obtain ⟨hs, hknown⟩ := resolved_sound hd
  exact hs.keyIn ((Hierarchy.wellFormed_ofDiagram d).root_mem hc) (hknown c hc).2.2

/-- A built context holds the prediction for each class. -/
theorem prediction_build :
    let ctx := (build d basePackage queryLimit).value
    ctx.prediction c = ctx.hierarchy.predict ctx.members queryLimit (ctx.entityKey c) c := by
  intro ctx
  have hself : (Hierarchy.ofDiagram d).value.representative c = c :=
    Hierarchy.representative_eq hd hc
  refine (prediction_of_mem d basePackage queryLimit hc).trans ?_
  rw [hself]
  rfl

end Build

end Context

/-! ## Predicted fields -/

namespace Hierarchy

variable {h : Hierarchy} {table : List (String × Members)}

theorem mem_allEntityFields {c : ClassNode} {field : String} :
    field ∈ h.allEntityFields table c ↔ ∃ a ∈ h.chain c, field ∈ h.entityFields table a :=
  List.mem_flatMap

theorem mem_allDtoFields {c : ClassNode} {field : String} :
    field ∈ h.allDtoFields table c ↔
      ∃ a ∈ h.chain c, field ∈ (Members.inTable table a).dtoFields :=
  List.mem_flatMap

/-- The fields of members are fields of the entity. -/
theorem fields_subset_entityFields (c : ClassNode) :
    (Members.inTable table c).fields ⊆ h.entityFields table c := fun _ hfield =>
  List.mem_append_left _ (List.mem_append_left _ hfield)

/-- The field of a one-to-many collection that is declared is no field of a member. -/
theorem oneToMany_free {c : ClassNode} {l : OneToMany} (hl : l ∈ h.oneToMany table c) :
    l.fieldName ∉ h.takenFields table c := by
  obtain ⟨-, hfree⟩ := List.mem_filter.1 hl
  intro htaken
  rw [oneToManyObstacle?] at hfree
  rw [if_pos htaken] at hfree
  split at hfree <;> cases hfree

/-- The field of a many-to-many collection that is declared is no field of a member or of a
one-to-many collection. -/
theorem manyToMany_free {c : ClassNode} {l : ManyToMany} (hl : l ∈ h.manyToMany table c) :
    l.fieldName ∉ h.takenFields table c ++ (h.oneToMany table c).map (·.fieldName) := by
  obtain ⟨hl, -⟩ := List.mem_filter.1 hl
  obtain ⟨-, hfree⟩ := List.mem_filter.1 hl
  intro htaken
  rw [manyToManyObstacle?, if_pos htaken] at hfree
  cases hfree

/-- No field of an entity is used by two members or collections. -/
theorem nodup_entityFields {c : ClassNode} (hm : (Members.inTable table c).fields.Nodup) :
    (h.entityFields table c).Nodup := by
  have hoto : ((h.oneToMany table c).map (·.fieldName)).Nodup :=
    (h.nodup_oneToMany (h.representative c)).sublist (List.filter_sublist.map _)
  have hmtm : ((h.manyToMany table c).map (·.fieldName)).Nodup :=
    (h.nodup_manyToMany (h.representative c)).sublist
      ((List.filter_sublist.trans List.filter_sublist).map _)
  refine List.nodup_append.2 ⟨List.nodup_append.2 ⟨hm, hoto, ?_⟩, hmtm, ?_⟩
  · rintro field hfield other hother rfl
    obtain ⟨l, hl, rfl⟩ := List.mem_map.1 hother
    exact oneToMany_free hl (List.mem_append_left _ hfield)
  · rintro field hfield other hother rfl
    obtain ⟨l, hl, rfl⟩ := List.mem_map.1 hother
    refine manyToMany_free hl ?_
    rcases List.mem_append.1 hfield with hfield | hfield
    · exact List.mem_append_left _ (List.mem_append_left _ hfield)
    · exact List.mem_append_right _ hfield

/-- Every class without a parent that has primary keys has one that is no relationship attribute. -/
def KeysDeclared (h : Hierarchy) : Prop :=
  ∀ c ∈ h.diagram.classes, h.parentOf c = none → c.primaryKeys ≠ [] →
    ∃ a ∈ c.primaryKeys, a.isRelationshipAttribute = false

end Hierarchy

namespace Context

theorem select_accessors (call : AccessorCall) :
    call.select (accessors call.field) = call.method := by
  cases h : call.access <;> simp [AccessorCall.select, AccessorCall.method, accessors, h]

/-- On a surface with the usual accessors of some fields, a call is predicted exactly if its field
is among them. -/
theorem predicts_iff_of_surface {ctx : Context} {call : AccessorCall} {fields : List String}
    (hs : ctx.surface call.owner call.bean = .ofFields fields) :
    ctx.predicts call = true ↔ call.field ∈ fields := by
  rw [predicts_iff, hs, Surface.get?_ofFields]
  constructor
  · rintro ⟨a, ha, -⟩
    split at ha
    · assumption
    · cases ha
  · intro hfield
    exact ⟨accessors call.field, if_pos hfield, select_accessors call⟩

section Build

variable {d : Diagram} (hd : d.DistinctIds) (basePackage : String) (queryLimit : Int)
  {c : ClassNode} (hc : c ∈ d.classes)
include hd hc

/-- An accessor of an entity is predicted exactly if a class of its chain declares the field. -/
theorem predicts_entity (access : Access) (field : String) :
    let ctx := (build d basePackage queryLimit).value
    ctx.predicts ⟨c, .entity, access, field⟩ = true ↔
      ∃ a ∈ ctx.hierarchy.chain c, field ∈ ctx.hierarchy.entityFields ctx.members a := by
  intro ctx
  rw [← Hierarchy.mem_allEntityFields]
  refine predicts_iff_of_surface ?_
  rw [surface, prediction_build hd basePackage queryLimit hc]
  rfl

/-- An accessor of a transfer object is predicted exactly if a class of its chain declares the
field. -/
theorem predicts_dto (access : Access) (field : String) :
    let ctx := (build d basePackage queryLimit).value
    ctx.predicts ⟨c, .dto, access, field⟩ = true ↔
      ∃ a ∈ ctx.hierarchy.chain c, field ∈ (ctx.membersOf a).dtoFields := by
  intro ctx
  refine Iff.trans (predicts_iff_of_surface ?_) Hierarchy.mem_allDtoFields
  rw [surface, prediction_build hd basePackage queryLimit hc]
  rfl

/-- The key of every entity is one of its fields. -/
theorem predicts_entityKey (hkeys : (Hierarchy.ofDiagram d).value.KeysDeclared)
    (access : Access) :
    let ctx := (build d basePackage queryLimit).value
    ctx.predicts ⟨c, .entity, access, ((Hierarchy.ofDiagram d).value.entityKeyOf c).fieldName⟩ =
      true := by
  intro ctx
  have hh := Hierarchy.wellFormed_ofDiagram d
  have hroot := hh.root_mem hc
  refine (predicts_entity hd basePackage queryLimit hc access _).2
    ⟨_, Hierarchy.root_mem_chain c, Hierarchy.fields_subset_entityFields _ ?_⟩
  rw [hierarchy_build, inTable_build hd basePackage queryLimit hroot]
  exact hh.keyField_mem (hh.parentOf_root c) (hkeys _ hroot (hh.parentOf_root c))

end Build

end Context

end Scaffold
