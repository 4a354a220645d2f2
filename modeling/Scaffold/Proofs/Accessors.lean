import Scaffold.Backend.Dto
import Scaffold.Backend.Entity
import Scaffold.Proofs.Naming
import Scaffold.Proofs.Prediction

/-!
# Accessors that are written are the accessors that are predicted

Entities and transfer objects take their accessors from `Entity.properties` and `Dto.properties`,
the predictions from `Hierarchy.entityFields` and `Members.dtoFields`. In a built context the two
are the same (`map_field_entity`, `map_field_dto`).

Different fields have different getters if the names of the diagram are made of ASCII characters
(`nodup_getters`). That the names of classes and attributes are is not enough: a key that is a
foreign key too takes its field from what it references, and `doubleGetter` has such a key.

Main statement: `accessors_predicted`.
-/

namespace Scaffold

open Naming Java

/-! ## Files -/

theorem indented_infix_braced {head : String} {code body : Lines} (h : code <:+: body) :
    indented 1 code <:+: braced head body := by
  refine (h.map (indent 1)).trans ?_
  exact ((List.prefix_append _ _).isInfix).trans (List.suffix_cons _ _).isInfix

/-- The accessors in the file of an entity are those of its properties. -/
theorem Entity.accessors_in_file {ctx : Context} {c : ClassNode} {f : SourceFile}
    (hf : (Entity.file ctx c).run.value = .ok f) :
    indented 1 ((Entity.properties ctx c).flatMap Property.code) <:+: f.body := by
  obtain ⟨scalarFields, -, hf, -⟩ := Generation.bind_ok hf
  obtain ⟨keySetters, -, hf, -⟩ := Generation.bind_ok hf
  cases hf
  refine (indented_infix_braced ?_).trans (List.suffix_append _ _).isInfix
  exact ((List.suffix_append _ _).isInfix.trans (List.prefix_append _ _).isInfix).trans
    (List.prefix_append _ _).isInfix

/-- The declarations and the accessors in the file of a transfer object are those of its fields. -/
theorem Dto.accessors_in_file (ctx : Context) (c : ClassNode) :
    indented 1 ((Dto.fields ctx c).map Dto.declaration) <:+: (Dto.file ctx c).body ∧
      indented 1 ((Dto.properties ctx c).flatMap Property.code) <:+: (Dto.file ctx c).body := by
  constructor
  · refine indented_infix_braced ?_
    exact ((((List.suffix_append _ _).isInfix.trans (List.prefix_append _ _).isInfix).trans
      (List.prefix_append _ _).isInfix).trans (List.prefix_append _ _).isInfix).trans
      (List.prefix_append _ _).isInfix
  · exact indented_infix_braced (List.suffix_append _ _).isInfix

/-! ## Fields that start with no capital letter -/

/-- The names of classes and attributes are made of ASCII characters, and so are those that keys
take from what they reference. -/
def Diagram.AsciiNames (d : Diagram) : Prop :=
  ∀ c ∈ d.classes, isAscii c.name = true ∧ ∀ a ∈ c.attributes, isAscii a.name = true ∧
    (a.isPrimaryKey = true → a.isForeignKey = true →
      ∀ field ∈ a.referencedField, isAscii field = true)

namespace Hierarchy

section Ascii

variable {h : Hierarchy} (hn : h.diagram.AsciiNames) (hh : h.WellFormed) {c : ClassNode}
  (hc : c ∈ h.diagram.classes)

include hn hc in
/-- The key that a class declares has a name made of ASCII characters. -/
theorem isAscii_ownKey {key : PrimaryKey} (hkey : c.ownKey? = some key) :
    isAscii key.name = true := by
  obtain ⟨a, ha, rfl⟩ := Option.map_eq_some_iff.1 hkey
  obtain ⟨hmem, hpk⟩ := List.mem_filter.1 (List.mem_of_head? ha)
  obtain ⟨hname, hreferenced⟩ := (hn c hc).2 a hmem
  by_cases hfk : a.isForeignKey = true
  · rw [if_pos hfk]
    cases hfield : a.referencedField.filter (· ≠ "") with
    | none => exact hname
    | some field => exact hreferenced hpk hfk field (Option.filter_eq_some_iff.1 hfield).1
  · rw [if_neg hfk]
    exact hname

include hn hh hc

/-- The field of a key starts with no capital letter. -/
theorem startsSmall_keyOf : StartsSmall (h.keyOf c).fieldName.toList := by
  refine startsSmall_camelCase ?_
  unfold keyOf
  cases hkey : (c :: h.ancestors c).findSome? ClassNode.ownKey? with
  | none => decide
  | some key =>
    obtain ⟨a, ha, hkey⟩ := List.exists_of_findSome?_eq_some hkey
    refine isAscii_ownKey hn ?_ hkey
    rcases List.mem_cons.1 ha with rfl | ha
    · exact hc
    · exact hh.mem_classes ha

/-- The fields of members start with no capital letter. -/
theorem startsSmall_fields : ∀ field ∈ (h.membersOf c).fields, StartsSmall field.toList := by
  rw [fields_membersOf]
  refine ownMembers_induction c (P := fun m => ∀ field ∈ m.fields, StartsSmall field.toList) ?_ ?_
  · intro field hfield
    unfold startMembers at hfield
    split at hfield
    · obtain rfl : field = "id" := by
        simpa [Members.fields, PrimaryKey.default] using hfield
      exact startsSmall_camelCase (s := "id") (by decide)
    · cases hfield
  · intro m a ha hm
    rcases fields_addMember (h := h) c m a with ⟨hsame, -⟩ | ⟨-, hperm⟩
    · rw [hsame]
      exact hm
    · intro field hfield
      rcases List.mem_cons.1 (hperm.subset hfield) with rfl | hfield
      · unfold memberField
        split
        · exact startsSmall_keyOf hn hh hc
        · exact startsSmall_camelCase ((hn c hc).2 a ha).1
      · exact hm field hfield

end Ascii

variable {h : Hierarchy} {c : ClassNode}

/-- The fields of an entity start with no capital letter. -/
theorem startsSmall_entityFields {table : List (String × Members)} (hn : h.diagram.AsciiNames)
    (hm : ∀ field ∈ (Members.inTable table c).fields, StartsSmall field.toList) :
    ∀ field ∈ h.entityFields table c, StartsSmall field.toList := by
  intro field hfield
  rcases List.mem_append.1 hfield with hfield | hfield
  · rcases List.mem_append.1 hfield with hfield | hfield
    · exact hm field hfield
    · obtain ⟨l, hl, rfl⟩ := List.mem_map.1 hfield
      obtain ⟨hrelated, hname⟩ := fieldName_oneToMany (List.mem_filter.1 hl).1
      rw [hname]
      exact startsSmall_collectionField (hn _ hrelated).1
  · obtain ⟨l, hl, rfl⟩ := List.mem_map.1 hfield
    obtain ⟨hrelated, hname⟩ :=
      fieldName_manyToMany (List.mem_filter.1 (List.mem_filter.1 hl).1).1
    rw [hname]
    exact startsSmall_collectionField (hn _ hrelated).1

end Hierarchy

/-! ## Declared and predicted fields -/

namespace Surface

/-- A surface with the usual accessors of some properties has exactly their accessors. -/
theorem get?_properties (l : List Property) (field : String) (a : Accessors) :
    (ofFields (l.map (·.field))).get? field = some a ↔
      ∃ p ∈ l, p.field = field ∧ p.accessors = a := by
  rw [get?_ofFields]
  constructor
  · intro ha
    split at ha
    · next hfield =>
      obtain ⟨p, hp, rfl⟩ := List.mem_map.1 hfield
      exact ⟨p, hp, rfl, Option.some.inj ha⟩
    · cases ha
  · rintro ⟨p, hp, rfl, rfl⟩
    exact if_pos (List.mem_map_of_mem hp)

theorem has_ofFields (fields : List String) (field : String) :
    (ofFields fields).has field = true ↔ field ∈ fields := by
  rw [has, get?_ofFields]
  split <;> simp_all

end Surface

namespace Context

variable {d : Diagram} (hd : d.DistinctIds) (basePackage : String) (queryLimit : Int)
  {c : ClassNode} (hc : c ∈ d.classes)
include hd hc

/-- The fields of the members of a class are pairwise distinct. -/
theorem nodup_fields_build :
    (Members.inTable (build d basePackage queryLimit).value.members c).fields.Nodup := by
  rw [inTable_build hd basePackage queryLimit hc]
  exact Hierarchy.nodup_fields c

/-- The entity of a class has accessors for the fields that it is predicted to declare. -/
theorem map_field_entity :
    let ctx := (build d basePackage queryLimit).value
    (Entity.properties ctx c).map (·.field) = ctx.hierarchy.entityFields ctx.members c := by
  intro ctx
  have hpred := prediction_build hd basePackage queryLimit hc
  simp only [Entity.properties, ctx, hpred, Hierarchy.predict, Hierarchy.entityFields,
    Members.fields, membersOf, List.map_append, List.map_map, Function.comp_def]

/-- The transfer object of a class has accessors for the fields that it is predicted to declare. -/
theorem dtoOwn_build :
    let ctx := (build d basePackage queryLimit).value
    (ctx.prediction c).dtoOwn = .ofFields ((Dto.properties ctx c).map (·.field)) := by
  intro ctx
  rw [Dto.field_mem_properties, prediction_build hd basePackage queryLimit hc]
  rfl

theorem entityOwn_build :
    let ctx := (build d basePackage queryLimit).value
    (ctx.prediction c).entityOwn = .ofFields ((Entity.properties ctx c).map (·.field)) := by
  intro ctx
  rw [map_field_entity hd basePackage queryLimit hc,
    prediction_build hd basePackage queryLimit hc]
  rfl

/-- An entity is predicted to declare its fields. -/
theorem has_entityOwn_build (field : String) :
    let ctx := (build d basePackage queryLimit).value
    (ctx.prediction c).entityOwn.has field = true ↔
      field ∈ ctx.hierarchy.entityFields ctx.members c := by
  intro ctx
  rw [prediction_build hd basePackage queryLimit hc]
  exact Surface.has_ofFields _ field

/-- With inheritance, the entity of a class is predicted to have what the entities of its chain
declare. -/
theorem has_entityAll_build (field : String) :
    let ctx := (build d basePackage queryLimit).value
    (ctx.prediction c).entityAll.has field = true ↔
      ∃ a ∈ ctx.hierarchy.chain c, ∃ p ∈ Entity.properties ctx a, p.field = field := by
  intro ctx
  have hall : (ctx.prediction c).entityAll =
      .ofFields (ctx.hierarchy.allEntityFields ctx.members c) := by
    rw [prediction_build hd basePackage queryLimit hc]
    rfl
  rw [hall, Surface.has_ofFields, Hierarchy.mem_allEntityFields]
  refine exists_congr fun a => and_congr_right fun ha => ?_
  have hclass : a ∈ d.classes := (Hierarchy.wellFormed_ofDiagram d).mem_classes_of_mem_chain hc ha
  rw [← map_field_entity hd basePackage queryLimit hclass, List.mem_map]

/-- With inheritance, the transfer object of a class is predicted to have what the transfer objects
of its chain declare. -/
theorem has_dtoAll_build (field : String) :
    let ctx := (build d basePackage queryLimit).value
    (ctx.prediction c).dtoAll.has field = true ↔
      ∃ a ∈ ctx.hierarchy.chain c, ∃ p ∈ Dto.properties ctx a, p.field = field := by
  intro ctx
  have hall : (ctx.prediction c).dtoAll =
      .ofFields (ctx.hierarchy.allDtoFields ctx.members c) := by
    rw [prediction_build hd basePackage queryLimit hc]
    rfl
  rw [hall, Surface.has_ofFields, Hierarchy.mem_allDtoFields]
  refine exists_congr fun a => and_congr_right fun _ => ?_
  rw [← List.mem_map, Dto.field_mem_properties]
  rfl

/-- The fields of an entity start with no capital letter, if names are made of ASCII characters. -/
theorem startsSmall_properties (hn : d.AsciiNames) :
    ∀ p ∈ Entity.properties (build d basePackage queryLimit).value c,
      StartsSmall p.field.toList := by
  intro p hp
  have hfield := List.mem_map_of_mem (f := (·.field)) hp
  rw [map_field_entity hd basePackage queryLimit hc] at hfield
  refine Hierarchy.startsSmall_entityFields hn (fun field hf => ?_) _ hfield
  rw [inTable_build hd basePackage queryLimit hc] at hf
  exact Hierarchy.startsSmall_fields hn (Hierarchy.wellFormed_ofDiagram d) hc field hf

end Context

/-- In a context that is built from a diagram without repeated ids, the fields for which the entity
of a class has accessors are pairwise distinct, and with their accessors they are what is predicted
for it; so are the fields of its transfer object. With inheritance, a field is predicted exactly if
a class of the chain declares it. If the names of the diagram are made of ASCII characters, the
getters of an entity are pairwise distinct. -/
theorem accessors_predicted (d : Diagram) (hd : d.DistinctIds) (basePackage : String)
    (queryLimit : Int) (c : ClassNode) (hc : c ∈ d.classes) :
    let ctx := (Context.build d basePackage queryLimit).value
    ((Entity.properties ctx c).map (·.field)).Nodup ∧
      (∀ field a, (ctx.prediction c).entityOwn.get? field = some a ↔
        ∃ p ∈ Entity.properties ctx c, p.field = field ∧ p.accessors = a) ∧
      (∀ f, (Entity.file ctx c).run.value = .ok f →
        indented 1 ((Entity.properties ctx c).flatMap Property.code) <:+: f.body) ∧
      ((Dto.fields ctx c).map (·.field)).Nodup ∧
      (∀ field a, (ctx.prediction c).dtoOwn.get? field = some a ↔
        ∃ p ∈ Dto.properties ctx c, p.field = field ∧ p.accessors = a) ∧
      indented 1 ((Dto.fields ctx c).map Dto.declaration) <:+: (Dto.file ctx c).body ∧
      indented 1 ((Dto.properties ctx c).flatMap Property.code) <:+: (Dto.file ctx c).body ∧
      (∀ field, (ctx.prediction c).entityAll.has field = true ↔
        ∃ a ∈ ctx.hierarchy.chain c, ∃ p ∈ Entity.properties ctx a, p.field = field) ∧
      (∀ field, (ctx.prediction c).dtoAll.has field = true ↔
        ∃ a ∈ ctx.hierarchy.chain c, ∃ p ∈ Dto.properties ctx a, p.field = field) ∧
      (d.AsciiNames → ((Entity.properties ctx c).map (·.accessors.getter)).Nodup) := by
  intro ctx
  have hnodup : ((Entity.properties ctx c).map (·.field)).Nodup := by
    rw [Context.map_field_entity hd basePackage queryLimit hc]
    exact Hierarchy.nodup_entityFields (Context.nodup_fields_build hd basePackage queryLimit hc)
  obtain ⟨hdeclared, hwritten⟩ := Dto.accessors_in_file ctx c
  refine ⟨hnodup, fun field a => ?_, fun f hf => Entity.accessors_in_file hf, ?_, fun field a => ?_,
    hdeclared, hwritten, Context.has_entityAll_build hd basePackage queryLimit hc,
    Context.has_dtoAll_build hd basePackage queryLimit hc, fun hn => ?_⟩
  · rw [Context.entityOwn_build hd basePackage queryLimit hc, Surface.get?_properties]
  · have hfields : (Dto.fields ctx c).map (·.field) = (ctx.membersOf c).dtoFields := by
      rw [← Dto.field_mem_properties, Dto.properties, List.map_map]
      rfl
    rw [hfields, Context.membersOf_build hd basePackage queryLimit hc]
    exact Hierarchy.nodup_dtoFields c
  · rw [Context.dtoOwn_build hd basePackage queryLimit hc, Surface.get?_properties]
  · have hsmall := Context.startsSmall_properties hd basePackage queryLimit hc hn
    have hinj := List.inj_on_of_nodup_map hnodup
    refine (List.Nodup.of_map _ hnodup).map_on fun p hp q hq hget => hinj hp hq ?_
    exact getter_inj (hsmall p hp) (hsmall q hq) hget

/-- A class with a reference to a parent class. -/
def shop : Diagram where
  classes :=
    [{ id := "1", name := "Customer", attributes := [{ name := "id", isPrimaryKey := true }] },
      { id := "2", name := "Order"
        attributes :=
          [{ name := "number", isPrimaryKey := true },
            { name := "customer", isForeignKey := true, referencedEntity := some "Customer" }] }]

theorem accessors_predicted_shop :
    shop.DistinctIds ∧ shop.AsciiNames ∧
      let ctx := (Context.build shop "app" 3).value
      ∀ c ∈ shop.classes, ((Entity.properties ctx c).map (·.accessors.getter)).Nodup := by
  have hd : shop.DistinctIds := by
    unfold Diagram.DistinctIds
    decide
  have hn : shop.AsciiNames := by
    unfold Diagram.AsciiNames
    decide
  refine ⟨hd, hn, fun c hc => ?_⟩
  obtain ⟨-, -, -, -, -, -, -, -, -, hgetters⟩ := accessors_predicted shop hd "app" 3 c hc
  exact hgetters hn

/-! ## A name that is referenced -/

/-- A class whose key takes the name `ıd` from what it references, and whose second attribute is
called `id`. -/
def keyed : ClassNode where
  id := "k"
  name := "Keyed"
  attributes :=
    [{ name := "key", isPrimaryKey := true, isForeignKey := true, referencedField := some "ıd" },
      { name := "id" }]

/-- The diagram of that class. -/
def doubleGetter : Diagram where
  classes := [keyed]

/-- The names of all classes and attributes are made of ASCII characters, and yet the entity has two
getters of one name: the dotless letter has no capital letter of its own. -/
theorem not_nodup_getters_doubleGetter :
    doubleGetter.DistinctIds ∧ keyed ∈ doubleGetter.classes ∧
      (∀ c ∈ doubleGetter.classes,
        isAscii c.name = true ∧ ∀ a ∈ c.attributes, isAscii a.name = true) ∧
      ¬ ((Entity.properties (Context.build doubleGetter "app" 3).value keyed).map
        (·.accessors.getter)).Nodup := by
  have hd : doubleGetter.DistinctIds := by
    unfold Diagram.DistinctIds
    decide
  have hc : keyed ∈ doubleGetter.classes := List.mem_singleton.2 rfl
  refine ⟨hd, hc, by decide, fun hnodup => ?_⟩
  have hfield : ∀ a ∈ keyed.attributes,
      ∃ p ∈ Entity.properties (Context.build doubleGetter "app" 3).value keyed,
        p.field = (Hierarchy.ofDiagram doubleGetter).value.memberField keyed a := by
    intro a ha
    rw [← List.mem_map, Context.map_field_entity hd "app" 3 hc]
    refine Hierarchy.fields_subset_entityFields keyed ?_
    rw [Context.inTable_build hd "app" 3 hc, Hierarchy.fields_membersOf]
    refine Hierarchy.memberField_mem ha ?_
    revert a
    decide
  obtain ⟨key, hkey, hkeyField⟩ := hfield _ List.mem_cons_self
  obtain ⟨id, hid, hidField⟩ := hfield _ (List.mem_cons_of_mem _ List.mem_cons_self)
  have hkeyName : key.field = "ıd" := by
    rw [hkeyField]
    decide +kernel
  have hidName : id.field = "id" := by
    rw [hidField]
    decide
  have hget : key.accessors.getter = id.accessors.getter := by
    rw [Property.accessors, Property.accessors, hkeyName, hidName]
    decide +kernel
  have hsame := List.inj_on_of_nodup_map hnodup hkey hid hget
  rw [hsame, hidName] at hkeyName
  exact absurd hkeyName (by decide)

end Scaffold
