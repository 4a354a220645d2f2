import Scaffold.Proofs.Accessors

/-!
# Attributes that a child leaves to its ancestors

A child leaves out the attributes that its parent has by the same name, whatever becomes of them
there. The parent may in turn leave them to its own parent, so a name leads up to the last of an
unbroken run of ancestors that have attributes of it: `Hierarchy.namesakes` is that run. The field
is inherited if that ancestor makes it: `Hierarchy.Makes` says so, and `WellFormed.field_of_makes`
that the ancestor then has the field.

What an ancestor makes no field of is lost. In `shelter` the parent has a relationship attribute of
the name, and the column of the child is nowhere.

Main statement: `attribute_available`.
-/

namespace Scaffold

open Naming

namespace Hierarchy

variable {h : Hierarchy} {c : ClassNode} {name : String}

/-- Whether a class has an attribute of a name. -/
def declares (name : String) (c : ClassNode) : Bool := c.attributes.any (·.name = name)

/-- The ancestors of a class from its parent upwards, as long as they have attributes of a name. -/
def namesakes (h : Hierarchy) (c : ClassNode) (name : String) : List ClassNode :=
  (h.ancestors c).takeWhile (declares name)

/-- An attribute asks for the field that is called after it, and nothing but an attribute of the
same name in the parent keeps it from being a field. -/
structure Lasting (h : Hierarchy) (c : ClassNode) (a : Attribute) : Prop where
  /-- The attribute does not just stand for an edge. -/
  plain : a.isRelationshipAttribute = false
  /-- The field is called after the attribute. -/
  field : h.memberField c a = camelCase a.name
  /-- In a child, the attribute is neither a key nor a foreign key to the parent. -/
  free : ∀ p ∈ h.parentOf c, a.isPrimaryKey = false ∧ a.references p.name = false

/-- A class has an attribute of a name that lasts. -/
def Makes (h : Hierarchy) (c : ClassNode) (name : String) : Prop :=
  ∃ a ∈ c.attributes, a.name = name ∧ h.Lasting c a

instance (h : Hierarchy) (c : ClassNode) (a : Attribute) : Decidable (h.Lasting c a) :=
  decidable_of_iff
    (a.isRelationshipAttribute = false ∧ h.memberField c a = camelCase a.name ∧
      ∀ p ∈ h.parentOf c, a.isPrimaryKey = false ∧ a.references p.name = false)
    ⟨fun ⟨hplain, hfield, hfree⟩ => ⟨hplain, hfield, hfree⟩,
      fun ha => ⟨ha.plain, ha.field, ha.free⟩⟩

instance (h : Hierarchy) (c : ClassNode) (name : String) : Decidable (h.Makes c name) :=
  inferInstanceAs (Decidable (∃ a ∈ c.attributes, a.name = name ∧ h.Lasting c a))

/-- A column or reference that is no key and no foreign key to the parent lasts. -/
theorem lasting_of_column {a : Attribute} (hplain : a.isRelationshipAttribute = false)
    (hkey : a.isPrimaryKey = false) (hparent : ∀ p ∈ h.parentOf c, a.references p.name = false) :
    h.Lasting c a where
  plain := hplain
  field := if_neg (by rw [hkey]; exact Bool.false_ne_true)
  free := fun p hp => ⟨hkey, hparent p hp⟩

/-- An attribute that lasts is left out exactly if the parent has an attribute of its name. -/
theorem Lasting.leavesOut_iff {a : Attribute} (ha : h.Lasting c a) :
    h.leavesOut c a = true ↔ ∃ p, h.parentOf c = some p ∧ declares a.name p = true := by
  cases hp : h.parentOf c with
  | none => simp [leavesOut, ha.plain, hp]
  | some p =>
    obtain ⟨hkey, hreference⟩ := ha.free p hp
    simp [leavesOut, ha.plain, hp, hkey, hreference, declares]

/-! ## The last of the run -/

theorem WellFormed.namesakes_of_parent (hh : h.WellFormed) {p : ClassNode}
    (hp : h.parentOf c = some p) (hname : declares name p = true) :
    h.namesakes c name = p :: h.namesakes p name := by
  rw [namesakes, hh.ancestors_of_parent hp, List.takeWhile_cons_of_pos hname, namesakes]

/-- Along a run of parents, the run of those that have attributes of a name ends below a class that
has none, or at the top. -/
theorem Ascends.declares_above_last {path : List ClassNode} (hpath : h.Ascends c path) :
    ∀ q ∈ h.parentOf ((path.takeWhile (declares name)).getLast?.getD c),
      declares name q = false := by
  induction hpath with
  | top hc =>
    intro q hq
    rw [List.takeWhile_nil, List.getLast?_nil, Option.getD_none, hc] at hq
    cases hq
  | @step c p path hp _ ih =>
    by_cases hname : declares name p = true
    · rw [List.takeWhile_cons_of_pos hname, List.getLast?_cons, Option.getD_some]
      exact ih
    · intro q hq
      rw [List.takeWhile_cons_of_neg hname, List.getLast?_nil, Option.getD_none, hp] at hq
      obtain rfl := Option.some.inj hq
      exact Bool.eq_false_iff.2 hname

/-- The last of the run has the field that is called after a name, if it makes it. -/
theorem WellFormed.field_of_makes (hh : h.WellFormed)
    (hmakes : h.Makes ((h.namesakes c name).getLast?.getD c) name) :
    camelCase name ∈ (h.membersOf ((h.namesakes c name).getLast?.getD c)).fields := by
  obtain ⟨a, ha, rfl, hlasting⟩ := hmakes
  have habove : ∀ q ∈ h.parentOf ((h.namesakes c a.name).getLast?.getD c),
      declares a.name q = false := (hh.ascends_ancestors c).declares_above_last
  rw [fields_membersOf, ← hlasting.field]
  refine memberField_mem ha (Bool.eq_false_iff.2 fun hout => ?_)
  obtain ⟨q, hq, hname⟩ := hlasting.leavesOut_iff.1 hout
  rw [habove q hq] at hname
  cases hname

/-- If the last of the run makes the field that an attribute of a class asks for, the class or one of
its ancestors has the field; the class itself if it does not leave the attribute out. -/
theorem WellFormed.exists_field (hh : h.WellFormed) {a : Attribute} (ha : a ∈ c.attributes)
    (hlasting : h.Lasting c a) (hlast : ∀ p ∈ (h.namesakes c a.name).getLast?, h.Makes p a.name) :
    (h.leavesOut c a = false → camelCase a.name ∈ (h.membersOf c).fields) ∧
      (h.leavesOut c a = true →
        ∃ p ∈ h.ancestors c, camelCase a.name ∈ (h.membersOf p).fields) := by
  constructor
  · intro hin
    rw [fields_membersOf, ← hlasting.field]
    exact memberField_mem ha hin
  · intro hout
    -- The parent has an attribute of the name, so the run is not empty and its last is an ancestor.
    obtain ⟨p, hp, hname⟩ := hlasting.leavesOut_iff.1 hout
    cases hrun : (h.namesakes c a.name).getLast? with
    | none =>
      rw [List.getLast?_eq_none_iff, hh.namesakes_of_parent hp hname] at hrun
      cases hrun
    | some top =>
      refine ⟨top, (List.takeWhile_sublist _).mem (List.mem_of_getLast? hrun), ?_⟩
      have htop : (h.namesakes c a.name).getLast?.getD c = top := by rw [hrun, Option.getD_some]
      rw [← htop]
      refine hh.field_of_makes ?_
      rw [htop]
      exact hlast top hrun

end Hierarchy

/-- In a context that is built from a diagram without repeated ids, the field of an attribute that is
no relationship attribute, no primary key and no foreign key to the parent is a field that the
entity of the class declares or inherits. If the class leaves the attribute out, an ancestor has the
field. This asks of the last of the run of ancestors with attributes of the same name that one of
these attributes makes the field there. -/
theorem attribute_available (d : Diagram) (hd : d.DistinctIds) (basePackage : String)
    (queryLimit : Int) (c : ClassNode) (hc : c ∈ d.classes) (a : Attribute)
    (ha : a ∈ c.attributes) (hplain : a.isRelationshipAttribute = false)
    (hkey : a.isPrimaryKey = false) :
    let ctx := (Context.build d basePackage queryLimit).value
    (∀ p ∈ ctx.hierarchy.parentOf c, a.references p.name = false) →
    (∀ p ∈ (ctx.hierarchy.namesakes c a.name).getLast?, ctx.hierarchy.Makes p a.name) →
      (ctx.prediction c).entityAll.has (camelCase a.name) = true ∧
        (ctx.hierarchy.leavesOut c a = false →
          camelCase a.name ∈ (ctx.membersOf c).fields) ∧
        (ctx.hierarchy.leavesOut c a = true →
          ∃ p ∈ ctx.hierarchy.ancestors c, camelCase a.name ∈ (ctx.membersOf p).fields) := by
  intro ctx hparent hlast
  have hh : ctx.hierarchy.WellFormed := Hierarchy.wellFormed_ofDiagram d
  obtain ⟨hown, hinherited⟩ :=
    hh.exists_field ha (Hierarchy.lasting_of_column hplain hkey hparent) hlast
  have hall : ∀ p ∈ ctx.hierarchy.chain c, camelCase a.name ∈ (ctx.hierarchy.membersOf p).fields →
      (ctx.prediction c).entityAll.has (camelCase a.name) = true := by
    intro p hp hfield
    have hp' : p ∈ d.classes := hh.mem_classes_of_mem_chain hc hp
    rw [Context.prediction_build hd basePackage queryLimit hc]
    refine (Surface.has_ofFields _ _).2 (Hierarchy.mem_allEntityFields.2 ⟨p, hp, ?_⟩)
    refine Hierarchy.fields_subset_entityFields p ?_
    rw [Context.inTable_build hd basePackage queryLimit hp']
    exact hfield
  refine ⟨?_, fun hin => ?_, fun hout => ?_⟩
  · cases hout : ctx.hierarchy.leavesOut c a with
    | false => exact hall c (List.mem_append_right _ (List.mem_singleton_self c)) (hown hout)
    | true =>
      obtain ⟨p, hp, hfield⟩ := hinherited hout
      exact hall p (List.mem_append_left _ (List.mem_reverse.2 hp)) hfield
  · rw [Context.membersOf_build hd basePackage queryLimit hc]
    exact hown hin
  · obtain ⟨p, hp, hfield⟩ := hinherited hout
    refine ⟨p, hp, ?_⟩
    rw [Context.membersOf_build hd basePackage queryLimit (hh.mem_classes hp)]
    exact hfield

/-- The attribute that the examples follow up a chain. -/
def keptBy : Attribute where
  name := "kept_by"

/-- Puppies have a column for it. -/
def puppy : ClassNode where
  id := "4"
  name := "Puppy"
  attributes := [keptBy]

/-- Puppies are dogs, whose attribute of that name only stands for an edge, and dogs are animals, which
reference a person by theirs. -/
def litter : Diagram where
  classes :=
    [{ id := "1", name := "Person", attributes := [{ name := "id", isPrimaryKey := true }] },
      { id := "2", name := "Animal"
        attributes :=
          [{ name := "id", isPrimaryKey := true },
            { keptBy with isForeignKey := true, referencedEntity := some "Person" }] },
      { id := "3", name := "Dog", attributes := [{ keptBy with isRelationshipAttribute := true }] },
      puppy]
  relationships := [parentEdge "2" "3", parentEdge "3" "4"]

theorem attribute_available_litter :
    litter.DistinctIds ∧ puppy ∈ litter.classes ∧
      let ctx := (Context.build litter "app" 3).value
      ctx.hierarchy.leavesOut puppy keptBy = true ∧
        (ctx.hierarchy.namesakes puppy "kept_by").map (·.name) = ["Dog", "Animal"] ∧
        (ctx.prediction puppy).entityAll.has "keptBy" = true ∧
        ∃ p ∈ ctx.hierarchy.ancestors puppy, "keptBy" ∈ (ctx.membersOf p).fields := by
  have hd : litter.DistinctIds := by
    unfold Diagram.DistinctIds
    decide
  have hc : puppy ∈ litter.classes := by decide
  have hout : (Hierarchy.ofDiagram litter).value.leavesOut puppy keptBy = true := by decide
  obtain ⟨hhas, -, hinherited⟩ :=
    attribute_available litter hd "app" 3 puppy hc keptBy (List.mem_singleton_self _) rfl rfl
      (by decide) (by decide)
  exact ⟨hd, hc, hout, by decide, hhas, hinherited hout⟩

/-! ## An attribute that is lost -/

/-- Puppies are animals, whose attribute of the same name only stands for an edge. -/
def shelter : Diagram where
  classes :=
    [{ id := "2", name := "Animal"
       attributes :=
        [{ name := "id", isPrimaryKey := true }, { keptBy with isRelationshipAttribute := true }] },
      puppy]
  relationships := [parentEdge "2" "4"]

/-- The column of puppies is no field of theirs and none of any ancestor. -/
theorem not_attribute_available_shelter :
    shelter.DistinctIds ∧ puppy ∈ shelter.classes ∧ keptBy ∈ puppy.attributes ∧
      keptBy.isRelationshipAttribute = false ∧ keptBy.isPrimaryKey = false ∧
      let ctx := (Context.build shelter "app" 3).value
      (∀ p ∈ ctx.hierarchy.parentOf puppy, keptBy.references p.name = false) ∧
        (ctx.prediction puppy).entityAll.has (camelCase keptBy.name) = false := by
  refine ⟨?_, by decide, by decide, rfl, rfl, by decide, by decide +kernel⟩
  unfold Diagram.DistinctIds
  decide

end Scaffold
