import Scaffold.Proofs.Accessors
import Scaffold.Proofs.KeyTypes

/-!
# Fields that a parent has already

The entity of a class declares fields for its attributes and for collections, and inherits those of
its ancestors. Collections are checked against the fields of all ancestors: what an ancestor
declares is among the fields of its members and of the collections that it can have
(`entityFields_subset_candidates`), which no collection below it may have (`collections_apart`).

Attributes are checked against the attributes of the parent, by their names. The parent can declare
the field of an attribute all the same, for something else (`Hierarchy.DeclaresBesides`): a key that
is made up, an attribute of another name, or a collection.

Main statements: `collections_apart` and `redeclared_iff`.
-/

namespace Scaffold

open Naming

namespace Hierarchy

variable {h : Hierarchy} {table : List (String × Members)} {c p : ClassNode}

/-! ## Collections -/

/-- What an entity declares are the fields of members and of collections that it can have. -/
theorem entityFields_subset_candidates (a : ClassNode) :
    h.entityFields table a ⊆ (Members.inTable table a).fields ++ h.collectionFields a := by
  intro field hfield
  rcases List.mem_append.1 hfield with hfield | hmtm
  · rcases List.mem_append.1 hfield with hmember | hoto
    · exact List.mem_append_left _ hmember
    · exact List.mem_append_right _
        (List.mem_append_left _ ((List.filter_sublist.map _).subset hoto))
  · have hlinks : (h.manyToMany table a).Sublist (h.manyToManyLinks a) :=
      List.filter_sublist.trans List.filter_sublist
    exact List.mem_append_right _ (List.mem_append_right _ ((hlinks.map _).subset hmtm))

/-- The fields of members of a class, and all that its ancestors declare, are taken. -/
theorem entityFields_subset_taken {a : ClassNode} (ha : a ∈ h.ancestors c) :
    h.entityFields table a ⊆ h.takenFields table c := fun _ hfield =>
  List.mem_append_right _ (List.mem_flatMap.2 ⟨a, ha, entityFields_subset_candidates a hfield⟩)

/-- The fields of the collections that a class declares. -/
def declaredCollections (h : Hierarchy) (table : List (String × Members)) (c : ClassNode) :
    List String :=
  (h.oneToMany table c).map (·.fieldName) ++ (h.manyToMany table c).map (·.fieldName)

/-- No collection that a class declares has a field that is taken. -/
theorem declaredCollections_free {field : String} (hfield : field ∈ h.declaredCollections table c) :
    field ∉ h.takenFields table c := by
  rcases List.mem_append.1 hfield with hfield | hfield
  · obtain ⟨l, hl, rfl⟩ := List.mem_map.1 hfield
    exact oneToMany_free hl
  · obtain ⟨l, hl, rfl⟩ := List.mem_map.1 hfield
    exact fun htaken => manyToMany_free hl (List.mem_append_left _ htaken)

/-! ## Attributes -/

/-- The attributes of a class that are not left out. -/
def keptAttributes (h : Hierarchy) (c : ClassNode) : List Attribute :=
  c.attributes.filter fun a => !h.leavesOut c a

theorem mem_keptAttributes {a : Attribute} :
    a ∈ h.keptAttributes c ↔ a ∈ c.attributes ∧ h.leavesOut c a = false := by
  simp [keptAttributes]

/-- The fields of the members of a class: that of a made-up key, and those that its attributes ask
for. -/
theorem mem_fields_membersOf {field : String} :
    field ∈ (h.membersOf c).fields ↔
      field ∈ (h.startMembers c).fields ∨
        ∃ a ∈ h.keptAttributes c, h.memberField c a = field := by
  rw [fields_membersOf]
  constructor
  · intro hfield
    rw [value_ownMembers] at hfield
    rcases mem_fields_addAll hfield with hstart | ⟨a, ha, hin, rfl⟩
    · exact .inl hstart
    · exact .inr ⟨a, mem_keptAttributes.2 ⟨ha, hin⟩, rfl⟩
  · rintro (hstart | ⟨a, ha, rfl⟩)
    · rw [value_ownMembers]
      exact fields_subset_foldl c _ c.attributes hstart
    · obtain ⟨ha, hin⟩ := mem_keptAttributes.1 ha
      exact memberField_mem ha hin

/-- A class with a parent keeps an attribute if it is no relationship attribute and no primary key,
no attribute of the parent has its name, and it does not reference the parent. -/
theorem mem_keptAttributes_of_parent (hp : h.parentOf c = some p) {a : Attribute} :
    a ∈ h.keptAttributes c ↔ a ∈ c.attributes ∧ a.isRelationshipAttribute = false ∧
      a.isPrimaryKey = false ∧ (∀ b ∈ p.attributes, b.name ≠ a.name) ∧
        a.references p.name = false := by
  simp [mem_keptAttributes, leavesOut, hp, and_assoc]

/-- A class with a parent has the fields that its attributes are called after. -/
theorem mem_fields_of_parent (hp : h.parentOf c = some p) {field : String} :
    field ∈ (h.membersOf c).fields ↔ ∃ a ∈ h.keptAttributes c, camelCase a.name = field := by
  have hstart : h.startMembers c = {} := if_neg (by simp [hp])
  have hfield : ∀ a ∈ h.keptAttributes c, h.memberField c a = camelCase a.name := by
    intro a ha
    obtain ⟨-, -, hkey, -⟩ := (mem_keptAttributes_of_parent hp).1 ha
    simp [memberField, hkey]
  rw [mem_fields_membersOf, hstart]
  refine ⟨?_, ?_⟩
  · rintro (hnone | ⟨a, ha, rfl⟩)
    · cases hnone
    · exact ⟨a, ha, (hfield a ha).symm⟩
  · rintro ⟨a, ha, rfl⟩
    exact .inr ⟨a, ha, hfield a ha⟩

/-! ## Fields of a parent -/

/-- The entity of a class declares a field for something else than an attribute of a name. -/
inductive DeclaresBesides (h : Hierarchy) (table : List (String × Members)) (p : ClassNode)
    (name field : String) : Prop where
  /-- It is the field of a key that is made up. -/
  | madeUp (hkey : field ∈ (h.startMembers p).fields)
  /-- It is the field of an attribute of another name. -/
  | attribute {b : Attribute} (hb : b ∈ h.keptAttributes p) (hname : b.name ≠ name)
      (hfield : h.memberField p b = field)
  /-- It is the field of a collection. -/
  | collection (hfield : field ∈ h.declaredCollections table p)

theorem mem_entityFields_iff (htable : Members.inTable table p = h.membersOf p) {field : String} :
    field ∈ h.entityFields table p ↔
      field ∈ (h.startMembers p).fields ∨
        (∃ b ∈ h.keptAttributes p, h.memberField p b = field) ∨
          field ∈ h.declaredCollections table p := by
  rw [entityFields, List.append_assoc, List.mem_append, htable, mem_fields_membersOf, or_assoc]
  rfl

/-- What a parent declares, it declares for something else than the attributes that its children
keep. -/
theorem declaresBesides_iff (htable : Members.inTable table p = h.membersOf p)
    (hp : h.parentOf c = some p) {a : Attribute} (ha : a ∈ h.keptAttributes c) {field : String} :
    h.DeclaresBesides table p a.name field ↔ field ∈ h.entityFields table p := by
  rw [mem_entityFields_iff htable]
  constructor
  · rintro (hkey | ⟨hb, -, hfield⟩ | hfield)
    · exact .inl hkey
    · exact .inr (.inl ⟨_, hb, hfield⟩)
    · exact .inr (.inr hfield)
  · rintro (hkey | ⟨b, hb, hfield⟩ | hfield)
    · exact .madeUp hkey
    · obtain ⟨-, -, -, hnames, -⟩ := (mem_keptAttributes_of_parent hp).1 ha
      exact .attribute hb (hnames b (mem_keptAttributes.1 hb).1) hfield
    · exact .collection hfield

end Hierarchy

/-- In a context that is built from a diagram without repeated ids, the fields of the collections of
a class are pairwise distinct. None of them is the field of a column or a reference of the class, and
none is declared by the entity of any of its ancestors, as a collection or otherwise. -/
theorem collections_apart (d : Diagram) (hd : d.DistinctIds) (basePackage : String)
    (queryLimit : Int) {c : ClassNode} (hc : c ∈ d.classes) :
    let ctx := (Context.build d basePackage queryLimit).value
    let fields := (ctx.prediction c).oneToMany.map (·.fieldName) ++
      (ctx.prediction c).manyToMany.map (·.fieldName)
    fields.Nodup ∧ ∀ field ∈ fields, field ∉ (ctx.membersOf c).fields ∧
      ∀ a ∈ ctx.hierarchy.ancestors c, (ctx.prediction a).entityOwn.has field = false := by
  intro ctx fields
  have hfields : fields = ctx.hierarchy.declaredCollections ctx.members c := by
    simp only [fields, ctx, Context.prediction_build hd basePackage queryLimit hc]
    rfl
  have hnodup := Hierarchy.nodup_entityFields (h := ctx.hierarchy)
    (Context.nodup_fields_build hd basePackage queryLimit hc)
  rw [hfields]
  constructor
  · rw [Hierarchy.entityFields, List.append_assoc] at hnodup
    exact (List.nodup_append.1 hnodup).2.1
  · intro field hfield
    have hfree := Hierarchy.declaredCollections_free hfield
    refine ⟨fun hown => hfree (List.mem_append_left _ hown), fun a ha => ?_⟩
    have hclass := (Hierarchy.wellFormed_ofDiagram d).mem_classes ha
    have hdeclared := Context.has_entityOwn_build hd basePackage queryLimit hclass field
    exact Bool.eq_false_iff.2 fun habove =>
      hfree (Hierarchy.entityFields_subset_taken ha (hdeclared.1 habove))

/-- Animals have no primary key. -/
def beast : ClassNode where
  id := "1"
  name := "Animal"
  attributes := [{ name := "birth_date", type := "Date" }]

/-- Dogs are animals with three columns, none of which has the name of a column of animals. -/
def hound : ClassNode where
  id := "2"
  name := "Dog"
  attributes :=
    [{ name := "id" }, { name := "birthDate" }, { name := "toys", type := "Integer" }]

/-- Animals and dogs, and the toys of animals and the bones of dogs. -/
def pack : Diagram where
  classes :=
    [beast, hound,
      { id := "3", name := "Toy"
        attributes :=
          [{ name := "id", type := "Long", isPrimaryKey := true },
            { name := "animal", type := "Long", isForeignKey := true
              referencedEntity := some "Animal" }] },
      { id := "4", name := "Bone"
        attributes :=
          [{ name := "id", type := "Long", isPrimaryKey := true },
            { name := "dog", type := "Long", isForeignKey := true
              referencedEntity := some "Dog" }] }]
  relationships := [parentEdge "1" "2"]

theorem distinctIds_pack : pack.DistinctIds := by
  unfold Diagram.DistinctIds
  decide

theorem collections_apart_pack :
    let ctx := (Context.build pack "app" 3).value
    pack.DistinctIds ∧ hound ∈ pack.classes ∧
      ctx.hierarchy.ancestors hound = [beast] ∧
      (ctx.prediction hound).oneToMany.map (·.fieldName) = ["bones"] ∧
      "bones" ∉ (ctx.membersOf hound).fields ∧
      (ctx.prediction beast).entityOwn.has "bones" = false := by
  intro ctx
  have hbones : (ctx.prediction hound).oneToMany.map (·.fieldName) = ["bones"] := by
    decide +kernel
  have hbeast : ctx.hierarchy.ancestors hound = [beast] := by decide +kernel
  obtain ⟨-, hfree⟩ :=
    collections_apart pack distinctIds_pack "app" 3 (c := hound) (by decide)
  obtain ⟨hown, habove⟩ := hfree "bones" (by rw [hbones]; exact List.mem_cons_self)
  exact ⟨distinctIds_pack, by decide, hbeast, hbones, hown,
    habove beast (by rw [hbeast]; exact List.mem_cons_self)⟩

/-- In a context that is built from a diagram without repeated ids, a class and its parent declare
one field exactly if the class keeps an attribute with this field, and the parent declares the field
for something else than an attribute of the same name. A class keeps no attribute of the name of one
of its parent. So the two declare no field in common exactly if the parent declares no field of an
attribute that the class keeps. -/
theorem redeclared_iff (d : Diagram) (hd : d.DistinctIds) (basePackage : String)
    (queryLimit : Int) {c p : ClassNode} (hc : c ∈ d.classes)
    (hp : (Hierarchy.ofDiagram d).value.parentOf c = some p) :
    let ctx := (Context.build d basePackage queryLimit).value
    (∀ field, (field ∈ (ctx.membersOf c).fields ∧
        (ctx.prediction p).entityOwn.has field = true) ↔
      ∃ a ∈ ctx.hierarchy.keptAttributes c, camelCase a.name = field ∧
        ctx.hierarchy.DeclaresBesides ctx.members p a.name field) ∧
      (∀ a, a ∈ ctx.hierarchy.keptAttributes c ↔ a ∈ c.attributes ∧
        a.isRelationshipAttribute = false ∧ a.isPrimaryKey = false ∧
          (∀ b ∈ p.attributes, b.name ≠ a.name) ∧ a.references p.name = false) ∧
      ((∀ field ∈ (ctx.membersOf c).fields, (ctx.prediction p).entityOwn.has field = false) ↔
        ∀ a ∈ ctx.hierarchy.keptAttributes c,
          ¬ctx.hierarchy.DeclaresBesides ctx.members p a.name (camelCase a.name)) := by
  intro ctx
  have hclass : p ∈ d.classes := (Hierarchy.parentOf_eq_some hp).2
  have htable := Context.inTable_build hd basePackage queryLimit hclass
  have hown : ∀ field, field ∈ (ctx.membersOf c).fields ↔
      ∃ a ∈ ctx.hierarchy.keptAttributes c, camelCase a.name = field := by
    intro field
    rw [Context.membersOf_build hd basePackage queryLimit hc]
    exact Hierarchy.mem_fields_of_parent hp
  have habove : ∀ a ∈ ctx.hierarchy.keptAttributes c, ∀ field,
      ctx.hierarchy.DeclaresBesides ctx.members p a.name field ↔
        (ctx.prediction p).entityOwn.has field = true := by
    intro a ha field
    exact (Hierarchy.declaresBesides_iff htable hp ha).trans
      (Context.has_entityOwn_build hd basePackage queryLimit hclass field).symm
  refine ⟨fun field => ?_, fun a => Hierarchy.mem_keptAttributes_of_parent hp, ?_⟩
  · rw [hown]
    constructor
    · rintro ⟨⟨a, ha, hfield⟩, hhas⟩
      exact ⟨a, ha, hfield, (habove a ha field).2 hhas⟩
    · rintro ⟨a, ha, hfield, hdeclares⟩
      exact ⟨⟨a, ha, hfield⟩, (habove a ha field).1 hdeclares⟩
  · constructor
    · intro hapart a ha hdeclares
      have hhas := (habove a ha _).1 hdeclares
      rw [hapart _ ((hown _).2 ⟨a, ha, rfl⟩)] at hhas
      cases hhas
    · intro hnone field hfield
      obtain ⟨a, ha, rfl⟩ := (hown field).1 hfield
      exact Bool.eq_false_iff.2 fun hhas => hnone a ha ((habove a ha _).2 hhas)

/-- Dogs declare the key that is made up for animals, their date and their toys once more, each of
them with another type. -/
theorem not_apart_pack :
    let ctx := (Context.build pack "app" 3).value
    pack.DistinctIds ∧ hound ∈ pack.classes ∧ ctx.hierarchy.parentOf hound = some beast ∧
      (ctx.membersOf hound).scalars.map (fun s => (s.fieldName, s.javaType.name)) =
        [("id", "String"), ("birthDate", "String"), ("toys", "Integer")] ∧
      (ctx.membersOf beast).scalars.map (fun s => (s.fieldName, s.javaType.name)) =
        [("id", "Long"), ("birthDate", "LocalDate")] ∧
      (ctx.prediction beast).oneToMany.map (·.fieldName) = ["toys"] ∧
      ¬∀ field ∈ (ctx.membersOf hound).fields, (ctx.prediction beast).entityOwn.has field = false :=
  ⟨distinctIds_pack, by decide, by decide +kernel, by decide +kernel, by decide +kernel,
    by decide +kernel, by decide +kernel⟩

theorem redeclared_iff_pack :
    let ctx := (Context.build pack "app" 3).value
    pack.DistinctIds ∧ hound ∈ pack.classes ∧
      (Hierarchy.ofDiagram pack).value.parentOf hound = some beast ∧
      ∃ a ∈ ctx.hierarchy.keptAttributes hound, camelCase a.name = "birthDate" ∧
        ctx.hierarchy.DeclaresBesides ctx.members beast a.name "birthDate" := by
  intro ctx
  have hp : (Hierarchy.ofDiagram pack).value.parentOf hound = some beast := by decide +kernel
  obtain ⟨hfields, -, -⟩ := redeclared_iff pack distinctIds_pack "app" 3 (by decide) hp
  exact ⟨distinctIds_pack, by decide, hp, (hfields "birthDate").1 (by decide +kernel)⟩

end Scaffold
