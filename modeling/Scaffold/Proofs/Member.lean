import Mathlib.Data.List.Nodup
import Scaffold.Analysis.Member
import Scaffold.Proofs.Ancestors

/-!
# Keys and members as functions of the hierarchy

`Resolve` finds keys and members on demand and remembers them. `Hierarchy.keyOf` and
`Hierarchy.membersOf` are the same keys and members without a memory: the key of a class is that of
the first class on its way up that declares one, and its members are its attributes, one after the
other, settled against the fields of the transfer objects above it.

`addMember_cases` says what one attribute can do. From it follow the facts that the generators rely
on: no field is used twice (`nodup_fields`, `nodup_dtoFields`), references lead to classes of the
diagram and carry their keys (`reference_sound`) and are called after attributes
(`fieldName_membersOf`), and the class at the top of a chain has a field for its key
(`keyField_mem`).
-/

namespace Scaffold

open Naming

/-- The result of a loop whose steps record diagnostics is that of the loop without them. -/
theorem Noted.value_foldlM {α β : Type} (f : β → α → Noted β) (b : β) (l : List α) :
    (l.foldlM f b).value = l.foldl (fun b a => (f b a).value) b := by
  induction l generalizing b with
  | nil => rfl
  | cons a rest ih =>
    rw [List.foldlM_cons, Noted.value_bind, ih, List.foldl_cons]

namespace Hierarchy

variable (h : Hierarchy)

/-! ## Definitions -/

/-- The key of a class: that of the first class on its way up that declares one. -/
def keyOf (c : ClassNode) : PrimaryKey :=
  ((c :: h.ancestors c).findSome? ClassNode.ownKey?).getD .default

/-- The key that the entity of a class exposes. -/
def entityKeyOf (c : ClassNode) : PrimaryKey := h.keyOf (h.root c)

/-- The field that an attribute of a class asks for. -/
def memberField (c : ClassNode) (a : Attribute) : String :=
  if a.isPrimaryKey then (h.keyOf c).fieldName else camelCase a.name

/-- The scalar member that an attribute of a class makes. -/
def scalarOf (c : ClassNode) (a : Attribute) : ScalarMember :=
  { attr := a, fieldName := h.memberField c a, javaType := JavaType.ofDeclared a.type }

/-- The reference member that an attribute of a class makes, before it is settled. -/
def referenceOf (c : ClassNode) (a : Attribute) (target : ClassNode) : ReferenceMember :=
  { attr := a, target := target, fieldName := h.memberField c a
    dtoFieldName := some (idField a.name), targetKey := h.entityKeyOf target, idField := none }

/-- The members of a class after one more attribute. -/
def addMember (c : ClassNode) (m : Members) (a : Attribute) : Noted Members :=
  if h.leavesOut c a then return m
  else if h.memberField c a ∈ m.fields then do
    Noted.note (.fieldTaken c.name a.name (h.memberField c a)) c.id a.name
    return m
  else
    match h.diagram.referenceTarget? a with
    | some target => return { m with references := m.references ++ [h.referenceOf c a target] }
    | none => return { m with scalars := m.scalars ++ [h.scalarOf c a] }

/-- The members of a class before its references are settled. -/
def ownMembers (c : ClassNode) : Noted Members :=
  c.attributes.foldlM (h.addMember c) (h.startMembers c)

/-- The members of a class whose transfer object inherits some fields. -/
def settledMembers (c : ClassNode) (inherited : List String) : Noted Members := do
  let own ← h.ownMembers c
  let references ← settleReferences c own.fields (own.scalars.map (·.fieldName) ++ inherited)
    own.references
  return { own with references := references }

/-- The fields of the transfer objects of the classes of a chain, given from below. -/
def dtoFieldsAlong : List ClassNode → List String
  | [] => []
  | c :: rest =>
    (h.settledMembers c (dtoFieldsAlong rest)).value.dtoFields ++ dtoFieldsAlong rest

/-- The members of a class. -/
def membersOf (c : ClassNode) : Members :=
  (h.settledMembers c (h.dtoFieldsAlong (h.ancestors c))).value

variable {h}

/-! ## Keys -/

/-- A class that declares a key has it. -/
theorem keyOf_of_ownKey {c : ClassNode} {key : PrimaryKey} (hc : c.ownKey? = some key) :
    h.keyOf c = key := by
  simp [keyOf, hc]

/-- A class that declares no key has that of its parent. -/
theorem WellFormed.keyOf_of_parent (hh : h.WellFormed) {c p : ClassNode}
    (hown : c.ownKey? = none) (hp : h.parentOf c = some p) : h.keyOf c = h.keyOf p := by
  rw [keyOf, keyOf, hh.ancestors_of_parent hp, List.findSome?_cons, hown]

/-- A class that neither declares a key nor has a parent has the default key. -/
theorem WellFormed.keyOf_of_top (hh : h.WellFormed) {c : ClassNode} (hown : c.ownKey? = none)
    (hp : h.parentOf c = none) : h.keyOf c = .default := by
  simp [keyOf, hh.ancestors_of_top hp, hown]

theorem ownKey_eq_none_iff {c : ClassNode} : c.ownKey? = none ↔ c.primaryKeys = [] := by
  simp [ClassNode.ownKey?]

/-! ## One attribute -/

/-- What an attribute can do: nothing, because it is left out or its field is taken, or it adds a
reference or a scalar member whose field is free. -/
theorem addMember_cases (c : ClassNode) (m : Members) (a : Attribute) :
    ((h.addMember c m a).value = m ∧ (h.leavesOut c a = true ∨ h.memberField c a ∈ m.fields)) ∨
    (h.memberField c a ∉ m.fields ∧ ∃ target, h.diagram.referenceTarget? a = some target ∧
      (h.addMember c m a).value =
        { m with references := m.references ++ [h.referenceOf c a target] }) ∨
    (h.memberField c a ∉ m.fields ∧ h.diagram.referenceTarget? a = none ∧
      (h.addMember c m a).value = { m with scalars := m.scalars ++ [h.scalarOf c a] }) := by
  by_cases hout : h.leavesOut c a = true
  · exact .inl ⟨by simp [addMember, hout], .inl hout⟩
  by_cases htaken : h.memberField c a ∈ m.fields
  · exact .inl ⟨by simp [addMember, hout, htaken], .inr htaken⟩
  cases htarget : h.diagram.referenceTarget? a with
  | some target =>
    exact .inr (.inl ⟨htaken, target, rfl, by simp [addMember, hout, htaken, htarget]⟩)
  | none => exact .inr (.inr ⟨htaken, rfl, by simp [addMember, hout, htaken, htarget]⟩)

/-- The fields after one more attribute are those before, or those and the attribute's field, which
was free. -/
theorem fields_addMember (c : ClassNode) (m : Members) (a : Attribute) :
    ((h.addMember c m a).value.fields = m.fields ∧
      (h.leavesOut c a = true ∨ h.memberField c a ∈ m.fields)) ∨
    (h.memberField c a ∉ m.fields ∧
      (h.addMember c m a).value.fields.Perm (h.memberField c a :: m.fields)) := by
  rcases addMember_cases c m a with ⟨hm, hwhy⟩ | ⟨hfree, target, -, hm⟩ | ⟨hfree, -, hm⟩
  · exact .inl ⟨by rw [hm], hwhy⟩
  · refine .inr ⟨hfree, ?_⟩
    rw [hm]
    simp only [Members.fields, List.map_append, List.map_cons, List.map_nil, referenceOf,
      ← List.append_assoc]
    exact List.perm_append_singleton _ _
  · refine .inr ⟨hfree, ?_⟩
    rw [hm]
    simp only [Members.fields, List.map_append, List.map_cons, List.map_nil, scalarOf,
      List.append_assoc, List.cons_append, List.nil_append]
    exact List.perm_middle

/-! ## All attributes -/

theorem value_ownMembers (c : ClassNode) :
    (h.ownMembers c).value =
      c.attributes.foldl (fun m a => (h.addMember c m a).value) (h.startMembers c) :=
  Noted.value_foldlM _ _ _

/-- What holds of the members that a class starts from, and stays with every attribute, holds of its
members before they are settled. -/
theorem ownMembers_induction (c : ClassNode) {P : Members → Prop} (hstart : P (h.startMembers c))
    (hstep : ∀ m, ∀ a ∈ c.attributes, P m → P (h.addMember c m a).value) :
    P (h.ownMembers c).value := by
  rw [value_ownMembers]
  exact List.foldlRecOn c.attributes _ hstart fun m hm a ha => hstep m a ha hm

/-- The attributes of a class take different fields. -/
theorem nodup_fields_ownMembers (c : ClassNode) : (h.ownMembers c).value.fields.Nodup := by
  refine ownMembers_induction c (P := fun m => m.fields.Nodup) ?_ fun m a _ hm => ?_
  · unfold startMembers
    split <;> simp [Members.fields]
  · rcases fields_addMember c m a with ⟨hsame, -⟩ | ⟨hfree, hperm⟩
    · rw [hsame]
      exact hm
    · exact hperm.nodup_iff.2 (List.nodup_cons.2 ⟨hfree, hm⟩)

/-- A reference of a class leads to a class of the diagram and carries its key. -/
def ReferenceSound (h : Hierarchy) (r : ReferenceMember) : Prop :=
  r.target ∈ h.diagram.classes ∧ r.targetKey = h.entityKeyOf r.target

theorem mem_classes_of_referenceTarget {a : Attribute} {target : ClassNode}
    (ht : h.diagram.referenceTarget? a = some target) : target ∈ h.diagram.classes := by
  unfold Diagram.referenceTarget? at ht
  split at ht
  · obtain ⟨name, -, hname⟩ := Option.bind_eq_some_iff.1 ht
    exact Diagram.mem_of_classByName hname
  · cases ht

/-- The references of a class, before they are settled, are those of its attributes. -/
theorem exists_referenceOf (c : ClassNode) :
    ∀ r ∈ (h.ownMembers c).value.references, ∃ a ∈ c.attributes, ∃ target,
      h.diagram.referenceTarget? a = some target ∧ r = h.referenceOf c a target := by
  refine ownMembers_induction c
    (P := fun m => ∀ r ∈ m.references, ∃ a ∈ c.attributes, ∃ target,
      h.diagram.referenceTarget? a = some target ∧ r = h.referenceOf c a target) ?_
    fun m a ha hm => ?_
  · unfold startMembers
    split <;> simp
  · rcases addMember_cases c m a with ⟨hsame, -⟩ | ⟨-, target, ht, hsome⟩ | ⟨-, -, hnone⟩
    · rw [hsame]
      exact hm
    · rw [hsome]
      intro r hr
      rcases List.mem_append.1 hr with hr | hr
      · exact hm r hr
      · exact ⟨a, ha, target, ht, List.mem_singleton.1 hr⟩
    · rw [hnone]
      exact hm

/-- The scalars of a class are those that it starts from and those of its attributes. -/
theorem exists_scalarOf (c : ClassNode) :
    ∀ s ∈ (h.ownMembers c).value.scalars, s ∈ (h.startMembers c).scalars ∨
      ∃ a ∈ c.attributes, s = h.scalarOf c a := by
  refine ownMembers_induction c
    (P := fun m => ∀ s ∈ m.scalars, s ∈ (h.startMembers c).scalars ∨
      ∃ a ∈ c.attributes, s = h.scalarOf c a) (fun s hs => .inl hs) fun m a ha hm => ?_
  rcases addMember_cases c m a with ⟨hsame, -⟩ | ⟨-, target, -, hsome⟩ | ⟨-, -, hnone⟩
  · rw [hsame]
    exact hm
  · rw [hsome]
    exact hm
  · rw [hnone]
    intro s hs
    rcases List.mem_append.1 hs with hs | hs
    · exact hm s hs
    · exact .inr ⟨a, ha, List.mem_singleton.1 hs⟩

theorem referenceSound_ownMembers (c : ClassNode) :
    ∀ r ∈ (h.ownMembers c).value.references, h.ReferenceSound r := by
  intro r hr
  obtain ⟨a, -, target, ht, rfl⟩ := exists_referenceOf c r hr
  exact ⟨mem_classes_of_referenceTarget ht, rfl⟩

/-- An attribute that is a reference is no key, so its field is called after it. -/
theorem memberField_of_referenceTarget {c target : ClassNode} {a : Attribute}
    (ht : h.diagram.referenceTarget? a = some target) :
    h.memberField c a = camelCase a.name := by
  unfold Diagram.referenceTarget? at ht
  split at ht
  · next href =>
    have hkey : ¬a.isPrimaryKey = true := by simp_all
    exact if_neg hkey
  · cases ht

/-- The references of a class are called after its attributes. -/
theorem fieldName_of_mem_references (c : ClassNode) :
    ∀ r ∈ (h.ownMembers c).value.references,
      r.attr ∈ c.attributes ∧ r.fieldName = camelCase r.attr.name := by
  intro r hr
  obtain ⟨a, ha, target, ht, rfl⟩ := exists_referenceOf c r hr
  exact ⟨ha, memberField_of_referenceTarget ht⟩

/-- Fields that a class has stay with every further attribute. -/
theorem fields_subset_foldl (c : ClassNode) (m : Members) (l : List Attribute) :
    m.fields ⊆ (l.foldl (fun m a => (h.addMember c m a).value) m).fields := by
  induction l generalizing m with
  | nil => exact List.Subset.refl _
  | cons a rest ih =>
    refine List.Subset.trans ?_ (ih _)
    rcases fields_addMember (h := h) c m a with ⟨hsame, -⟩ | ⟨-, hperm⟩
    · rw [hsame]
      exact List.Subset.refl _
    · exact fun x hx => hperm.symm.subset (List.mem_cons_of_mem _ hx)

/-- The field of an attribute that is not left out is a field of the class, of this attribute or of
an earlier one. -/
theorem memberField_mem {c : ClassNode} {a : Attribute} (ha : a ∈ c.attributes)
    (hin : h.leavesOut c a = false) : h.memberField c a ∈ (h.ownMembers c).value.fields := by
  obtain ⟨before, after, hl⟩ := List.append_of_mem ha
  rw [value_ownMembers, hl, List.foldl_append, List.foldl_cons]
  refine fields_subset_foldl c _ after ?_
  generalize before.foldl (fun m a => (h.addMember c m a).value) (h.startMembers c) = m
  rcases fields_addMember c m a with ⟨hsame, hwhy⟩ | ⟨-, hperm⟩
  · rw [hsame]
    exact hwhy.resolve_left (by rw [hin]; exact Bool.false_ne_true)
  · exact hperm.symm.subset List.mem_cons_self

end Hierarchy

/-! ## Settling references -/

/-- A reference with its id field and its id query settled, given the fields of the entity and the
fields of the transfer object that are taken. -/
def ReferenceMember.settledIn (r : ReferenceMember) (fields taken : List String) :
    ReferenceMember :=
  { r with
    dtoFieldName :=
      if Naming.idField r.attr.name ∈ taken then none else some (Naming.idField r.attr.name)
    idField :=
      if r.fieldName ++ capitalize r.targetKey.fieldName ∈ fields then none
      else some (r.fieldName ++ capitalize r.targetKey.fieldName) }

section Settling

variable (c : ClassNode) (fields taken : List String)

/-- References are settled one after the other, each against the id fields of those before. -/
theorem value_settleReferences_cons (r : ReferenceMember) (rest : List ReferenceMember) :
    (settleReferences c fields taken (r :: rest)).value =
      r.settledIn fields taken ::
        (settleReferences c fields ((r.settledIn fields taken).dtoFieldName.toList ++ taken)
          rest).value := by
  by_cases hdto : idField r.attr.name ∈ taken <;>
    by_cases hquery : r.fieldName ++ capitalize r.targetKey.fieldName ∈ fields <;>
      simp [settleReferences, ReferenceMember.settledIn, hdto, hquery]

/-- A settled reference is one of the references, but for its id field and its id query. -/
theorem exists_settledIn {l : List ReferenceMember} {r : ReferenceMember}
    (hr : r ∈ (settleReferences c fields taken l).value) :
    ∃ r₀ ∈ l, ∃ taken', r = r₀.settledIn fields taken' := by
  induction l generalizing taken with
  | nil => cases hr
  | cons r₀ rest ih =>
    rw [value_settleReferences_cons] at hr
    rcases List.mem_cons.1 hr with rfl | hr
    · exact ⟨r₀, List.mem_cons_self, taken, rfl⟩
    · obtain ⟨r₁, hmem, taken', hr⟩ := ih _ hr
      exact ⟨r₁, List.mem_cons_of_mem _ hmem, taken', hr⟩

/-- Settling changes no field of the entity. -/
theorem map_fieldName_settleReferences (l : List ReferenceMember) :
    (settleReferences c fields taken l).value.map (·.fieldName) = l.map (·.fieldName) := by
  induction l generalizing taken with
  | nil => rfl
  | cons r rest ih =>
    rw [value_settleReferences_cons, List.map_cons, List.map_cons, ih]
    rfl

/-- The id fields of settled references are pairwise distinct, and none of them was taken. -/
theorem nodup_idFields (l : List ReferenceMember) :
    ((settleReferences c fields taken l).value.filterMap (·.dtoFieldName)).Nodup ∧
      ∀ field ∈ (settleReferences c fields taken l).value.filterMap (·.dtoFieldName),
        field ∉ taken := by
  induction l generalizing taken with
  | nil => exact ⟨List.nodup_nil, fun _ hf => absurd hf List.not_mem_nil⟩
  | cons r rest ih =>
    rw [value_settleReferences_cons]
    by_cases hdto : idField r.attr.name ∈ taken
    · have hnone : (r.settledIn fields taken).dtoFieldName = none := if_pos hdto
      rw [List.filterMap_cons_none hnone, hnone]
      exact ih taken
    · have hsome : (r.settledIn fields taken).dtoFieldName = some (idField r.attr.name) :=
        if_neg hdto
      rw [List.filterMap_cons_some hsome, hsome]
      obtain ⟨hnodup, hfree⟩ := ih (idField r.attr.name :: taken)
      refine ⟨List.nodup_cons.2 ⟨fun hmem => ?_, hnodup⟩, fun field hfield => ?_⟩
      · exact hfree _ hmem List.mem_cons_self
      · rcases List.mem_cons.1 hfield with rfl | hfield
        · exact hdto
        · exact fun htaken => hfree _ hfield (List.mem_cons_of_mem _ htaken)

end Settling

namespace Hierarchy

variable {h : Hierarchy}

/-! ## The members of a class -/

theorem references_settledMembers (c : ClassNode) (inherited : List String) :
    (h.settledMembers c inherited).value.references =
      (settleReferences c (h.ownMembers c).value.fields
        ((h.ownMembers c).value.scalars.map (·.fieldName) ++ inherited)
        (h.ownMembers c).value.references).value := rfl

/-- A class has the fields that its attributes take. -/
theorem fields_membersOf (c : ClassNode) :
    (h.membersOf c).fields = (h.ownMembers c).value.fields := by
  rw [Members.fields, membersOf, references_settledMembers, map_fieldName_settleReferences]
  rfl

/-- No field of an entity is used by two members of a class. -/
theorem nodup_fields (c : ClassNode) : (h.membersOf c).fields.Nodup := by
  rw [fields_membersOf]
  exact nodup_fields_ownMembers c

/-- No field of a transfer object is used by two members of a class. -/
theorem nodup_dtoFields (c : ClassNode) : (h.membersOf c).dtoFields.Nodup := by
  obtain ⟨hnodup, hfree⟩ :=
    nodup_idFields c (h.ownMembers c).value.fields
      ((h.ownMembers c).value.scalars.map (·.fieldName) ++ h.dtoFieldsAlong (h.ancestors c))
      (h.ownMembers c).value.references
  have hscalars : ((h.ownMembers c).value.scalars.map (·.fieldName)).Nodup :=
    (nodup_fields_ownMembers c).sublist (List.sublist_append_left _ _)
  refine List.nodup_append.2 ⟨hscalars, hnodup, fun field hs other ho heq => ?_⟩
  subst heq
  exact hfree _ ho (List.mem_append_left _ hs)

/-- Every reference of a class leads to a class of the diagram and carries its key. -/
theorem reference_sound (c : ClassNode) : ∀ r ∈ (h.membersOf c).references, h.ReferenceSound r := by
  intro r hr
  rw [membersOf, references_settledMembers] at hr
  obtain ⟨r₀, hr₀, taken', rfl⟩ := exists_settledIn _ _ _ hr
  exact referenceSound_ownMembers c r₀ hr₀

/-- The id query of a reference is about the reference and the key of its target, and about no field
of the class. -/
theorem idField_sound {c : ClassNode} {r : ReferenceMember}
    (hr : r ∈ (h.membersOf c).references) {field : String} (hfield : r.idField = some field) :
    field = r.fieldName ++ capitalize r.targetKey.fieldName ∧
      field ∉ (h.membersOf c).fields := by
  rw [membersOf, references_settledMembers] at hr
  obtain ⟨r₀, -, taken', rfl⟩ := exists_settledIn _ _ _ hr
  rw [fields_membersOf]
  simp only [ReferenceMember.settledIn] at hfield
  split at hfield
  · cases hfield
  · next hfree =>
    obtain rfl := Option.some.inj hfield
    exact ⟨rfl, hfree⟩

/-- The references of a class are called after its attributes, also when they are settled. -/
theorem fieldName_membersOf {c : ClassNode} {r : ReferenceMember}
    (hr : r ∈ (h.membersOf c).references) :
    r.attr ∈ c.attributes ∧ r.fieldName = camelCase r.attr.name := by
  rw [membersOf, references_settledMembers] at hr
  obtain ⟨r₀, hr₀, taken', rfl⟩ := exists_settledIn _ _ _ hr
  exact fieldName_of_mem_references c r₀ hr₀

/-- The columns of a class that are no keys are called after its attributes. -/
theorem fieldName_of_column {c : ClassNode} {s : ScalarMember} (hs : s ∈ (h.membersOf c).scalars)
    (hkey : s.isPrimaryKey = false) :
    s.attr ∈ c.attributes ∧ s.fieldName = camelCase s.attr.name := by
  rcases exists_scalarOf c s hs with hstart | ⟨a, ha, rfl⟩
  · unfold startMembers at hstart
    split at hstart
    · rw [List.mem_singleton.1 hstart] at hkey
      cases hkey
    · cases hstart
  · exact ⟨ha, if_neg (Bool.eq_false_iff.1 hkey)⟩

/-- The id field of a reference is called after the reference. It is no field of a column of the
class, and none that the transfer object inherits. -/
theorem dtoFieldName_sound {c : ClassNode} {r : ReferenceMember}
    (hr : r ∈ (h.membersOf c).references) {field : String} (hfield : r.dtoFieldName = some field) :
    field = r.fieldName ++ "Id" ∧ field ∉ (h.membersOf c).scalars.map (·.fieldName) ∧
      field ∉ h.dtoFieldsAlong (h.ancestors c) := by
  obtain ⟨-, hname⟩ := fieldName_membersOf hr
  rw [membersOf, references_settledMembers] at hr
  obtain ⟨-, hfree⟩ := nodup_idFields c (h.ownMembers c).value.fields
    ((h.ownMembers c).value.scalars.map (·.fieldName) ++ h.dtoFieldsAlong (h.ancestors c))
    (h.ownMembers c).value.references
  have hnot := hfree field (List.mem_filterMap.2 ⟨r, hr, hfield⟩)
  rw [List.mem_append, not_or] at hnot
  refine ⟨?_, hnot.1, hnot.2⟩
  obtain ⟨r₀, -, taken', rfl⟩ := exists_settledIn _ _ _ hr
  simp only [ReferenceMember.settledIn] at hfield hname ⊢
  split at hfield
  · cases hfield
  · rw [← Option.some.inj hfield, hname, idField]

/-- The fields that the transfer object of a class inherits are those of its ancestors. -/
theorem WellFormed.dtoFieldsAlong_ancestors (hh : h.WellFormed) (c : ClassNode) :
    h.dtoFieldsAlong (h.ancestors c) =
      (h.ancestors c).flatMap fun a => (h.membersOf a).dtoFields := by
  have hpath := hh.ascends_ancestors c
  generalize h.ancestors c = path at hpath
  induction hpath with
  | top => rfl
  | @step c p path _ rest ih =>
    rw [dtoFieldsAlong, List.flatMap_cons, ← ih, membersOf,
      (hh.ascends_ancestors p).det rest]

/-- The class at the top of a chain has a field for its key, unless all its keys are left out. -/
theorem WellFormed.keyField_mem (hh : h.WellFormed) {c : ClassNode} (hp : h.parentOf c = none)
    (hkeys : c.primaryKeys ≠ [] → ∃ a ∈ c.primaryKeys, a.isRelationshipAttribute = false) :
    (h.keyOf c).fieldName ∈ (h.membersOf c).fields := by
  rw [fields_membersOf]
  by_cases hnone : c.primaryKeys = []
  · have hstart : h.startMembers c =
        { scalars := [{ attr := { name := "id", type := "Long", isPrimaryKey := true }
                        fieldName := "id", javaType := .long, synthesized := true }] } := by
      simp [startMembers, hp, hnone, PrimaryKey.default, JavaType.name]
    rw [hh.keyOf_of_top (ownKey_eq_none_iff.2 hnone) hp, value_ownMembers, hstart]
    refine fields_subset_foldl c _ c.attributes ?_
    decide
  · obtain ⟨a, hmem, hrel⟩ := hkeys hnone
    obtain ⟨ha, hpk⟩ := List.mem_filter.1 hmem
    have hin : h.leavesOut c a = false := by simp [leavesOut, hrel, hp]
    have hfield : h.memberField c a = (h.keyOf c).fieldName := if_pos hpk
    rw [← hfield]
    exact memberField_mem ha hin

end Hierarchy

end Scaffold
