import Scaffold.Proofs.Pairs
import Scaffold.Proofs.Redeclared

/-!
# The field that a collection is mapped by

A one-to-many collection is derived from the first foreign key of a class to the owner, and is
mapped by the field of that foreign key. It is declared if the class has a reference with this field,
and the class has one such reference at most. But which attribute the reference is made from is
decided where the members of the class are resolved: of all attributes that ask for a field, and are
not left out, the first gets it (`Hierarchy.holder?`, `holder_of_mem_references`). So the reference
leads to the owner exactly if this attribute references the owner, as it does if no two attributes of
the class have one field.

Main statement: `mapped_by_one_reference`.
-/

namespace Scaffold

open Naming

namespace Hierarchy

variable {h : Hierarchy} {c : ClassNode}

/-! ## The attribute that gets a field -/

/-- The attribute of a class that gets a field: the first that asks for it and is not left out. -/
def holder? (h : Hierarchy) (c : ClassNode) (field : String) : Option Attribute :=
  (h.keptAttributes c).find? fun a => h.memberField c a = field

/-- A reference that some attributes add is made from the first of them that asks for its field. -/
theorem mem_references_addAll {m : Members} {l : List Attribute} {r : ReferenceMember}
    (hr : r ∈ (h.addAll c m l).references) :
    r ∈ m.references ∨ r.fieldName ∉ m.fields ∧
      (l.filter fun a => !h.leavesOut c a).find? (fun a => h.memberField c a = r.fieldName) =
        some r.attr ∧ h.diagram.referenceTarget? r.attr = some r.target := by
  induction l generalizing m with
  | nil => exact .inl hr
  | cons a rest ih =>
    by_cases hout : h.leavesOut c a = true
    · rw [List.filter_cons_of_neg (by simp [hout])]
      refine ih ?_
      rwa [← addMember_of_leavesOut hout m]
    rw [List.filter_cons_of_pos (by simp [hout])]
    rcases ih (m := (h.addMember c m a).value) hr with hbefore | ⟨hfree, hfirst, htarget⟩
    · rcases addMember_cases c m a with ⟨hsame, -⟩ | ⟨hfree, target, htarget, hsome⟩ | ⟨-, -, hnone⟩
      · rw [hsame] at hbefore
        exact .inl hbefore
      · rw [hsome] at hbefore
        rcases List.mem_append.1 hbefore with hbefore | hnew
        · exact .inl hbefore
        · obtain rfl := List.mem_singleton.1 hnew
          exact .inr ⟨hfree, by simp [referenceOf], htarget⟩
      · rw [hnone] at hbefore
        exact .inl hbefore
    · -- The field was free after `a`, so `a` does not ask for it.
      have hother : h.memberField c a ≠ r.fieldName := by
        rintro hask
        rcases fields_addMember c m a with ⟨hsame, hwhy⟩ | ⟨-, hperm⟩
        · rw [hsame, ← hask] at hfree
          exact hfree (hwhy.resolve_left hout)
        · exact hfree (hperm.mem_iff.2 (List.mem_cons.2 (.inl hask.symm)))
      refine .inr ⟨fun htaken => hfree (fields_subset_foldl c m [a] htaken), ?_, htarget⟩
      rw [List.find?_cons_of_neg (by simp [hother])]
      exact hfirst

/-- A class starts without references. -/
theorem references_startMembers (c : ClassNode) : (h.startMembers c).references = [] := by
  unfold startMembers
  split <;> rfl

/-- Every reference of a class is made from the attribute that gets its field, and leads where this
attribute does. -/
theorem holder_of_mem_references {r : ReferenceMember} (hr : r ∈ (h.membersOf c).references) :
    h.holder? c r.fieldName = some r.attr ∧ h.diagram.referenceTarget? r.attr = some r.target := by
  rw [membersOf, references_settledMembers] at hr
  obtain ⟨r₀, hr₀, taken, rfl⟩ := exists_settledIn _ _ _ hr
  rw [value_ownMembers] at hr₀
  rcases mem_references_addAll hr₀ with hstart | ⟨-, hfirst, htarget⟩
  · rw [references_startMembers] at hstart
    cases hstart
  · exact ⟨hfirst, htarget⟩

/-- A class has one reference with the field of a reference: the reference itself. -/
theorem filter_references {r : ReferenceMember} (hr : r ∈ (h.membersOf c).references) :
    ((h.membersOf c).references.filter fun r' => r'.fieldName = r.fieldName) = [r] := by
  have hfields : ((h.membersOf c).references.map (·.fieldName)).Nodup :=
    (nodup_fields c).sublist (List.sublist_append_right _ _)
  have hnodup : ((h.membersOf c).references.filter fun r' => r'.fieldName = r.fieldName).Nodup :=
    (List.Nodup.of_map _ hfields).filter _
  refine List.perm_singleton.1 ((List.perm_ext_iff_of_nodup hnodup (List.nodup_singleton r)).2 ?_)
  intro r'
  rw [List.mem_filter, List.mem_singleton]
  constructor
  · rintro ⟨hr', hsame⟩
    exact List.inj_on_of_nodup_map hfields hr' hr (of_decide_eq_true hsame)
  · rintro rfl
    exact ⟨hr, decide_eq_true rfl⟩

/-! ## Where the references lead -/

/-- The class that a reference leads to has the name that its attribute references. -/
theorem referencedEntity_of_referenceTarget {a : Attribute} {target : ClassNode}
    (ht : h.diagram.referenceTarget? a = some target) :
    a.referencedEntity = some target.name := by
  unfold Diagram.referenceTarget? at ht
  split at ht
  · obtain ⟨name, hname, hclass⟩ := Option.bind_eq_some_iff.1 ht
    rw [hname, Diagram.name_of_classByName hclass]
  · cases ht

/-- A one-to-many collection is mapped by the field of a foreign key to its owner. -/
theorem foreignKey_of_oneToManyOf? {owner related : ClassNode} {l : OneToMany}
    (hl : h.oneToManyOf? owner related = some l) :
    ∃ key ∈ related.attributes, key.referencedEntity = some owner.name ∧
      l.mappedBy = camelCase key.name := by
  unfold oneToManyOf? at hl
  split at hl
  · cases hl
  · split at hl
    · cases hl
    · next key hkey =>
      split at hl
      · cases hl
      · cases hl
        exact ⟨key, (List.mem_filter.1 (List.mem_of_find?_eq_some hkey)).1,
          by simpa using List.find?_some hkey, rfl⟩

theorem foreignKey_of_oneToManyLinks (hd : h.diagram.DistinctIds) (hc : c ∈ h.diagram.classes)
    {l : OneToMany} (hl : l ∈ h.oneToManyLinks c) :
    ∃ key ∈ l.related.attributes, key.referencedEntity = some c.name ∧
      l.mappedBy = camelCase key.name := by
  obtain ⟨related, -, hof⟩ := List.mem_filterMap.1 (mem_of_mem_distinctBy hl)
  rw [representative_eq hd hc] at hof
  obtain ⟨rfl, -, -⟩ := oneToManyOf?_sound hof
  exact foreignKey_of_oneToManyOf? hof

/-- The class of the instances of a collection that is declared has a reference with the field that
the collection is mapped by. -/
theorem exists_mappedBy {table : List (String × Members)} {l : OneToMany}
    (hl : l ∈ h.oneToMany table c) :
    ∃ r ∈ (Members.inTable table l.related).references, r.fieldName = l.mappedBy := by
  obtain ⟨-, hfree⟩ := List.mem_filter.1 hl
  by_contra hnone
  have hall : (Members.inTable table l.related).references.all (·.fieldName ≠ l.mappedBy) = true :=
    List.all_eq_true.2 fun r hr => decide_eq_true fun hfield => hnone ⟨r, hr, hfield⟩
  rw [oneToManyObstacle?, if_pos hall] at hfree
  cases hfree

end Hierarchy

/-- In a context that is built from a diagram without repeated ids and names, the class of the
instances of a one-to-many collection has exactly one reference with the field that the collection
is mapped by. The reference is made from the attribute that gets this field, so it leads to the
owner of the collection exactly if that attribute references the owner. If no two attributes of the
class have one field, it does. -/
theorem mapped_by_one_reference (d : Diagram) (hd : d.DistinctIds) (hnames : d.DistinctNames)
    (basePackage : String) (queryLimit : Int) {c : ClassNode} (hc : c ∈ d.classes) {l : OneToMany}
    (hl : l ∈ ((Context.build d basePackage queryLimit).value.prediction c).oneToMany) :
    let ctx := (Context.build d basePackage queryLimit).value
    ∃ r, ((ctx.membersOf l.related).references.filter fun r => r.fieldName = l.mappedBy) = [r] ∧
      ctx.hierarchy.holder? l.related l.mappedBy = some r.attr ∧
      (r.target = c ↔ r.attr.referencedEntity = some c.name) ∧
      ((l.related.attributes.map fun a => camelCase a.name).Nodup → r.target = c) := by
  intro ctx
  rw [Context.prediction_build hd basePackage queryLimit hc] at hl
  have hlink : l ∈ ctx.hierarchy.oneToManyLinks c := (List.mem_filter.1 hl).1
  have hmembers := Context.membersOf_build hd basePackage queryLimit
    (Hierarchy.fieldName_oneToMany hlink).1
  obtain ⟨r, hr, hfield⟩ := Hierarchy.exists_mappedBy hl
  have hr : r ∈ ((Hierarchy.ofDiagram d).value.membersOf l.related).references := hmembers ▸ hr
  obtain ⟨hholder, htarget⟩ := Hierarchy.holder_of_mem_references hr
  have hname := Hierarchy.referencedEntity_of_referenceTarget htarget
  have hleads : r.target = c ↔ r.attr.referencedEntity = some c.name := by
    refine ⟨fun heq => heq ▸ hname, fun href => ?_⟩
    have hclass := Hierarchy.mem_classes_of_referenceTarget htarget
    exact List.inj_on_of_nodup_map hnames hclass hc (Option.some.inj (hname.symm.trans href))
  refine ⟨r, ?_, ?_, hleads, fun hapart => hleads.2 ?_⟩
  · rw [hmembers, ← hfield]
    exact Hierarchy.filter_references hr
  · rw [← hfield]
    exact hholder
  · obtain ⟨key, hkey, href, hmapped⟩ := Hierarchy.foreignKey_of_oneToManyLinks hd hc hlink
    obtain ⟨hattr, hcalled⟩ := Hierarchy.fieldName_membersOf hr
    have hsame : camelCase r.attr.name = camelCase key.name := by
      rw [← hcalled, hfield, hmapped]
    obtain rfl := List.inj_on_of_nodup_map hapart hattr hkey hsame
    exact href

/-- Writers have a primary key. -/
def writer : ClassNode where
  id := "1"
  name := "Author"
  attributes := [{ name := "id", type := "Long", isPrimaryKey := true }]

/-- So do presses. -/
def press : ClassNode where
  id := "2"
  name := "Publisher"
  attributes := [{ name := "id", type := "Long", isPrimaryKey := true }]

/-- Volumes have foreign keys to both, whose names have one field. -/
def volume : ClassNode where
  id := "3"
  name := "Book"
  attributes :=
    [{ name := "id", type := "Long", isPrimaryKey := true },
      { name := "owned_by", type := "Long", isForeignKey := true
        referencedEntity := some "Publisher" },
      { name := "ownedBy", type := "Long", isForeignKey := true
        referencedEntity := some "Author" }]

/-- Writers, presses and volumes. -/
def bookshop : Diagram where
  classes := [writer, press, volume]

/-- The volumes of an owner, by a foreign key. -/
def volumesOf (owner : ClassNode) (foreignKey : String) : OneToMany where
  owner := owner
  related := volume
  fieldName := "books"
  mappedBy := "ownedBy"
  foreignKey := foreignKey

theorem distinct_bookshop : bookshop.DistinctIds ∧ bookshop.DistinctNames := by
  unfold Diagram.DistinctIds Diagram.DistinctNames
  decide

theorem mapped_by_one_reference_bookshop :
    let ctx := (Context.build bookshop "app" 3).value
    bookshop.DistinctIds ∧ bookshop.DistinctNames ∧ press ∈ bookshop.classes ∧
      volumesOf press "owned_by" ∈ (ctx.prediction press).oneToMany ∧
      ctx.hierarchy.holder? volume "ownedBy" = volume.attributes[1]? ∧
      ∃ r, ((ctx.membersOf volume).references.filter fun r => r.fieldName = "ownedBy") = [r] ∧
        r.target = press := by
  intro ctx
  obtain ⟨hd, hnames⟩ := distinct_bookshop
  have hlink : volumesOf press "owned_by" ∈ (ctx.prediction press).oneToMany := by decide +kernel
  have hgets : ctx.hierarchy.holder? volume "ownedBy" = volume.attributes[1]? := by decide +kernel
  obtain ⟨r, hone, hholder, hleads, -⟩ :=
    mapped_by_one_reference bookshop hd hnames "app" 3 (by decide) hlink
  refine ⟨hd, hnames, by decide, hlink, hgets, r, hone, hleads.2 ?_⟩
  exact congrArg Attribute.referencedEntity (Option.some.inj (hholder.symm.trans hgets))

/-- Writers have a collection of volumes that is mapped by the reference to the press. -/
theorem not_mapped_to_owner_bookshop :
    let ctx := (Context.build bookshop "app" 3).value
    bookshop.DistinctIds ∧ bookshop.DistinctNames ∧ writer ∈ bookshop.classes ∧
      volumesOf writer "ownedBy" ∈ (ctx.prediction writer).oneToMany ∧
      ((ctx.membersOf volume).references.filter fun r => r.fieldName = "ownedBy").map (·.target) =
        [press] ∧ press ≠ writer := by
  intro ctx
  obtain ⟨hd, hnames⟩ := distinct_bookshop
  exact ⟨hd, hnames, by decide, by decide +kernel, by decide +kernel, by decide⟩

end Scaffold
