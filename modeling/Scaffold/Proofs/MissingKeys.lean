import Scaffold.Proofs.Known
import Scaffold.Session

/-!
# Classes without a key

A class that has neither a key nor a parent gets a key that is made up, and lint reports it. The two
are decided apart: lint goes by the ids that have a pointer in the forest, and the members of a class
by the parent that it has. They agree for all edges, because a pointer of a class leads to a class
(`Forest.WellFormed`), as long as no class has the empty id, which names no parent.

Main statement: `missing_keys_reported`.
-/

namespace Scaffold

/-! ## Keys that are made up -/

/-- Whether a key among the members of a class is made up. -/
def Members.makesUpKey (m : Members) : Bool := m.scalars.any (·.synthesized)

namespace Hierarchy

variable {h : Hierarchy}

/-- No attribute makes up a key. -/
theorem makesUpKey_addMember (c : ClassNode) (m : Members) (a : Attribute) :
    (h.addMember c m a).value.makesUpKey = m.makesUpKey := by
  rcases addMember_cases (h := h) c m a with ⟨hsame, -⟩ | ⟨-, target, -, hsome⟩ | ⟨-, -, hnone⟩
  · rw [hsame]
  · rw [hsome]
    rfl
  · rw [hnone]
    simp [Members.makesUpKey, scalarOf]

/-- The members of a class hold a key that is made up exactly if it has neither a parent nor a
primary key. -/
theorem makesUpKey_membersOf (c : ClassNode) :
    (h.membersOf c).makesUpKey = true ↔ h.parentOf c = none ∧ c.primaryKeys = [] := by
  have hstart : (h.membersOf c).makesUpKey = (h.startMembers c).makesUpKey :=
    ownMembers_induction c (P := fun m => m.makesUpKey = (h.startMembers c).makesUpKey) rfl
      fun m a _ hm => (makesUpKey_addMember c m a).trans hm
  have hparent : (h.parentOf c).isNone = true ↔ h.parentOf c = none := Option.isNone_iff_eq_none
  rw [hstart, startMembers, ← hparent]
  split
  · next hnone => exact iff_of_true rfl hnone
  · next hsome => exact iff_of_false Bool.false_ne_true hsome

/-- A class has no pointer exactly if it has no parent, if no class has the empty id. -/
theorem WellFormed.notMem_childIds_iff (hh : h.WellFormed)
    (hids : ∀ c ∈ h.diagram.classes, c.id ≠ "") (c : ClassNode) :
    c.id ∉ h.forest.childIds ↔ h.parentOf c = none := by
  rw [← Option.not_isSome_iff_eq_none, hh.isSome_parentOf hids, not_iff_not, isChild,
    Forest.isChild]
  constructor
  · intro hmem
    obtain ⟨⟨id, parent⟩, hlink, rfl⟩ := List.mem_map.1 hmem
    rw [Forest.parentId_of_mem_links hh.children hlink]
    rfl
  · intro hchild
    obtain ⟨parent, hparent⟩ := Option.isSome_iff_exists.1 hchild
    exact List.mem_map_of_mem (Forest.mem_links_of_parentId hparent)

end Hierarchy

/-! ## Lint -/

/-- Whether a diagnostic says that a class has no key and that one is made up. -/
def Diagnostic.isMissingKey (n : Diagnostic) : Bool :=
  match n.finding with
  | .missingKey _ => true
  | _ => false

/-- The diagnostic that a class has no key and that one is made up. -/
def ClassNode.missingKeyNote (c : ClassNode) : Diagnostic := ⟨.missingKey c.name, some c.id, none⟩

namespace Diagram

variable (d : Diagram) (childIds : List String)

theorem filter_nameNotes (earlier : List ClassNode) (c : ClassNode) :
    (nameNotes earlier c).filter Diagnostic.isMissingKey = [] := by
  unfold nameNotes
  split <;> rfl

theorem filter_keyNotes (c : ClassNode) :
    (keyNotes childIds c).filter Diagnostic.isMissingKey =
      if c.primaryKeys = [] ∧ c.id ∉ childIds then [c.missingKeyNote] else [] := by
  unfold keyNotes
  split <;> rfl

theorem filter_foreignKeyNotes (c : ClassNode) :
    (c.attributes.filterMap (d.foreignKeyNote? c)).filter Diagnostic.isMissingKey = [] := by
  refine List.filter_eq_nil_iff.2 fun n hn => ?_
  obtain ⟨a, -, hn⟩ := List.mem_filterMap.1 hn
  unfold foreignKeyNote? at hn
  grind [Diagnostic.isMissingKey]

/-- Of the diagnostics for classes, those of missing keys are for the classes that have no key and
are not known as children, once each and in order. -/
theorem filter_classNotes (earlier classes : List ClassNode) :
    (d.classNotes childIds earlier classes).filter Diagnostic.isMissingKey =
      (classes.filter fun c => c.primaryKeys = [] ∧ c.id ∉ childIds).map
        ClassNode.missingKeyNote := by
  induction classes generalizing earlier with
  | nil => rfl
  | cons c rest ih =>
    rw [classNotes, List.filter_append, List.filter_append, List.filter_append, filter_nameNotes,
      filter_keyNotes, filter_foreignKeyNotes, ih, List.filter_cons]
    by_cases hmissing : c.primaryKeys = [] ∧ c.id ∉ childIds
    · simp [hmissing]
    · simp [hmissing]

/-- Lint finds missing keys nowhere else. -/
theorem filter_lint :
    (d.lint childIds).filter Diagnostic.isMissingKey =
      (d.classes.filter fun c => c.primaryKeys = [] ∧ c.id ∉ childIds).map
        ClassNode.missingKeyNote := by
  have hends : (d.relationships.flatMap fun r =>
      [r.source, r.target].filterMap (d.endNote? r)).filter Diagnostic.isMissingKey = [] := by
    refine List.filter_eq_nil_iff.2 fun n hn => ?_
    obtain ⟨r, -, hn⟩ := List.mem_flatMap.1 hn
    obtain ⟨place, -, hn⟩ := List.mem_filterMap.1 hn
    unfold endNote? at hn
    grind [Diagnostic.isMissingKey]
  have htables : (d.associationTables.filterMap tableNote?).filter
      Diagnostic.isMissingKey = [] := by
    refine List.filter_eq_nil_iff.2 fun n hn => ?_
    obtain ⟨t, -, hn⟩ := List.mem_filterMap.1 hn
    unfold tableNote? at hn
    grind [Diagnostic.isMissingKey]
  rw [lint, List.filter_append, List.filter_append, hends, htables, filter_classNotes,
    List.append_nil, List.append_nil]

end Diagram

/-- In a diagram without repeated or empty ids, lint reports a missing key for exactly the classes
whose members hold a key that is made up, once each and in their order. What it finds does not
depend on what was reported before: it is added behind that, is answered as it is added, and leaves
the context alone. -/
theorem missing_keys_reported (d : Diagram) (hd : d.DistinctIds)
    (hids : ∀ c ∈ d.classes, c.id ≠ "") (basePackage : String) (queryLimit : Int) :
    let ctx := (Context.build d basePackage queryLimit).value
    ∃ found : List Diagnostic,
      (∀ earlier : List Diagnostic,
        let s : Session := ⟨ctx, earlier⟩
        (s.outcome .lint).reply = .ok (.notes found) ∧ s.step .lint = ⟨ctx, earlier ++ found⟩) ∧
      found.filter Diagnostic.isMissingKey =
        (d.classes.filter fun c => (ctx.membersOf c).makesUpKey).map
          ClassNode.missingKeyNote := by
  intro ctx
  refine ⟨d.lint ctx.hierarchy.forest.childIds, fun earlier => ⟨rfl, rfl⟩, ?_⟩
  have hh : ctx.hierarchy.WellFormed := Hierarchy.wellFormed_ofDiagram d
  rw [Diagram.filter_lint]
  congr 1
  refine List.filter_congr fun c hc => ?_
  have hmembers : ctx.membersOf c = ctx.hierarchy.membersOf c :=
    Context.membersOf_build hd basePackage queryLimit hc
  rw [hmembers, Bool.eq_iff_iff, decide_eq_true_iff, Hierarchy.makesUpKey_membersOf,
    hh.notMem_childIds_iff hids, and_comm]

/-- Dogs are animals; neither has a key. A tag has one, and a cage, which has none, is to be a kind
of something that does not exist. -/
def sanctuary : Diagram where
  classes :=
    [{ id := "1", name := "Animal" }, { id := "2", name := "Dog", attributes := [{ name := "coat" }] },
      { id := "3", name := "Tag", attributes := [{ name := "code", isPrimaryKey := true }] },
      { id := "4", name := "Cage", attributes := [{ name := "id", type := "Long" }] }]
  relationships := [parentEdge "1" "2", parentEdge "5" "4"]

theorem missing_keys_reported_sanctuary :
    sanctuary.DistinctIds ∧ (∀ c ∈ sanctuary.classes, c.id ≠ "") ∧
      let ctx := (Context.build sanctuary "app" 3).value
      ∃ found : List Diagnostic,
        (∀ earlier, (Session.step ⟨ctx, earlier⟩ .lint).notes = earlier ++ found) ∧
        (found.filter Diagnostic.isMissingKey).map Diagnostic.format =
          ["[ValidationWarning] 1: Animal: missing primary key; a generated 'id: Long' is used",
            "[ValidationWarning] 4: Cage: missing primary key; a generated 'id: Long' is used"] := by
  have hd : sanctuary.DistinctIds := by
    unfold Diagram.DistinctIds
    decide
  have hids : ∀ c ∈ sanctuary.classes, c.id ≠ "" := by decide
  obtain ⟨found, hadded, hfound⟩ := missing_keys_reported sanctuary hd hids "app" 3
  refine ⟨hd, hids, found, fun earlier => congrArg Session.notes (hadded earlier).2, ?_⟩
  rw [hfound]
  decide +kernel

end Scaffold
