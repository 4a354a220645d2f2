import Scaffold.Proofs.Ancestors

/-!
# The forest is greedy

The forest of a diagram takes its inheritance edges one by one and never takes a pointer back. When
an edge has which outcome is said by `Forest.Fits`, without the loops of the program: exactly one
outcome fits (`WellFormed.outcome_eq_iff`). Since pointers stay (`parentId_addAll`), so do the ways
along them (`Leads.addAll`), and what is refused for a cycle would still close one in the end.

Main statement: `greedy_forest`.
-/

namespace Scaffold

/-- The diagram with other edges between its classes. -/
def Diagram.withEdges (d : Diagram) (edges : List Relationship) : Diagram :=
  { d with relationships := edges }

/-- Whether an id belongs to a class. -/
def Diagram.HasClass (d : Diagram) (id : String) : Prop := ∃ c ∈ d.classes, c.id = id

theorem Diagram.isSome_classById_iff {d : Diagram} {id : String} :
    (d.classById id).isSome ↔ d.HasClass id := by
  simp [classById, HasClass, List.find?_isSome]

/-- The multiplicities of an edge make one of its ends the parent and the other the child. -/
def Relationship.Orients (r : Relationship) (parent child : String) : Prop :=
  (parent = r.source ∧ child = r.target ∧ r.sourceMultiplicity = "1" ∧ r.isTargetMany = true) ∨
    (parent = r.target ∧ child = r.source ∧ r.targetMultiplicity = "1" ∧ r.isSourceMany = true)

/-- A multiplicity of exactly one does not admit many, so that only one end can be the parent. -/
theorem Relationship.parentAndChild?_eq_some_iff {r : Relationship} {parent child : String} :
    r.parentAndChild? = some (parent, child) ↔ r.Orients parent child := by
  have hone : isMany "1" = false := by decide
  unfold parentAndChild? Orients isTargetMany isSourceMany
  grind

namespace Forest

variable {d : Diagram} {f : Forest} {r : Relationship}

/-! ## Ways along pointers -/

/-- Following pointers, none or more, leads from one id to another. -/
def Leads (f : Forest) : String → String → Prop :=
  Relation.ReflTransGen fun child parent => f.parentId child = some parent

/-- The ids of a run are those to which one or more pointers lead. -/
theorem Climbs.leads_of_mem {id a : String} {path : List String} (h : f.Climbs id path)
    (ha : a ∈ path) : f.Leads id a := by
  induction h with
  | top => cases ha
  | @step id parent path hparent _ ih =>
    rcases List.mem_cons.1 ha with rfl | ha
    · exact .single hparent
    · exact .head hparent (ih ha)

/-- The loop that looks for an id on the way up finds it exactly if pointers lead there. -/
theorem WellFormed.reaches_iff (hf : f.WellFormed d) {start id : String} :
    f.reaches start id = true ↔ f.Leads start id := by
  have hclimbs := hf.climbs_ancestorIds start
  rw [reaches, decide_eq_true_iff, List.mem_cons]
  constructor
  · rintro (rfl | hmem)
    · exact .refl
    · exact hclimbs.leads_of_mem hmem
  · intro hleads
    rcases Relation.reflTransGen_iff_eq_or_transGen.1 hleads with rfl | htrans
    · exact .inl rfl
    · exact .inr (hclimbs.mem_of_transGen htrans)

/-! ## Pointers stay -/

/-- An edge leaves every pointer as it is. -/
theorem parentId_add {id parent : String} (h : f.parentId id = some parent) :
    (f.add d r).parentId id = some parent := by
  rcases add_cases d f r with hsame | ⟨child, parent', hlink, -, -, hnone, -⟩
  · rw [hsame]
    exact h
  · have hne : id ≠ child := by
      rintro rfl
      rw [hnone] at h
      cases h
    rw [hlink, parentId_link, if_neg hne]
    exact h

/-- Any edges leave every pointer as it is. -/
theorem parentId_addAll {id parent : String} (h : f.parentId id = some parent)
    (edges : List Relationship) : (addAll d f edges).parentId id = some parent := by
  induction edges generalizing f with
  | nil => exact h
  | cons r rest ih => exact ih (parentId_add h)

/-- A way along pointers stays one with any further edges. -/
theorem Leads.addAll {start id : String} (h : f.Leads start id) (edges : List Relationship) :
    (addAll d f edges).Leads start id :=
  Relation.ReflTransGen.mono (fun _ _ hparent => parentId_addAll hparent edges) _ _ h

theorem addAll_append (f : Forest) (edges more : List Relationship) :
    addAll d f (edges ++ more) = addAll d (addAll d f edges) more :=
  List.foldl_append

theorem outcomes_append (f : Forest) (edges more : List Relationship) :
    outcomes d f (edges ++ more) = outcomes d f edges ++ outcomes d (addAll d f edges) more := by
  induction edges generalizing f with
  | nil => rfl
  | cons r rest ih => exact congrArg ((r, f.outcome d r) :: ·) (ih (f.add d r))

/-! ## Outcomes -/

/-- An edge that gives no pointer leaves the forest as it is. -/
theorem add_of_refused (h : ∀ child parent, f.outcome d r ≠ .linked child parent) :
    f.add d r = f := by
  unfold add
  split
  · next child parent ho => exact absurd ho (h child parent)
  · rfl

/-- When an inheritance edge has an outcome, given the forest that the edges in front of it make:
its multiplicities orient no end, an end is no class, the child has a pointer, or pointers lead
from the parent to the child; otherwise the child gets the parent. -/
def Fits (d : Diagram) (f : Forest) (r : Relationship) : EdgeOutcome → Prop
  | .unclear => ∀ parent child, ¬r.Orients parent child
  | .loose child => ∃ parent, r.Orients parent child ∧ ¬(d.HasClass parent ∧ d.HasClass child)
  | .settled child =>
    ∃ parent, r.Orients parent child ∧ d.HasClass parent ∧ d.HasClass child ∧
      f.parentId child ≠ none
  | .cyclic child parent =>
    r.Orients parent child ∧ d.HasClass parent ∧ d.HasClass child ∧ f.parentId child = none ∧
      f.Leads parent child
  | .linked child parent =>
    r.Orients parent child ∧ d.HasClass parent ∧ d.HasClass child ∧ f.parentId child = none ∧
      ¬f.Leads parent child

/-- The outcome of an edge is the one that fits. -/
theorem WellFormed.outcome_eq_iff (hf : f.WellFormed d) {o : EdgeOutcome} :
    f.outcome d r = o ↔ Fits d f r o := by
  have hreaches : ∀ start id, f.reaches start id = true ↔ f.Leads start id :=
    fun _ _ => hf.reaches_iff
  have hclass : ∀ id, (d.classById id).isNone = true ↔ ¬d.HasClass id := by
    intro id
    rw [← Diagram.isSome_classById_iff, Bool.not_eq_true, Option.isSome_eq_false_iff]
  have hchild : ∀ id, f.isChild id = true ↔ f.parentId id ≠ none := by
    intro id
    rw [isChild, Option.isSome_iff_ne_none]
  have hends : ∀ parent child,
      r.Orients parent child ↔ r.parentAndChild? = some (parent, child) :=
    fun _ _ => Relationship.parentAndChild?_eq_some_iff.symm
  unfold outcome
  cases hr : r.parentAndChild? with
  | none => cases o <;> simp [Fits, hends, hr]
  | some ends =>
    obtain ⟨parent, child⟩ := ends
    simp only [hclass, hchild, hreaches]
    cases o <;> simp only [Fits, hends, hr] <;> grind

end Forest

/-! ## Edges of a diagram -/

/-- What an edge changes by its outcome, in the forest and in the diagnostics: it gives its child a
parent and is not reported, it is passed over because its child has one, or it is reported once. -/
def EdgeOutcome.Takes (r : Relationship) (x y : Noted Hierarchy) : EdgeOutcome → Prop
  | .linked child parent =>
    (∀ id, y.value.forest.parentId id =
      if id = child then some parent else x.value.forest.parentId id) ∧ y.notes = x.notes
  | .settled _ => y.value.forest = x.value.forest ∧ y.notes = x.notes
  | o => y.value.forest = x.value.forest ∧ ∃ note, o.note? r = some note ∧
      note.code = .classification ∧ y.notes = x.notes ++ [note]

namespace Hierarchy

variable {d : Diagram} {r : Relationship}

theorem forest_withEdges (d : Diagram) (edges : List Relationship) :
    (ofDiagram (d.withEdges edges)).value.forest =
      Forest.addAll d {} (edges.filter (·.type = inheritanceType)) := rfl

theorem notes_withEdges (d : Diagram) (edges : List Relationship) :
    (ofDiagram (d.withEdges edges)).notes =
      (Forest.outcomes d {} (edges.filter (·.type = inheritanceType))).filterMap
        fun p => p.2.note? p.1 := by
  have hsame : ∀ (f : Forest) (l : List Relationship),
      Forest.outcomes (d.withEdges edges) f l = Forest.outcomes d f l := by
    intro f l
    induction l generalizing f with
    | nil => rfl
    | cons r rest ih => exact congrArg ((r, f.outcome d r) :: ·) (ih (f.add d r))
  exact congrArg (List.filterMap _) (hsame _ _)

/-- Further edges are taken after those in front of them. -/
theorem forest_withEdges_append (d : Diagram) (edges more : List Relationship) :
    (ofDiagram (d.withEdges (edges ++ more))).value.forest =
      Forest.addAll d (ofDiagram (d.withEdges edges)).value.forest
        (more.filter (·.type = inheritanceType)) := by
  simp only [forest_withEdges, List.filter_append, Forest.addAll_append]

theorem wellFormed_withEdges (d : Diagram) (edges : List Relationship) :
    (ofDiagram (d.withEdges edges)).value.forest.WellFormed d :=
  Forest.wellFormed_addAll (Forest.wellFormed_empty d) _

/-- An edge of another type changes nothing. -/
theorem withEdges_of_other (before : List Relationship) (hr : r.type ≠ inheritanceType) :
    (ofDiagram (d.withEdges (before ++ [r]))).value.forest =
        (ofDiagram (d.withEdges before)).value.forest ∧
      (ofDiagram (d.withEdges (before ++ [r]))).notes =
        (ofDiagram (d.withEdges before)).notes := by
  have hfilter : (before ++ [r]).filter (·.type = inheritanceType) =
      before.filter (·.type = inheritanceType) := by
    simp [hr]
  rw [forest_withEdges, notes_withEdges, hfilter, ← forest_withEdges, ← notes_withEdges]
  exact ⟨rfl, rfl⟩

/-- An inheritance edge changes what its outcome says. -/
theorem takes_outcome (before : List Relationship) (hr : r.type = inheritanceType) :
    ((ofDiagram (d.withEdges before)).value.forest.outcome d r).Takes r
      (ofDiagram (d.withEdges before)) (ofDiagram (d.withEdges (before ++ [r]))) := by
  have hfilter : (before ++ [r]).filter (·.type = inheritanceType) =
      before.filter (·.type = inheritanceType) ++ [r] := by
    simp [hr]
  have hforest : (ofDiagram (d.withEdges (before ++ [r]))).value.forest =
      (ofDiagram (d.withEdges before)).value.forest.add d r := by
    rw [forest_withEdges, hfilter, Forest.addAll_append]
    rfl
  have hnotes : (ofDiagram (d.withEdges (before ++ [r]))).notes =
      (ofDiagram (d.withEdges before)).notes ++
        (((ofDiagram (d.withEdges before)).value.forest.outcome d r).note? r).toList := by
    rw [notes_withEdges, hfilter, Forest.outcomes_append, List.filterMap_append,
      ← notes_withEdges, ← forest_withEdges]
    simp [Forest.outcomes, List.filterMap_cons, Option.toList]
    split <;> simp [*]
  generalize ofDiagram (d.withEdges before) = x at hforest hnotes ⊢
  generalize ofDiagram (d.withEdges (before ++ [r])) = y at hforest hnotes ⊢
  have hsame : (∀ child parent, x.value.forest.outcome d r ≠ .linked child parent) →
      y.value.forest = x.value.forest :=
    fun hrefused => hforest.trans (Forest.add_of_refused hrefused)
  cases ho : x.value.forest.outcome d r <;> rw [ho] at hnotes hsame
  case linked child parent =>
    have hlink : y.value.forest = x.value.forest.link child parent := by
      rw [hforest, Forest.add, ho, Forest.link]
    refine ⟨fun id => ?_, hnotes.trans (List.append_nil _)⟩
    rw [hlink, Forest.parentId_link]
  case settled => exact ⟨hsame (by simp), hnotes.trans (List.append_nil _)⟩
  case unclear => exact ⟨hsame (by simp), _, rfl, rfl, hnotes⟩
  case loose => exact ⟨hsame (by simp), _, rfl, rfl, hnotes⟩
  case cyclic => exact ⟨hsame (by simp), _, rfl, rfl, hnotes⟩

end Hierarchy

/-- The parent pointers of a diagram are the forest that its inheritance edges make greedily. After
any edges, an edge of another type changes nothing, and of the outcomes of an inheritance edge
exactly one fits: its child gets the parent, or nothing changes but that the edge is reported once,
unless its child has a parent. No further edge changes or removes a pointer. If an edge is refused
because it would close a cycle, its parent is its child or reaches it also along the pointers that
there are in the end. -/
theorem greedy_forest (d : Diagram) :
    (∀ before r,
      let x := Hierarchy.ofDiagram (d.withEdges before)
      let y := Hierarchy.ofDiagram (d.withEdges (before ++ [r]))
      (r.type ≠ inheritanceType →
        y.value.forest = x.value.forest ∧ y.notes = x.notes) ∧
      (r.type = inheritanceType →
        ∃ o, Forest.Fits d x.value.forest r o ∧ o.Takes r x y ∧
          ∀ o', Forest.Fits d x.value.forest r o' → o' = o)) ∧
    (∀ edges more id parent,
      (Hierarchy.ofDiagram (d.withEdges edges)).value.forest.parentId id = some parent →
        (Hierarchy.ofDiagram (d.withEdges (edges ++ more))).value.forest.parentId id =
          some parent) ∧
    ∀ before r after child parent, r.type = inheritanceType →
      Forest.Fits d (Hierarchy.ofDiagram (d.withEdges before)).value.forest r
        (.cyclic child parent) →
      (Hierarchy.ofDiagram (d.withEdges (before ++ r :: after))).value.forest.Leads parent
        child := by
  refine ⟨fun before r => ⟨Hierarchy.withEdges_of_other before, fun hr => ?_⟩, ?_, ?_⟩
  · have hf := Hierarchy.wellFormed_withEdges d before
    refine ⟨_, hf.outcome_eq_iff.1 rfl, Hierarchy.takes_outcome before hr, fun o ho => ?_⟩
    exact (hf.outcome_eq_iff.2 ho).symm
  · intro edges more id parent h
    rw [Hierarchy.forest_withEdges_append]
    exact Forest.parentId_addAll h _
  · intro before r after child parent _ hcyclic
    obtain ⟨-, -, -, -, hleads⟩ := hcyclic
    rw [Hierarchy.forest_withEdges_append]
    exact hleads.addAll _

end Scaffold
