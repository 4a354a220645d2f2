import Mathlib.Data.List.Dedup
import Mathlib.Data.List.Perm.Subperm
import Mathlib.Logic.Relation
import Scaffold.Analysis.Forest

/-!
# The parent pointers make a forest

The two loops over parent pointers have no guard against a cycle: the one that asks whether a new
pointer would close a cycle, and the one that collects the ancestors of a class. `Climbs` and
`Seeks` are their runs, without a bound on the number of steps. That there is a run from every
start is the invariant `Forest.WellFormed`, which `wellFormed_add` carries over one edge and
`wellFormed_addAll` over all of them.

The number of pointers bounds the length of a run (`Climbs.length_le`), which is why the fuel of
`Forest.climb` and `Hierarchy.climb` is enough: `climbs_ancestorIds`, `seeks_reaches` and
`ascends_ancestors`.
-/

namespace Scaffold

namespace Forest

variable {d : Diagram} {f : Forest}

/-! ## Runs along pointers -/

/-- A run of the loop that follows pointers from an id: the ids that are met until there is no
pointer any more. -/
inductive Climbs (f : Forest) : String → List String → Prop where
  /-- There is no pointer. -/
  | top {id : String} (h : f.parentId id = none) : Climbs f id []
  /-- A pointer is followed. -/
  | step {id parent : String} {path : List String} (h : f.parentId id = some parent)
      (rest : Climbs f parent path) : Climbs f id (parent :: path)

/-- Two runs from one start are the same. -/
theorem Climbs.det {id : String} {p q : List String} (h : f.Climbs id p) (h' : f.Climbs id q) :
    p = q := by
  induction h generalizing q with
  | top h =>
    cases h' with
    | top => rfl
    | step h₂ => rw [h] at h₂; cases h₂
  | step h _ ih =>
    cases h' with
    | top h₂ => rw [h] at h₂; cases h₂
    | step h₂ rest =>
      rw [h] at h₂
      cases h₂
      rw [ih rest]

/-- From an id that is met, the run goes on with fewer ids. -/
theorem Climbs.of_mem {id a : String} {path : List String} (h : f.Climbs id path)
    (ha : a ∈ path) : ∃ rest, f.Climbs a rest ∧ rest.length < path.length := by
  induction h with
  | top => cases ha
  | @step id parent path _ rest ih =>
    rcases List.mem_cons.1 ha with rfl | ha
    · exact ⟨path, rest, by simp⟩
    · obtain ⟨rest', hrest, hlt⟩ := ih ha
      exact ⟨rest', hrest, by simp only [List.length_cons]; omega⟩

/-- A run does not come back to its start. -/
theorem Climbs.start_notMem {id : String} {path : List String} (h : f.Climbs id path) :
    id ∉ path := by
  intro hmem
  obtain ⟨rest, hrest, hlt⟩ := h.of_mem hmem
  rw [h.det hrest] at hlt
  exact Nat.lt_irrefl _ hlt

/-- A run meets no id twice. -/
theorem Climbs.nodup {id : String} {path : List String} (h : f.Climbs id path) :
    (id :: path).Nodup := by
  induction h with
  | top => simp
  | step h rest ih => exact List.nodup_cons.2 ⟨(Climbs.step h rest).start_notMem, ih⟩

/-- Every id of a run but the last has a pointer. -/
theorem Climbs.dropLast_subset {id : String} {path : List String} (h : f.Climbs id path) :
    (id :: path).dropLast ⊆ f.childIds := by
  induction h with
  | top => simp
  | @step id parent path h _ ih =>
    rw [List.dropLast_cons_cons]
    refine List.cons_subset.2 ⟨?_, ih⟩
    have hmem := List.lookup_eq_some_iff.1 h
    obtain ⟨before, after, hlinks, -⟩ := hmem
    simp [childIds, hlinks]

/-- A run meets at most as many ids as there are pointers. -/
theorem Climbs.length_le {id : String} {path : List String} (h : f.Climbs id path) :
    path.length ≤ f.links.length := by
  have hnodup : (id :: path).dropLast.Nodup := h.nodup.sublist (List.dropLast_sublist _)
  have hle := (hnodup.subperm h.dropLast_subset).length_le
  simpa [childIds] using hle

/-- With enough fuel, `climb` gives the run. -/
theorem Climbs.climb_eq {id : String} {path : List String} (h : f.Climbs id path) {fuel : Nat}
    (hfuel : path.length ≤ fuel) : f.climb fuel id = path := by
  induction h generalizing fuel with
  | top h =>
    cases fuel with
    | zero => rfl
    | succ fuel => simp [climb, h]
  | step h _ ih =>
    cases fuel with
    | zero => simp at hfuel
    | succ fuel =>
      have := ih (Nat.le_of_succ_le_succ hfuel)
      simp [climb, h, this]

/-! ## One more pointer -/

/-- The forest with one more pointer. -/
def link (f : Forest) (child parent : String) : Forest := ⟨(child, parent) :: f.links⟩

theorem parentId_link (f : Forest) (child parent id : String) :
    (f.link child parent).parentId id = if id = child then some parent else f.parentId id := by
  by_cases h : id = child
  · simp [parentId, link, h]
  · have hne : (id == child) = false := beq_false_of_ne h
    simp [parentId, link, List.lookup_cons, hne, h]

/-- A run that does not meet the child of a new pointer stays as it is. -/
theorem Climbs.link_of_notMem {id child parent : String} {path : List String}
    (h : f.Climbs id path) (hc : child ∉ id :: path) : (f.link child parent).Climbs id path := by
  induction h with
  | @top id h =>
    have hne : id ≠ child := by
      rintro rfl
      exact hc List.mem_cons_self
    exact .top (by rw [parentId_link, if_neg hne]; exact h)
  | step h _ ih =>
    obtain ⟨hne, hc⟩ := not_or.1 (mt List.mem_cons.2 hc)
    exact .step (by rw [parentId_link, if_neg (Ne.symm hne)]; exact h) (ih hc)

/-- A run that meets the child of a new pointer goes on at the parent. The child had no pointer, so
it is the last id of the run. -/
theorem Climbs.link_of_mem {id child parent : String} {path above : List String}
    (h : f.Climbs id path) (hc : child ∈ id :: path) (hnone : f.parentId child = none)
    (habove : (f.link child parent).Climbs parent above) :
    (f.link child parent).Climbs id (path ++ parent :: above) := by
  induction h with
  | top =>
    obtain rfl := List.mem_singleton.1 hc
    exact .step (by rw [parentId_link, if_pos rfl]) habove
  | @step id next path h _ ih =>
    have hne : id ≠ child := by
      rintro rfl
      rw [h] at hnone
      cases hnone
    have hc : child ∈ next :: path := (List.mem_cons.1 hc).resolve_left (Ne.symm hne)
    exact .step (by rw [parentId_link, if_neg hne]; exact h) (ih hc)

/-! ## The invariant -/

/-- What holds of every forest that edges of a diagram make. -/
structure WellFormed (d : Diagram) (f : Forest) : Prop where
  /-- No id has two pointers. -/
  children : f.childIds.Nodup
  /-- Pointers lead from classes to classes. -/
  ends : ∀ link ∈ f.links, (d.classById link.1).isSome ∧ (d.classById link.2).isSome
  /-- The loop that follows pointers comes to an end from every id. -/
  climbs : ∀ id, ∃ path, f.Climbs id path

theorem mem_links_of_parentId {id parent : String} (h : f.parentId id = some parent) :
    (id, parent) ∈ f.links := by
  obtain ⟨before, after, hlinks, -⟩ := List.lookup_eq_some_iff.1 h
  rw [hlinks]
  exact List.mem_append_right _ List.mem_cons_self

theorem notMem_childIds_of_parentId {id : String} (h : f.parentId id = none) :
    id ∉ f.childIds := by
  intro hmem
  obtain ⟨link, hlink, rfl⟩ := List.mem_map.1 hmem
  have hne := List.lookup_eq_none_iff.1 h link hlink
  simp at hne

theorem parentId_of_mem_links (hf : f.childIds.Nodup) {id parent : String}
    (h : (id, parent) ∈ f.links) : f.parentId id = some parent := by
  cases hp : f.parentId id with
  | none => exact absurd (List.mem_map_of_mem h) (notMem_childIds_of_parentId hp)
  | some other =>
    have hpair := List.inj_on_of_nodup_map hf (mem_links_of_parentId hp) h rfl
    rw [Prod.mk.injEq] at hpair
    rw [hpair.2]

/-- The ancestors of an id are those that the run from it meets. -/
theorem WellFormed.climbs_ancestorIds (hf : f.WellFormed d) (id : String) :
    f.Climbs id (f.ancestorIds id) := by
  obtain ⟨path, hpath⟩ := hf.climbs id
  rw [ancestorIds, hpath.climb_eq hpath.length_le]
  exact hpath

/-- What an edge that gives its child a parent has passed. -/
theorem outcome_linked {r : Relationship} {child parent : String}
    (h : f.outcome d r = .linked child parent) :
    (d.classById child).isSome ∧ (d.classById parent).isSome ∧ f.parentId child = none ∧
      f.reaches parent child = false := by
  unfold outcome at h
  split at h
  · cases h
  · split at h
    · cases h
    · next hends =>
      split at h
      · cases h
      · next hchild =>
        split at h
        · cases h
        · next hreach =>
          cases h
          rw [not_or, Bool.not_eq_true, Option.isNone_eq_false_iff, Bool.not_eq_true,
            Option.isNone_eq_false_iff] at hends
          rw [isChild, Bool.not_eq_true, Option.isSome_eq_false_iff,
            Option.isNone_iff_eq_none] at hchild
          exact ⟨hends.2, hends.1, hchild, Bool.not_eq_true _ ▸ hreach⟩

/-- An edge adds at most one pointer: from a class that has none, to a class from which it is not
reached. -/
theorem add_cases (d : Diagram) (f : Forest) (r : Relationship) :
    f.add d r = f ∨ ∃ child parent, f.add d r = f.link child parent ∧
      (d.classById child).isSome ∧ (d.classById parent).isSome ∧ f.parentId child = none ∧
      f.reaches parent child = false := by
  cases h : f.outcome d r with
  | linked child parent =>
    refine .inr ⟨child, parent, ?_, outcome_linked h⟩
    simp [add, h, link]
  | unclear => exact .inl (by simp [add, h])
  | loose child => exact .inl (by simp [add, h])
  | settled child => exact .inl (by simp [add, h])
  | cyclic child parent => exact .inl (by simp [add, h])

/-- Without pointers there is nothing to follow. -/
theorem wellFormed_empty (d : Diagram) : WellFormed d {} where
  children := List.nodup_nil
  ends := by simp
  climbs := fun _ => ⟨[], .top rfl⟩

/-- One more pointer keeps the invariant if its child has none and is not met on the way up from
its parent. -/
theorem WellFormed.link (hf : f.WellFormed d) {child parent : String}
    (hchild : (d.classById child).isSome) (hparent : (d.classById parent).isSome)
    (hnone : f.parentId child = none) (hreach : f.reaches parent child = false) :
    (f.link child parent).WellFormed d where
  children := List.nodup_cons.2 ⟨notMem_childIds_of_parentId hnone, hf.children⟩
  ends := by
    intro l hl
    rcases List.mem_cons.1 hl with rfl | hl
    · exact ⟨hchild, hparent⟩
    · exact hf.ends l hl
  climbs := by
    -- The run from the new parent does not meet the child, so it is as before; every other run
    -- is as before too, or goes on from the child with that run.
    have habove : (f.link child parent).Climbs parent (f.ancestorIds parent) := by
      refine (hf.climbs_ancestorIds parent).link_of_notMem ?_
      simpa [reaches] using hreach
    intro id
    obtain ⟨path, hpath⟩ := hf.climbs id
    by_cases hmem : child ∈ id :: path
    · exact ⟨_, hpath.link_of_mem hmem hnone habove⟩
    · exact ⟨path, hpath.link_of_notMem hmem⟩

/-- An edge keeps the invariant, whatever becomes of it. -/
theorem wellFormed_add (hf : f.WellFormed d) (r : Relationship) : (f.add d r).WellFormed d := by
  rcases add_cases d f r with h | ⟨child, parent, h, hchild, hparent, hnone, hreach⟩
  · rw [h]
    exact hf
  · rw [h]
    exact hf.link hchild hparent hnone hreach

/-- Any edges in any order keep the invariant. -/
theorem wellFormed_addAll (hf : f.WellFormed d) (edges : List Relationship) :
    (addAll d f edges).WellFormed d := by
  induction edges generalizing f with
  | nil => exact hf
  | cons r rest ih => exact ih (wellFormed_add hf r)

/-! ## No cycles -/

/-- Following one or more pointers never leads back to the start. -/
def Acyclic (f : Forest) : Prop :=
  ∀ id, ¬ Relation.TransGen (fun child parent => f.parentId child = some parent) id id

/-- Following one or more pointers leads to an id of the run. -/
theorem Climbs.mem_of_transGen {id a : String} {path : List String} (h : f.Climbs id path)
    (ha : Relation.TransGen (fun child parent => f.parentId child = some parent) id a) :
    a ∈ path := by
  induction ha using Relation.TransGen.head_induction_on generalizing path with
  | single hstep =>
    cases h with
    | top hnone => rw [hnone] at hstep; cases hstep
    | step hparent _ =>
      rw [hparent] at hstep
      cases hstep
      exact List.mem_cons_self
  | head hstep _ ih =>
    cases h with
    | top hnone => rw [hnone] at hstep; cases hstep
    | step hparent rest =>
      rw [hparent] at hstep
      cases hstep
      exact List.mem_cons_of_mem _ (ih rest)

theorem WellFormed.acyclic (hf : f.WellFormed d) : f.Acyclic := by
  intro id hcycle
  obtain ⟨path, hpath⟩ := hf.climbs id
  exact hpath.start_notMem (hpath.mem_of_transGen hcycle)

/-- A run of the loop that looks for an id on the way up: the id at which it stands, if any, and
whether it finds what it looks for. -/
inductive Seeks (f : Forest) (id : String) : Option String → Bool → Prop where
  /-- There is no pointer any more. -/
  | behind : Seeks f id none false
  /-- The id is found. -/
  | found : Seeks f id (some id) true
  /-- A pointer is followed, if there is one. -/
  | next {current : String} {answer : Bool} (h : current ≠ id)
      (rest : Seeks f id (f.parentId current) answer) : Seeks f id (some current) answer

/-- Looking for an id ends with the answer whether the run meets it. -/
theorem Climbs.seeks {start id : String} {path : List String} (h : f.Climbs start path) :
    f.Seeks id (some start) (decide (id ∈ start :: path)) := by
  induction h with
  | @top start h =>
    by_cases hid : start = id
    · subst hid
      simpa using Seeks.found
    · have hnot : id ∉ [start] := by simpa using Ne.symm hid
      rw [decide_eq_false hnot]
      exact .next hid (h ▸ .behind)
  | @step start parent path h _ ih =>
    by_cases hid : start = id
    · subst hid
      simpa using Seeks.found
    · have hsame : decide (id ∈ start :: parent :: path) = decide (id ∈ parent :: path) := by
        simp [Ne.symm hid]
      rw [hsame]
      exact .next hid (h ▸ ih)

/-- The loop that looks for an id on the way up ends with what `reaches` says. -/
theorem WellFormed.seeks_reaches (hf : f.WellFormed d) (start id : String) :
    f.Seeks id (some start) (f.reaches start id) :=
  (hf.climbs_ancestorIds start).seeks

end Forest

end Scaffold
