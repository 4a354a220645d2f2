import Mathlib.Data.List.Pairwise
import Scaffold.Proofs.Forest

/-!
# The ancestors of a class

`Ascends` is the run of the loop that collects the ancestors of a class, without a bound on the
number of steps. A run of parents goes along the run of pointers (`exists_ascends`), so it ends, and
`Hierarchy.ancestors` is its result: `WellFormed.ascends_ancestors`. The equations
`WellFormed.ancestors_of_top` and `WellFormed.ancestors_of_parent` are how the other modules reason
about chains.

Main statement: `inheritance_sound`, what the forest of any diagram is after each of its edges, and
what its ancestors, parents and children are.
-/

namespace Scaffold

/-- The edge that makes the class of an id the parent of the class of another. -/
def parentEdge (parent child : String) : Relationship where
  id := parent ++ child
  source := parent
  target := child
  type := inheritanceType
  sourceMultiplicity := "1"
  targetMultiplicity := "*"

namespace Hierarchy

variable {h : Hierarchy}

/-- The forest of the hierarchy is one that edges of its diagram make. -/
def WellFormed (h : Hierarchy) : Prop := h.forest.WellFormed h.diagram

theorem wellFormed_ofDiagram (d : Diagram) : (ofDiagram d).value.WellFormed :=
  Forest.wellFormed_addAll (Forest.wellFormed_empty d) d.inheritanceEdges

/-- A run of the loop that collects the ancestors of a class. -/
inductive Ascends (h : Hierarchy) : ClassNode → List ClassNode → Prop where
  /-- The class has no parent. -/
  | top {c : ClassNode} (hc : h.parentOf c = none) : Ascends h c []
  /-- The parent is collected, and is the next class. -/
  | step {c parent : ClassNode} {path : List ClassNode} (hc : h.parentOf c = some parent)
      (rest : Ascends h parent path) : Ascends h c (parent :: path)

theorem Ascends.det {c : ClassNode} {p q : List ClassNode} (hp : h.Ascends c p)
    (hq : h.Ascends c q) : p = q := by
  induction hp generalizing q with
  | top hc =>
    cases hq with
    | top => rfl
    | step hc₂ => rw [hc] at hc₂; cases hc₂
  | step hc _ ih =>
    cases hq with
    | top hc₂ => rw [hc] at hc₂; cases hc₂
    | step hc₂ rest =>
      rw [hc] at hc₂
      cases hc₂
      rw [ih rest]

/-- With enough fuel, `climb` gives the run. -/
theorem Ascends.climb_eq {c : ClassNode} {path : List ClassNode} (hpath : h.Ascends c path)
    {fuel : Nat} (hfuel : path.length ≤ fuel) : h.climb fuel c = path := by
  induction hpath generalizing fuel with
  | top hc =>
    cases fuel with
    | zero => rfl
    | succ fuel => simp [climb, hc]
  | step hc _ ih =>
    cases fuel with
    | zero => simp at hfuel
    | succ fuel =>
      have := ih (Nat.le_of_succ_le_succ hfuel)
      simp [climb, hc, this]

theorem parentOf_eq_some {c p : ClassNode} (hp : h.parentOf c = some p) :
    h.forest.parentId c.id = some p.id ∧ p ∈ h.diagram.classes := by
  obtain ⟨id, hid, hclass⟩ := Option.bind_eq_some_iff.1 hp
  obtain ⟨hid, -⟩ := Option.filter_eq_some_iff.1 hid
  refine ⟨?_, Diagram.mem_of_classById hclass⟩
  rw [hid, Diagram.id_of_classById hclass]

/-- Along a run of pointers there is a run of parents, which may be shorter. -/
theorem exists_ascends {id : String} {ids : List String} (hids : h.forest.Climbs id ids)
    {c : ClassNode} (hc : c.id = id) : ∃ path, h.Ascends c path ∧ path.map (·.id) <+: ids := by
  induction hids generalizing c with
  | top hnone =>
    subst hc
    exact ⟨[], .top (by simp [parentOf, hnone]), List.nil_prefix⟩
  | step hsome _ ih =>
    subst hc
    cases hp : h.parentOf c with
    | none => exact ⟨[], .top hp, List.nil_prefix⟩
    | some p =>
      have hparent := (parentOf_eq_some hp).1
      rw [hsome, Option.some.injEq] at hparent
      obtain ⟨path, hpath, hpre⟩ := ih hparent.symm
      refine ⟨p :: path, .step hp hpath, ?_⟩
      rw [List.map_cons, hparent]
      exact List.cons_prefix_cons.2 ⟨rfl, hpre⟩

/-- The classes that are collected have ids that are met along the pointers. -/
theorem WellFormed.map_id_ancestors (hh : h.WellFormed) (c : ClassNode) :
    h.Ascends c (h.ancestors c) ∧
      (h.ancestors c).map (·.id) <+: h.forest.ancestorIds c.id := by
  have hids := hh.climbs_ancestorIds c.id
  obtain ⟨path, hpath, hpre⟩ := exists_ascends hids rfl
  have hle : path.length ≤ h.forest.links.length := by
    have hpathLe := hpre.length_le
    have hidsLe := hids.length_le
    rw [List.length_map] at hpathLe
    omega
  rw [ancestors, hpath.climb_eq hle]
  exact ⟨hpath, hpre⟩

/-- The loop that collects the ancestors of a class ends with them. -/
theorem WellFormed.ascends_ancestors (hh : h.WellFormed) (c : ClassNode) :
    h.Ascends c (h.ancestors c) :=
  (hh.map_id_ancestors c).1

theorem WellFormed.ancestors_of_top (hh : h.WellFormed) {c : ClassNode}
    (hc : h.parentOf c = none) : h.ancestors c = [] :=
  (hh.ascends_ancestors c).det (.top hc)

theorem WellFormed.ancestors_of_parent (hh : h.WellFormed) {c p : ClassNode}
    (hc : h.parentOf c = some p) : h.ancestors c = p :: h.ancestors p :=
  (hh.ascends_ancestors c).det (.step hc (hh.ascends_ancestors p))

/-- No class is met twice, and none comes back to where it started. -/
theorem WellFormed.nodup_ids (hh : h.WellFormed) (c : ClassNode) :
    (c.id :: (h.ancestors c).map (·.id)).Nodup := by
  refine (hh.climbs_ancestorIds c.id).nodup.sublist ?_
  exact (List.cons_prefix_cons.2 ⟨rfl, (hh.map_id_ancestors c).2⟩).sublist

theorem Ascends.mem_classes {c a : ClassNode} {path : List ClassNode} (hpath : h.Ascends c path)
    (ha : a ∈ path) : a ∈ h.diagram.classes := by
  induction hpath with
  | top => cases ha
  | step hc _ ih =>
    rcases List.mem_cons.1 ha with rfl | ha
    · exact (parentOf_eq_some hc).2
    · exact ih ha

theorem WellFormed.mem_classes (hh : h.WellFormed) {c a : ClassNode} (ha : a ∈ h.ancestors c) :
    a ∈ h.diagram.classes :=
  (hh.ascends_ancestors c).mem_classes ha

theorem Ascends.parentOf_last {c : ClassNode} {path : List ClassNode} (hpath : h.Ascends c path) :
    h.parentOf (path.getLast?.getD c) = none := by
  induction hpath with
  | top hc => exact hc
  | step _ _ ih =>
    rw [List.getLast?_cons, Option.getD_some]
    exact ih

/-- The class at the top of a chain has no parent. -/
theorem WellFormed.parentOf_root (hh : h.WellFormed) (c : ClassNode) :
    h.parentOf (h.root c) = none :=
  (hh.ascends_ancestors c).parentOf_last

/-- The class at the top of a chain is the class itself or one of its ancestors. -/
theorem root_mem_chain (c : ClassNode) : h.root c ∈ h.chain c := by
  unfold root chain
  cases hlast : (h.ancestors c).getLast? with
  | none => simp
  | some a => simp [List.mem_of_getLast? hlast]

theorem WellFormed.mem_classes_of_mem_chain (hh : h.WellFormed) {c a : ClassNode}
    (hc : c ∈ h.diagram.classes) (ha : a ∈ h.chain c) : a ∈ h.diagram.classes := by
  rcases List.mem_append.1 ha with ha | ha
  · exact hh.mem_classes (List.mem_reverse.1 ha)
  · rw [List.mem_singleton.1 ha]
    exact hc

theorem WellFormed.root_mem (hh : h.WellFormed) {c : ClassNode} (hc : c ∈ h.diagram.classes) :
    h.root c ∈ h.diagram.classes :=
  hh.mem_classes_of_mem_chain hc (root_mem_chain c)

/-- A chain starts with the class at its top. -/
theorem head?_chain (c : ClassNode) : (h.chain c).head? = some (h.root c) := by
  rw [chain, root, List.head?_append, List.head?_reverse]
  cases (h.ancestors c).getLast? <;> rfl

theorem mem_chain {c a : ClassNode} : a ∈ h.chain c ↔ a ∈ h.ancestors c ∨ a = c := by
  rw [chain, List.mem_append, List.mem_reverse, List.mem_singleton]

/-- Every class that is met is an ancestor of those that are met before it. -/
theorem WellFormed.pairwise_ancestors (hh : h.WellFormed) (c : ClassNode) :
    (c :: h.ancestors c).Pairwise fun a b => b ∈ h.ancestors a := by
  have hpath := hh.ascends_ancestors c
  generalize h.ancestors c = path at hpath
  induction hpath with
  | top => exact List.pairwise_singleton _ _
  | step hc rest ih =>
    refine List.pairwise_cons.2 ⟨fun b hb => ?_, ih⟩
    rw [(hh.ascends_ancestors _).det (.step hc rest)]
    exact hb

/-- The ancestors of an ancestor are ancestors. -/
theorem WellFormed.ancestors_subset (hh : h.WellFormed) {c a : ClassNode}
    (ha : a ∈ h.ancestors c) : h.ancestors a ⊆ h.ancestors c := by
  have hpath := hh.ascends_ancestors c
  generalize h.ancestors c = path at hpath ha
  induction hpath with
  | top => cases ha
  | @step c p path _ rest ih =>
    rcases List.mem_cons.1 ha with rfl | ha
    · rw [(hh.ascends_ancestors a).det rest]
      exact List.subset_cons_self _ _
    · exact List.Subset.trans (ih ha) (List.subset_cons_self _ _)

/-- Of two classes of a chain, one is an ancestor of the other, or they are the same. -/
theorem WellFormed.comparable (hh : h.WellFormed) {c p q : ClassNode} (hp : p ∈ h.chain c)
    (hq : q ∈ h.chain c) : p ∈ h.ancestors q ∨ q ∈ h.ancestors p ∨ p = q := by
  have hpath : ∀ a ∈ h.chain c, a ∈ c :: h.ancestors c := fun a ha =>
    List.mem_cons.2 (mem_chain.1 ha).symm
  have hsymm : Std.Symm fun p q => p ∈ h.ancestors q ∨ q ∈ h.ancestors p ∨ p = q := by
    refine ⟨fun p q hpq => ?_⟩
    rcases hpq with hpq | hpq | hpq
    · exact .inr (.inl hpq)
    · exact .inl hpq
    · exact .inr (.inr hpq.symm)
  have hpairs : (c :: h.ancestors c).Pairwise
      fun p q => p ∈ h.ancestors q ∨ q ∈ h.ancestors p ∨ p = q :=
    (hh.pairwise_ancestors c).imp fun hmem => .inr (.inl hmem)
  exact hpairs.forall_of_forall (fun _ _ => .inr (.inr rfl)) (hpath p hp) (hpath q hq)

/-- A class of the diagram has fewer ancestors than there are ids of classes. -/
theorem WellFormed.length_ancestors_lt (hh : h.WellFormed) {c : ClassNode}
    (hc : c ∈ h.diagram.classes) :
    (h.ancestors c).length < ((h.diagram.classes.map (·.id)).dedup).length := by
  have hsub : c.id :: (h.ancestors c).map (·.id) ⊆ (h.diagram.classes.map (·.id)).dedup := by
    intro id hid
    rw [List.mem_dedup]
    rcases List.mem_cons.1 hid with rfl | hid
    · exact List.mem_map_of_mem hc
    · obtain ⟨a, ha, rfl⟩ := List.mem_map.1 hid
      exact List.mem_map_of_mem (hh.mem_classes ha)
  have hle := ((hh.nodup_ids c).subperm hsub).length_le
  rw [List.length_cons, List.length_map] at hle
  omega

/-- A pointer of a class is a parent of it, if no id of a class is empty. -/
theorem WellFormed.exists_parentOf (hh : h.WellFormed)
    (hids : ∀ c ∈ h.diagram.classes, c.id ≠ "") {c : ClassNode} {id : String}
    (hc : h.forest.parentId c.id = some id) : ∃ p, h.parentOf c = some p ∧ p.id = id := by
  have hparent : (h.diagram.classById id).isSome :=
    (hh.ends _ (Forest.mem_links_of_parentId hc)).2
  obtain ⟨p, hp⟩ := Option.isSome_iff_exists.1 hparent
  obtain rfl := Diagram.id_of_classById hp
  have hne : p.id ≠ "" := hids p (Diagram.mem_of_classById hp)
  exact ⟨p, by simp [parentOf, hc, Option.filter, hne, hp], rfl⟩

theorem WellFormed.isSome_parentOf (hh : h.WellFormed)
    (hids : ∀ c ∈ h.diagram.classes, c.id ≠ "") (c : ClassNode) :
    (h.parentOf c).isSome ↔ h.isChild c = true := by
  constructor
  · intro hp
    obtain ⟨p, hp⟩ := Option.isSome_iff_exists.1 hp
    simp [isChild, Forest.isChild, (parentOf_eq_some hp).1]
  · intro hchild
    obtain ⟨id, hid⟩ := Option.isSome_iff_exists.1 hchild
    obtain ⟨p, hp, -⟩ := hh.exists_parentOf hids hid
    simp [hp]

theorem WellFormed.isParent_iff (hh : h.WellFormed)
    (hids : ∀ c ∈ h.diagram.classes, c.id ≠ "") (p : ClassNode) :
    h.isParent p = true ↔ ∃ c ∈ h.diagram.classes, (h.parentOf c).map (·.id) = some p.id := by
  constructor
  · intro hparent
    obtain ⟨⟨child, parent⟩, hlink, hid⟩ := List.any_eq_true.1 hparent
    obtain rfl : parent = p.id := by simpa using hid
    obtain ⟨c, hc⟩ := Option.isSome_iff_exists.1 (hh.ends _ hlink).1
    obtain rfl := Diagram.id_of_classById hc
    obtain ⟨q, hq, hqid⟩ :=
      hh.exists_parentOf hids (Forest.parentId_of_mem_links hh.children hlink)
    exact ⟨c, Diagram.mem_of_classById hc, by rw [hq, Option.map_some, hqid]⟩
  · rintro ⟨c, -, hmap⟩
    obtain ⟨q, hq, hqid⟩ := Option.map_eq_some_iff.1 hmap
    have hlink := Forest.mem_links_of_parentId (parentOf_eq_some hq).1
    exact List.any_eq_true.2 ⟨_, hlink, by simp [hqid]⟩

/-- After each of the inheritance edges of a diagram the pointers make no cycle and lead from
classes to classes, and looking for an id on the way up ends. With all edges taken, collecting
ancestors ends too: a class is no ancestor of its own, meets no ancestor twice and has fewer
ancestors than there are ids of classes; those with a parent are the children, and the parents are
what some class has as its parent. -/
theorem inheritance_sound (d : Diagram) (hids : ∀ c ∈ d.classes, c.id ≠ "") :
    (∀ edges, edges <+: d.inheritanceEdges →
      let f := Forest.addAll d {} edges
      f.Acyclic ∧ f.childIds.Nodup ∧
        (∀ link ∈ f.links,
          (∃ c ∈ d.classes, c.id = link.1) ∧ ∃ p ∈ d.classes, p.id = link.2) ∧
        ∀ start id, f.Seeks id (some start) (f.reaches start id)) ∧
    let h := (ofDiagram d).value
    (∀ c, h.Ascends c (h.ancestors c)) ∧
      (∀ c, c.id ∉ (h.ancestors c).map (·.id)) ∧
      (∀ c, ((h.ancestors c).map (·.id)).Nodup) ∧
      (∀ c ∈ d.classes, (h.ancestors c).length < ((d.classes.map (·.id)).dedup).length) ∧
      (∀ c, (h.parentOf c).isSome ↔ h.isChild c = true) ∧
      ∀ p, h.isParent p = true ↔
        ∃ c ∈ d.classes, (h.parentOf c).map (·.id) = some p.id := by
  have hclass : ∀ id, (d.classById id).isSome → ∃ c ∈ d.classes, c.id = id := by
    intro id hid
    obtain ⟨c, hc⟩ := Option.isSome_iff_exists.1 hid
    exact ⟨c, Diagram.mem_of_classById hc, Diagram.id_of_classById hc⟩
  constructor
  · intro edges _ f
    have hf : f.WellFormed d := Forest.wellFormed_addAll (Forest.wellFormed_empty d) edges
    refine ⟨hf.acyclic, hf.children, fun link hlink => ?_, hf.seeks_reaches⟩
    obtain ⟨hchild, hparent⟩ := hf.ends link hlink
    exact ⟨hclass _ hchild, hclass _ hparent⟩
  · intro h
    have hh : h.WellFormed := wellFormed_ofDiagram d
    refine ⟨hh.ascends_ancestors, fun c => ?_, fun c => ?_, fun c hc => hh.length_ancestors_lt hc,
      hh.isSome_parentOf hids, hh.isParent_iff hids⟩
    · exact (List.nodup_cons.1 (hh.nodup_ids c)).1
    · exact (List.nodup_cons.1 (hh.nodup_ids c)).2

/-- Three classes whose inheritance edges make a ring, one of them twice, and an edge to nothing. -/
def ring : Diagram where
  classes := [⟨"a", "A", [], [], none, none, ""⟩, ⟨"b", "B", [], [], none, none, ""⟩,
    ⟨"c", "C", [], [], none, none, ""⟩]
  relationships :=
    [("a", "b"), ("a", "b"), ("b", "c"), ("z", "a"), ("c", "a"), ("b", "a")].map fun (p, c) =>
      { id := p ++ c, source := p, target := c, type := inheritanceType
        sourceMultiplicity := "1", targetMultiplicity := "*" }

theorem inheritance_sound_ring :
    (∀ c ∈ ring.classes, c.id ≠ "") ∧
      (ofDiagram ring).value.forest.links = [("c", "b"), ("b", "a")] ∧
      (ofDiagram ring).value.forest.Acyclic ∧
      ∀ c ∈ ring.classes, ((ofDiagram ring).value.ancestors c).length < 3 := by
  have hids : ∀ c ∈ ring.classes, c.id ≠ "" := by decide
  obtain ⟨hsteps, -, -, -, hlength, -⟩ := inheritance_sound ring hids
  exact ⟨hids, by decide, (hsteps _ List.prefix_rfl).1, hlength⟩

end Hierarchy

end Scaffold
