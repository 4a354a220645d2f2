import Scaffold.Proofs.Prediction

/-!
# Pairs of many-to-many collections

A class takes its many-to-many collections from the edges one by one, and keeps the first of each
field. If ids are pairwise distinct, and collections of different classes are called differently,
both ends of an edge so make up their minds in the same way: the edge from which they take
collections of each other is the first transparent edge between them (`Diagram.pairEdge?`). One of
them takes the owning collection from it, the other the inverse one, and no other class takes any
(`mem_manyToManyLinks`).

Two classes of one name do not count as different here. Their collections are called alike, and the
first displaces the second at one end of its edge only (`displaced_twins`).

Main statement: `pairs_match`.
-/

namespace Scaffold

open Naming

/-- Without repeated keys, the last member of a list with a key is the only one. -/
theorem find?_reverse_of_nodup {α : Type} {key : α → String} {l : List α} {a : α}
    (hl : (l.map key).Nodup) (ha : a ∈ l) : l.reverse.find? (key · = key a) = some a := by
  cases hfind : l.reverse.find? (key · = key a) with
  | none =>
    exact absurd (decide_eq_true rfl) (List.find?_eq_none.1 hfind a (List.mem_reverse.2 ha))
  | some b =>
    have hb : b ∈ l := List.mem_reverse.1 (List.mem_of_find?_eq_some hfind)
    have hkey : key b = key a := by simpa using List.find?_some hfind
    rw [List.inj_on_of_nodup_map hl hb ha hkey]

namespace Diagram

/-- No two edges of a diagram have one id. -/
def DistinctEdges (d : Diagram) : Prop := (d.relationships.map (·.id)).Nodup

/-- No two classes of a diagram have one name. -/
def DistinctNames (d : Diagram) : Prop := (d.classes.map (·.name)).Nodup

/-- Classes with different names have collections with different names. -/
def DistinctCollections (d : Diagram) : Prop :=
  ∀ c ∈ d.classes, ∀ c' ∈ d.classes,
    collectionField c.name = collectionField c'.name → c.name = c'.name

instance (d : Diagram) : Decidable d.DistinctEdges :=
  inferInstanceAs (Decidable (d.relationships.map (·.id)).Nodup)

instance (d : Diagram) : Decidable d.DistinctNames :=
  inferInstanceAs (Decidable (d.classes.map (·.name)).Nodup)

instance (d : Diagram) : Decidable d.DistinctCollections :=
  inferInstanceAs <| Decidable <| ∀ c ∈ d.classes, ∀ c' ∈ d.classes,
    collectionField c.name = collectionField c'.name → c.name = c'.name

variable {d : Diagram}

theorem DistinctEdges.eq_of_id (hd : d.DistinctEdges) {r r' : Relationship}
    (hr : r ∈ d.relationships) (hr' : r' ∈ d.relationships) (hid : r.id = r'.id) : r = r' :=
  List.inj_on_of_nodup_map hd hr hr' hid

/-- A class is known by the name of its collections. -/
theorem eq_of_collectionField (hnames : d.DistinctNames) (hfields : d.DistinctCollections)
    {c c' : ClassNode} (hc : c ∈ d.classes) (hc' : c' ∈ d.classes)
    (hfield : collectionField c.name = collectionField c'.name) : c = c' :=
  List.inj_on_of_nodup_map hnames hc hc' (hfields c hc c' hc' hfield)

theorem DistinctIds.classById_eq (hd : d.DistinctIds) {c : ClassNode} (hc : c ∈ d.classes) :
    d.classById c.id = some c :=
  find?_reverse_of_nodup hd hc

/-- Without repeated ids every edge is classified for itself. -/
theorem DistinctEdges.relations_eq (hd : d.DistinctEdges) :
    d.relations = d.relationships.map d.classify := by
  refine List.map_congr_left fun r hr => ?_
  rw [lastWithId, find?_reverse_of_nodup hd hr, Option.getD_some]

theorem relationship_classify (d : Diagram) (r : Relationship) :
    (d.classify r).relationship = r := by
  unfold classify
  grind

end Diagram

/-! ## Edges between two classes -/

/-- Whether an edge leads from the one class to the other or back. -/
def Relationship.joins (r : Relationship) (a b : String) : Bool :=
  (r.source = a && r.target = b) || (r.source = b && r.target = a)

theorem Relationship.joins_comm (r : Relationship) (a b : String) : r.joins a b = r.joins b a := by
  simp only [joins, Bool.or_comm]

/-- The first transparent edge between two classes. -/
def Diagram.pairEdge? (d : Diagram) (a b : String) : Option Relationship :=
  d.relationships.find? fun r => (d.classify r).isTransparent && r.joins a b

theorem Diagram.pairEdge?_sound {d : Diagram} {a b : String} {r : Relationship}
    (hr : d.pairEdge? a b = some r) :
    r ∈ d.relationships ∧ (d.classify r).isTransparent = true ∧ r.joins a b = true := by
  have hfound := List.find?_some hr
  exact ⟨List.mem_of_find?_eq_some hr, Bool.and_eq_true_iff.1 hfound⟩

theorem Diagram.pairEdge?_comm (d : Diagram) (a b : String) :
    d.pairEdge? a b = d.pairEdge? b a := by
  simp only [pairEdge?, Relationship.joins_comm _ a b]

namespace Hierarchy

section Links

variable {d : Diagram} {c other : ClassNode} {r : Relationship}

/-- An edge gives a class a collection if it is transparent and leads to another class or comes
from there. -/
theorem pairCandidate?_eq_collection (hd : d.DistinctIds) {edge : Relationship} {l : ManyToMany} :
    pairCandidate? d c (d.classify r) = some (.collection edge l) ↔
      edge = r ∧ (d.classify r).isTransparent = true ∧
        ∃ other ∈ d.classes, c.id ≠ other.id ∧ r.joins c.id other.id = true ∧
          l = manyToManyOf c other r := by
  have hother : ∀ other ∈ d.classes, d.classById other.id = some other :=
    fun other ho => hd.classById_eq ho
  rw [pairCandidate?, Diagram.relationship_classify]
  constructor
  · intro h
    split at h
    · cases h
    · next hconcerns =>
      split at h
      · cases h
      · next hne =>
        obtain ⟨other, hclass, h⟩ := Option.map_eq_some_iff.1 h
        cases h
        have hid := Diagram.id_of_classById hclass
        have hends : (d.classify r).isTransparent = true ∧
            (c.id = r.source ∨ c.id = r.target) := by grind
        refine ⟨rfl, hends.1, other, Diagram.mem_of_classById hclass, ?_, ?_, rfl⟩
        · grind [Relationship.otherEnd]
        · grind [Relationship.otherEnd, Relationship.joins]
  · rintro ⟨rfl, htransparent, other, ho, hne, hjoins, rfl⟩
    grind [Relationship.otherEnd, Relationship.joins]

/-- What an edge gives a class competes with the collection of another class exactly if the edge is
transparent and joins the two. -/
theorem competes_iff (hd : d.DistinctIds) (hnames : d.DistinctNames)
    (hfields : d.DistinctCollections) (ho : other ∈ d.classes) (hne : c.id ≠ other.id) :
    ((pairCandidate? d c (d.classify r)).any
        (·.field? = some (collectionField other.name)) : Bool) =
      ((d.classify r).isTransparent && r.joins c.id other.id) := by
  rw [Bool.eq_iff_iff, Option.any_eq_true, Bool.and_eq_true]
  constructor
  · rintro ⟨candidate, hcandidate, hfield⟩
    cases candidate with
    | loop => cases of_decide_eq_true hfield
    | collection edge l =>
      obtain ⟨-, htransparent, other', ho', -, hjoins, rfl⟩ :=
        (pairCandidate?_eq_collection hd).1 hcandidate
      have hsame : other' = other :=
        Diagram.eq_of_collectionField hnames hfields ho' ho
          (Option.some.inj (of_decide_eq_true hfield))
      exact ⟨htransparent, hsame ▸ hjoins⟩
  · rintro ⟨htransparent, hjoins⟩
    exact ⟨.collection r (manyToManyOf c other r),
      (pairCandidate?_eq_collection hd).2 ⟨rfl, htransparent, other, ho, hne, hjoins, rfl⟩,
      decide_eq_true rfl⟩

/-- The collections that a class can have: one for each class to which there is an edge, from the
first of these edges. -/
theorem mem_manyToManyLinks {h : Hierarchy} (hd : h.diagram.DistinctIds)
    (hedges : h.diagram.DistinctEdges) (hnames : h.diagram.DistinctNames)
    (hfields : h.diagram.DistinctCollections) (hc : c ∈ h.diagram.classes) {l : ManyToMany} :
    l ∈ h.manyToManyLinks c ↔
      ∃ other ∈ h.diagram.classes, c.id ≠ other.id ∧
        ∃ r, h.diagram.pairEdge? c.id other.id = some r ∧ l = manyToManyOf c other r := by
  have hkept : ∀ edge, .collection edge l ∈ pairCandidates h.diagram c ↔
      ∃ r, h.diagram.relationships.find? (fun r =>
          (pairCandidate? h.diagram c (h.diagram.classify r)).any
            (·.field? = some l.fieldName)) = some r ∧
        pairCandidate? h.diagram c (h.diagram.classify r) = some (.collection edge l) := by
    intro edge
    have hfield : (PairCandidate.collection edge l).field? = some l.fieldName := rfl
    rw [pairCandidates, mem_keepFirst hfield, hedges.relations_eq, List.filterMap_map,
      List.find?_filterMap, Option.bind_eq_some_iff]
    rfl
  rw [manyToManyLinks, representative_eq hd hc]
  constructor
  · intro hl
    obtain ⟨candidate, hcandidate, hl⟩ := List.mem_filterMap.1 hl
    cases candidate with
    | loop => cases hl
    | collection edge link =>
      cases hl
      obtain ⟨r, hfirst, hr⟩ := (hkept edge).1 hcandidate
      obtain ⟨-, -, other, ho, hne, -, rfl⟩ := (pairCandidate?_eq_collection hd).1 hr
      refine ⟨other, ho, hne, r, ?_, rfl⟩
      rw [Diagram.pairEdge?, ← hfirst]
      congr 1
      funext r'
      exact (competes_iff hd hnames hfields ho hne).symm
  · rintro ⟨other, ho, hne, r, hr, rfl⟩
    refine List.mem_filterMap.2
      ⟨.collection r (manyToManyOf c other r), (hkept r).2 ⟨r, ?_, ?_⟩, rfl⟩
    · rw [← hr, Diagram.pairEdge?]
      congr 1
      funext r'
      exact competes_iff hd hnames hfields ho hne
    · obtain ⟨-, htransparent, hjoins⟩ := Diagram.pairEdge?_sound hr
      exact (pairCandidate?_eq_collection hd).2 ⟨rfl, htransparent, other, ho, hne, hjoins, rfl⟩

end Links

/-! ## Both ends of an edge -/

section Kept

variable {h : Hierarchy} {table : List (String × Members)} {c : ClassNode}

/-- An inverse collection is mapped by the field that the other class calls after its own. -/
theorem mappedBy_eq {related : ClassNode} {r : Relationship} {mappedBy : String}
    (hinverse : (manyToManyOf c related r).pairEnd = .inverse mappedBy) :
    mappedBy = collectionField c.name := by
  unfold manyToManyOf at hinverse
  grind

/-- An inverse collection that is kept has an owning collection of the name that it is mapped by. -/
theorem owner_of_kept {l : ManyToMany} {mappedBy : String}
    (hinverse : l.pairEnd = .inverse mappedBy) (hkept : h.ownerObstacle? table l = none) :
    ∃ o ∈ h.freeManyToMany table l.related, o.isOwner = true ∧ o.fieldName = mappedBy := by
  simp only [ownerObstacle?, hinverse] at hkept
  split at hkept
  · next hany => simpa [List.any_eq_true] using hany
  · cases hkept

theorem related_mem {l : ManyToMany} (hl : l ∈ h.manyToMany table c) :
    l.related ∈ h.diagram.classes :=
  (fieldName_manyToMany (List.mem_filter.1 (List.mem_filter.1 hl).1).1).1

/-- An owning collection needs no other end. -/
theorem mem_manyToMany_of_owner {o : ManyToMany} (ho : o ∈ h.freeManyToMany table c)
    (howner : o.isOwner = true) : o ∈ h.manyToMany table c := by
  refine List.mem_filter.2 ⟨ho, ?_⟩
  unfold ownerObstacle?
  unfold ManyToMany.isOwner at howner
  grind

end Kept

section Ends

variable {h : Hierarchy} (hd : h.diagram.DistinctIds) (hedges : h.diagram.DistinctEdges)
  (hnames : h.diagram.DistinctNames) (hfields : h.diagram.DistinctCollections) {c : ClassNode}
  {r : Relationship} {l : ManyToMany}
include hd hedges hnames hfields

/-- A collection with the id of an edge is what the edge gives the class, and the edge is the first
transparent one to the related class. -/
theorem eq_of_relationshipId (hc : c ∈ h.diagram.classes) (hl : l ∈ h.manyToManyLinks c)
    (hr : r ∈ h.diagram.relationships) (hid : l.relationshipId = r.id) :
    l.related ∈ h.diagram.classes ∧ c.id ≠ l.related.id ∧
      h.diagram.pairEdge? c.id l.related.id = some r ∧ l = manyToManyOf c l.related r := by
  obtain ⟨other, ho, hne, r', hr', rfl⟩ :=
    (mem_manyToManyLinks hd hedges hnames hfields hc).1 hl
  obtain rfl := hedges.eq_of_id (Diagram.pairEdge?_sound hr').1 hr hid
  exact ⟨ho, hne, hr', rfl⟩

/-- The one collection that a class takes from the first transparent edge to another class. -/
theorem links_of_pairEdge (hc : c ∈ h.diagram.classes) {other : ClassNode}
    (ho : other ∈ h.diagram.classes) (hne : c.id ≠ other.id)
    (hr : h.diagram.pairEdge? c.id other.id = some r) :
    (h.manyToManyLinks c).filter (·.relationshipId = r.id) = [manyToManyOf c other r] := by
  have hnodup : (h.manyToManyLinks c).Nodup :=
    List.Nodup.of_map _ (nodup_manyToMany h (h.representative c))
  refine List.perm_singleton.1 <|
    (List.perm_ext_iff_of_nodup (hnodup.filter _) (List.nodup_singleton _)).2 fun l => ?_
  rw [List.mem_filter, List.mem_singleton, decide_eq_true_eq]
  obtain ⟨hmem, -, hjoins⟩ := Diagram.pairEdge?_sound hr
  constructor
  · rintro ⟨hl, hid⟩
    obtain ⟨hrelated, hne', hr', heq⟩ :=
      eq_of_relationshipId hd hedges hnames hfields hc hl hmem hid
    have hjoins' := (Diagram.pairEdge?_sound hr').2.2
    have hsame : l.related.id = other.id := by grind [Relationship.joins]
    rwa [hd.eq_of_id hrelated ho hsame] at heq
  · rintro rfl
    exact ⟨(mem_manyToManyLinks hd hedges hnames hfields hc).2 ⟨other, ho, hne, r, hr, rfl⟩, rfl⟩

/-- Only the classes at the ends of an edge take a collection from it, and only if it is the first
transparent edge between the two. -/
theorem pairEdge?_of_link (hc : c ∈ h.diagram.classes) (hl : l ∈ h.manyToManyLinks c)
    (hr : r ∈ h.diagram.relationships) (hid : l.relationshipId = r.id) :
    (c.id = r.source ∨ c.id = r.target) ∧ r.source ≠ r.target ∧
      h.diagram.pairEdge? r.source r.target = some r := by
  obtain ⟨-, hne, hr, -⟩ := eq_of_relationshipId hd hedges hnames hfields hc hl hr hid
  have hjoins := (Diagram.pairEdge?_sound hr).2.2
  simp only [Relationship.joins, Bool.or_eq_true, Bool.and_eq_true, decide_eq_true_eq] at hjoins
  rcases hjoins with ⟨hsource, htarget⟩ | ⟨hsource, htarget⟩
  · rw [hsource, htarget]
    exact ⟨.inl rfl, hne, hr⟩
  · rw [hsource, htarget, Diagram.pairEdge?_comm]
    exact ⟨.inr rfl, hne.symm, hr⟩

/-- The owning collection that an inverse one is mapped by is from the same edge, if the class
declares it. -/
theorem owner_of_inverse {table : List (String × Members)} (hc : c ∈ h.diagram.classes)
    (hl : l ∈ h.manyToMany table c) {mappedBy : String} (hinverse : l.pairEnd = .inverse mappedBy) :
    ∃ o ∈ h.manyToMany table l.related, o.isOwner = true ∧ o.related = c ∧
      o.fieldName = mappedBy ∧ o.relationshipId = l.relationshipId := by
  obtain ⟨hfree, hkept⟩ := List.mem_filter.1 hl
  obtain ⟨o, hofree, howner, hfield⟩ := owner_of_kept hinverse (Option.isNone_iff_eq_none.1 hkept)
  obtain ⟨other, ho, -, r, hr, rfl⟩ :=
    (mem_manyToManyLinks hd hedges hnames hfields hc).1 (List.mem_filter.1 hfree).1
  obtain ⟨other', ho', -, r', hr', rfl⟩ :=
    (mem_manyToManyLinks hd hedges hnames hfields ho).1 (List.mem_filter.1 hofree).1
  obtain rfl : other' = c := by
    refine Diagram.eq_of_collectionField hnames hfields ho' hc (hfield.trans ?_)
    exact mappedBy_eq hinverse
  obtain rfl : r' = r := by
    rw [Diagram.pairEdge?_comm, hr] at hr'
    exact (Option.some.inj hr').symm
  exact ⟨_, mem_manyToMany_of_owner hofree howner, howner, rfl, hfield, rfl⟩

end Ends

end Hierarchy

/-- The many-to-many collections that are predicted for a class. -/
theorem Context.manyToMany_build {d : Diagram} (hd : d.DistinctIds) (basePackage : String)
    (queryLimit : Int) {c : ClassNode} (hc : c ∈ d.classes) :
    let ctx := (build d basePackage queryLimit).value
    (ctx.prediction c).manyToMany = ctx.hierarchy.manyToMany ctx.members c := by
  intro ctx
  rw [prediction_build hd basePackage queryLimit hc, Hierarchy.predict]

/-- In a diagram without repeated ids, whose classes have different names and collections with
different names, the first transparent edge between two classes gives the class at its source the
owning collection and the class at its target the inverse one, each of them once, and nothing to
any other class. No other edge gives a collection to any class. An inverse collection that is
predicted has its own owning collection, which is predicted too. -/
theorem pairs_match (d : Diagram) (hd : d.DistinctIds) (hedges : d.DistinctEdges)
    (hnames : d.DistinctNames) (hfields : d.DistinctCollections) (basePackage : String)
    (queryLimit : Int) :
    let h := (Hierarchy.ofDiagram d).value
    let ctx := (Context.build d basePackage queryLimit).value
    (∀ s ∈ d.classes, ∀ t ∈ d.classes, ∀ r, s.id ≠ t.id → d.pairEdge? s.id t.id = some r →
      r.source = s.id →
        (h.manyToManyLinks s).filter (·.relationshipId = r.id) =
          [{ owner := s, related := t, fieldName := collectionField t.name,
             pairEnd := .owner (Hierarchy.joinTableOf s t), relationshipId := r.id }] ∧
        (h.manyToManyLinks t).filter (·.relationshipId = r.id) =
          [{ owner := t, related := s, fieldName := collectionField s.name,
             pairEnd := .inverse (collectionField t.name), relationshipId := r.id }] ∧
        ∀ c ∈ d.classes, c ≠ s → c ≠ t → ∀ l ∈ h.manyToManyLinks c, l.relationshipId ≠ r.id) ∧
    (∀ r ∈ d.relationships,
      (d.classify r).isTransparent = false ∨ r.source = r.target ∨
        d.pairEdge? r.source r.target ≠ some r →
      ∀ c ∈ d.classes, ∀ l ∈ h.manyToManyLinks c, l.relationshipId ≠ r.id) ∧
    ∀ c ∈ d.classes, ∀ l ∈ (ctx.prediction c).manyToMany, ∀ mappedBy,
      l.pairEnd = .inverse mappedBy →
        ∃ o ∈ (ctx.prediction l.related).manyToMany, o.isOwner = true ∧ o.related = c ∧
          o.fieldName = mappedBy ∧ o.relationshipId = l.relationshipId := by
  intro h ctx
  refine ⟨fun s hs t ht r hne hr hsource => ?_, fun r hr hother c hc l hl hid => ?_,
    fun c hc l hl mappedBy hinverse => ?_⟩
  · obtain ⟨hmem, -, hjoins⟩ := Diagram.pairEdge?_sound hr
    have htarget : r.target = t.id := by grind [Relationship.joins]
    refine ⟨?_, ?_, fun c hc hcs hct l hl hid => ?_⟩
    · rw [Hierarchy.links_of_pairEdge (h := h) hd hedges hnames hfields hs ht hne hr,
        Hierarchy.manyToManyOf, if_pos hsource]
    · rw [Diagram.pairEdge?_comm] at hr
      rw [Hierarchy.links_of_pairEdge (h := h) hd hedges hnames hfields ht hs hne.symm hr,
        Hierarchy.manyToManyOf, if_neg (hsource ▸ hne)]
    · rcases (Hierarchy.pairEdge?_of_link (h := h) hd hedges hnames hfields hc hl hmem hid).1 with
        hcid | hcid
      · exact hcs (hd.eq_of_id hc hs (hcid.trans hsource))
      · exact hct (hd.eq_of_id hc ht (hcid.trans htarget))
  · obtain ⟨-, hne, hfirst⟩ :=
      Hierarchy.pairEdge?_of_link (h := h) hd hedges hnames hfields hc hl hr hid
    rcases hother with hplain | hloop | hlater
    · exact Bool.false_ne_true (hplain.symm.trans (Diagram.pairEdge?_sound hfirst).2.1)
    · exact hne hloop
    · exact hlater hfirst
  · rw [Context.manyToMany_build hd basePackage queryLimit hc] at hl
    have hrelated := Hierarchy.related_mem hl
    rw [Context.manyToMany_build hd basePackage queryLimit hrelated]
    exact Hierarchy.owner_of_inverse hd hedges hnames hfields hc hl hinverse

/-- A class of a school. -/
def member (id name : String) : ClassNode where
  id := id
  name := name

/-- An edge between many and many. -/
def crossing (id source target : String) : Relationship where
  id := id
  source := source
  target := target
  type := "many-to-many-direct"
  sourceMultiplicity := "*"
  targetMultiplicity := "0..*"

/-- Students are joined with courses twice, clubs with students once, and courses with
themselves. -/
def school : Diagram where
  classes := [member "1" "Student", member "2" "Course", member "3" "Club"]
  relationships :=
    [crossing "a" "1" "2", crossing "b" "2" "2", crossing "c" "3" "1", crossing "d" "2" "1"]

theorem pairs_match_school :
    school.DistinctIds ∧ school.DistinctEdges ∧ school.DistinctNames ∧
      school.DistinctCollections ∧
      let h := (Hierarchy.ofDiagram school).value
      let ctx := (Context.build school "app" 3).value
      (h.manyToManyLinks (member "1" "Student")).map (fun l => (l.relationshipId, l.isOwner)) =
        [("a", true), ("c", false)] ∧
      (∀ c ∈ school.classes, ∀ l ∈ h.manyToManyLinks c, l.relationshipId ≠ "d") ∧
      ∃ o ∈ (ctx.prediction (member "3" "Club")).manyToMany,
        o.related = member "1" "Student" ∧ o.fieldName = "students" ∧ o.relationshipId = "c" := by
  have hd : school.DistinctIds := by decide
  have hedges : school.DistinctEdges := by decide
  have hnames : school.DistinctNames := by decide
  have hfields : school.DistinctCollections := by decide +kernel
  obtain ⟨-, hnone, howned⟩ := pairs_match school hd hedges hnames hfields "app" 3
  refine ⟨hd, hedges, hnames, hfields, by decide +kernel,
    hnone (crossing "d" "2" "1") (by decide) (.inr (.inr (by decide +kernel))), ?_⟩
  obtain ⟨o, ho, -, hrelated, hfield, hedge⟩ :=
    howned (member "1" "Student") (by decide)
      (Hierarchy.manyToManyOf (member "1" "Student") (member "3" "Club") (crossing "c" "3" "1"))
      (by decide +kernel) "students" (by decide +kernel)
  exact ⟨o, ho, hrelated, hfield, hedge⟩

/-- A shop has two items of one name. -/
def twins : Diagram where
  classes := [member "s" "Shop", member "a" "Item", member "b" "Item"]
  relationships := [crossing "first" "s" "a", crossing "second" "s" "b"]

/-- The first edge between a shop and the second item gives the shop nothing, since its collection
of the first item is called the same. The item keeps its end, and the predicted collection that it
is mapped by is one of the first item. -/
theorem displaced_twins :
    twins.DistinctIds ∧ twins.DistinctEdges ∧ twins.DistinctCollections ∧
      twins.pairEdge? "s" "b" = some (crossing "second" "s" "b") ∧
      let h := (Hierarchy.ofDiagram twins).value
      let ctx := (Context.build twins "app" 3).value
      (h.manyToManyLinks (member "s" "Shop")).filter (·.relationshipId = "second") = [] ∧
      Hierarchy.manyToManyOf (member "b" "Item") (member "s" "Shop") (crossing "second" "s" "b") ∈
        (ctx.prediction (member "b" "Item")).manyToMany ∧
      ∀ o ∈ (ctx.prediction (member "s" "Shop")).manyToMany, o.related ≠ member "b" "Item" := by
  have hd : twins.DistinctIds := by decide
  have hedges : twins.DistinctEdges := by decide
  have hfields : twins.DistinctCollections := by decide +kernel
  exact ⟨hd, hedges, hfields, by decide +kernel⟩

end Scaffold
