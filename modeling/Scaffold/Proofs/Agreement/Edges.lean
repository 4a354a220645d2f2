import Scaffold.Proofs.Agreement.Hierarchy
import Scaffold.Proofs.Pairs

/-!
# Diagrams that share their edges

What an edge gives the classes at its ends depends on these classes and on the association tables.
So two diagrams with the same edges and tables, whose edges have the same classes at their ends,
have the same forest, the same parents and the same many-to-many collections: `sameParents` and
`deriveManyToMany_eq`. The second diagram may have further classes, and may have the classes in
another order.
-/

namespace Scaffold

open Naming

/-! ## One edge -/

section Edge

variable {d d' : Diagram} {r : Relationship}
  (hsource : d.classById r.source = d'.classById r.source)
  (htarget : d.classById r.target = d'.classById r.target)
include hsource htarget

/-- What becomes of an inheritance edge depends on the classes at its ends only. -/
theorem Forest.outcome_congr (f : Forest) : f.outcome d r = f.outcome d' r := by
  unfold outcome Relationship.parentAndChild?
  split_ifs
  · simp only [hsource, htarget]
  · simp only [hsource, htarget]
  · rfl

theorem Diagram.holdsKey_congr :
    d.holdsKey r.source r.target = d'.holdsKey r.source r.target ∧
      d.holdsKey r.target r.source = d'.holdsKey r.target r.source := by
  simp only [holdsKey, hsource, htarget, and_self]

/-- How an edge is classified depends on the classes at its ends and on the tables only. -/
theorem Diagram.classify_congr (htables : d.associationTables = d'.associationTables) :
    d.classify r = d'.classify r := by
  obtain ⟨hholds, hholds'⟩ := holdsKey_congr hsource htarget
  have hkeyless : d.isKeyless r = d'.isKeyless r := by
    simp only [isKeyless, hholds, hholds']
  have hjoin : d.joinTable? r = d'.joinTable? r := by
    simp only [joinTable?, hsource, htarget, htables]
  unfold classify
  rw [hkeyless, hholds, hholds', hjoin]

end Edge

/-- Edges with the same classes at their ends make the same forest. -/
theorem Forest.addAll_congr {d d' : Diagram} {edges : List Relationship}
    (hedges : ∀ r ∈ edges, d.classById r.source = d'.classById r.source ∧
      d.classById r.target = d'.classById r.target) (f : Forest) :
    addAll d f edges = addAll d' f edges := by
  induction edges generalizing f with
  | nil => rfl
  | cons r rest ih =>
    obtain ⟨⟨hsource, htarget⟩, hrest⟩ := List.forall_mem_cons.1 hedges
    have hadd : f.add d r = f.add d' r := by
      rw [add, add, outcome_congr hsource htarget]
    change addAll d (f.add d r) rest = addAll d' (f.add d' r) rest
    rw [hadd, ih hrest]

/-! ## All edges -/

namespace Diagram

/-- The edges of a diagram, where each counts as the last one with its id, are edges of it. -/
theorem lastWithId_mem {d : Diagram} {r : Relationship} (hr : r ∈ d.relationships) :
    d.lastWithId r ∈ d.relationships := by
  unfold lastWithId
  cases hlast : d.relationships.reverse.find? (·.id = r.id) with
  | none => exact hr
  | some last => exact List.mem_reverse.1 (List.mem_of_find?_eq_some hlast)

/-- Two diagrams with the same edges and tables, in which the ids of the classes of the first and
the ends of the edges stand for the same classes. -/
structure SharesEdges (d d' : Diagram) : Prop where
  /-- The edges are the same. -/
  relationships : d.relationships = d'.relationships
  /-- The tables are the same. -/
  tables : d.associationTables = d'.associationTables
  /-- The ids of classes stand for the same classes. -/
  ids : ∀ c ∈ d.classes, d.classById c.id = d'.classById c.id
  /-- Edges have the same classes at their ends. -/
  ends : ∀ r ∈ d.relationships, d.classById r.source = d'.classById r.source ∧
    d.classById r.target = d'.classById r.target

namespace SharesEdges

variable {d d' : Diagram} (hs : d.SharesEdges d')
include hs

theorem forest :
    (Hierarchy.ofDiagram d).value.forest = (Hierarchy.ofDiagram d').value.forest := by
  have hedges : d.inheritanceEdges = d'.inheritanceEdges := by
    rw [inheritanceEdges, inheritanceEdges, hs.relationships]
  change Forest.addAll d {} d.inheritanceEdges = Forest.addAll d' {} d'.inheritanceEdges
  rw [← hedges]
  exact Forest.addAll_congr (fun r hr => hs.ends r (List.mem_of_mem_filter hr)) {}

/-- Pointers lead to classes of the first diagram, so they lead to the same classes in both. -/
theorem sameParents :
    (Hierarchy.ofDiagram d).value.SameParents (Hierarchy.ofDiagram d').value where
  forest := hs.forest
  parentOf := by
    have hh := Hierarchy.wellFormed_ofDiagram d
    funext c
    rw [Hierarchy.parentOf, Hierarchy.parentOf, ← hs.forest]
    cases hparent : (Hierarchy.ofDiagram d).value.forest.parentId c.id with
    | none => rfl
    | some id =>
      have hclass : (d.classById id).isSome :=
        (hh.ends _ (Forest.mem_links_of_parentId hparent)).2
      obtain ⟨p, hp⟩ := Option.isSome_iff_exists.1 hclass
      obtain rfl := id_of_classById hp
      have hsame : (Hierarchy.ofDiagram d).value.diagram.classById p.id =
          (Hierarchy.ofDiagram d').value.diagram.classById p.id :=
        hs.ids p (mem_of_classById hp)
      by_cases hempty : p.id = ""
      · simp [Option.filter, hempty]
      · simpa [Option.filter, hempty] using hsame

theorem representative {c : ClassNode} (hc : c ∈ d.classes) :
    (Hierarchy.ofDiagram d).value.representative c =
      (Hierarchy.ofDiagram d').value.representative c :=
  congrArg (·.getD c) (hs.ids c hc)

theorem relations : d.relations = d'.relations := by
  have hlast : d.lastWithId = d'.lastWithId := by
    funext r
    rw [lastWithId, lastWithId, hs.relationships]
  rw [Diagram.relations, Diagram.relations, ← hlast, ← hs.relationships]
  refine List.map_congr_left fun r hr => ?_
  obtain ⟨hsource, htarget⟩ := hs.ends _ (lastWithId_mem hr)
  exact classify_congr hsource htarget hs.tables

/-- The edges give a class the same collections. -/
theorem pairCandidates (c : ClassNode) :
    Hierarchy.pairCandidates d c = Hierarchy.pairCandidates d' c := by
  rw [Hierarchy.pairCandidates, Hierarchy.pairCandidates, ← hs.relations]
  congr 1
  refine List.filterMap_congr fun relation hrelation => ?_
  obtain ⟨r, hr, rfl⟩ := List.mem_map.1 hrelation
  obtain ⟨hsource, htarget⟩ := hs.ends _ (lastWithId_mem hr)
  have hother : d.classById ((d.lastWithId r).otherEnd c.id) =
      d'.classById ((d.lastWithId r).otherEnd c.id) := by
    unfold Relationship.otherEnd
    split
    · exact htarget
    · exact hsource
  simp only [Hierarchy.pairCandidate?, relationship_classify, hother]

theorem deriveManyToMany (c : ClassNode) :
    (Hierarchy.ofDiagram d).value.deriveManyToMany c =
      (Hierarchy.ofDiagram d').value.deriveManyToMany c := by
  unfold Hierarchy.deriveManyToMany
  exact congrArg _ (hs.pairCandidates c)

theorem manyToManyLinks {c : ClassNode} (hc : c ∈ d.classes) :
    (Hierarchy.ofDiagram d).value.manyToManyLinks c =
      (Hierarchy.ofDiagram d').value.manyToManyLinks c := by
  rw [Hierarchy.manyToManyLinks, Hierarchy.manyToManyLinks, ← hs.representative hc,
    hs.deriveManyToMany]

end SharesEdges

end Diagram

end Scaffold
