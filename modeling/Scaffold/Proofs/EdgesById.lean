import Scaffold.Proofs.Agreement.Edges
import Scaffold.Proofs.EdgeIds

/-!
# Edges that are looked up by id

The kinds of edges are kept under the ids of edges. So an edge has the kind of the last edge with
its id, which also stands for it when collections are made. It is itself that edge if edges with one
id are the same (`Diagram.EdgesById`), and only then does every edge count.

A document may give one id to different connections, or give an id that is made for another
connection too. In `bookshelf` the first edge so loses its collections to the second.

Main statement: `relations_by_id`.
-/

namespace Scaffold

open Json

namespace Diagram

/-- Edges with one id are the same. -/
def EdgesById (d : Diagram) : Prop :=
  ∀ r ∈ d.relationships, ∀ r' ∈ d.relationships, r.id = r'.id → r = r'

instance (d : Diagram) : Decidable d.EdgesById :=
  inferInstanceAs <| Decidable <|
    ∀ r ∈ d.relationships, ∀ r' ∈ d.relationships, r.id = r'.id → r = r'

variable {d : Diagram} {r r' : Relationship}

theorem DistinctEdges.edgesById (hd : d.DistinctEdges) : d.EdgesById :=
  fun _ hr _ hr' hid => hd.eq_of_id hr hr' hid

/-- The edge that stands for an edge is the last one with its id. -/
theorem lastWithId_sound (hr : r ∈ d.relationships) :
    ∃ front back, d.relationships = front ++ d.lastWithId r :: back ∧
      (d.lastWithId r).id = r.id ∧ ∀ r' ∈ back, r'.id ≠ r.id := by
  cases hlast : d.relationships.reverse.find? (·.id = r.id) with
  | none =>
    exact absurd (decide_eq_true rfl) (List.find?_eq_none.1 hlast r (List.mem_reverse.2 hr))
  | some last =>
    have hsame : d.lastWithId r = last := by rw [lastWithId, hlast, Option.getD_some]
    obtain ⟨hid, behind, before, hsplit, hbehind⟩ := List.find?_eq_some_iff_append.1 hlast
    refine ⟨before.reverse, behind.reverse, ?_, ?_, fun r' hr' => ?_⟩
    · have hreverse := congrArg List.reverse hsplit
      simpa [hsame] using hreverse
    · simpa [hsame] using hid
    · simpa using hbehind r' (List.mem_reverse.1 hr')

/-- Edges with one id have the same edge that stands for them. -/
theorem lastWithId_congr (hr : r ∈ d.relationships) (hid : r.id = r'.id) :
    d.lastWithId r = d.lastWithId r' := by
  cases hlast : d.relationships.reverse.find? (·.id = r.id) with
  | none =>
    exact absurd (decide_eq_true rfl) (List.find?_eq_none.1 hlast r (List.mem_reverse.2 hr))
  | some last => rw [lastWithId, lastWithId, ← hid, hlast, Option.getD_some, Option.getD_some]

/-- Edges with one id are the same exactly if every edge stands for itself. -/
theorem edgesById_iff : d.EdgesById ↔ ∀ r ∈ d.relationships, d.lastWithId r = r := by
  constructor
  · intro hd r hr
    obtain ⟨front, back, hsplit, hid, -⟩ := lastWithId_sound hr
    exact hd _ (lastWithId_mem hr) r hr hid
  · intro hlast r hr r' hr' hid
    rw [← hlast r hr, ← hlast r' hr', lastWithId_congr hr hid]

theorem getElem?_relations (d : Diagram) (i : Nat) :
    d.relations[i]? = d.relationships[i]?.map fun r => d.classify (d.lastWithId r) :=
  List.getElem?_map

/-- Every edge has its own kind exactly if edges with one id are the same. -/
theorem getElem?_relations_iff :
    (∀ i : Nat, d.relations[i]? = d.relationships[i]?.map d.classify) ↔ d.EdgesById := by
  rw [edgesById_iff]
  constructor
  · intro hown r hr
    obtain ⟨i, hi⟩ := List.getElem?_of_mem hr
    have hsame := hown i
    rw [getElem?_relations, hi] at hsame
    have hrelationship := congrArg Relation.relationship (Option.some.inj hsame)
    rwa [relationship_classify, relationship_classify] at hrelationship
  · intro hlast i
    rw [getElem?_relations]
    refine Option.map_congr fun r hr => ?_
    rw [hlast r (List.mem_of_getElem? hr)]

/-- Every edge has a kind exactly if edges with one id are the same. -/
theorem mem_relations_iff :
    (∀ r ∈ d.relationships, ∃ relation ∈ d.relations, relation.relationship = r) ↔
      d.EdgesById := by
  rw [edgesById_iff]
  constructor
  · intro hkept r hr
    obtain ⟨relation, hrelation, hsame⟩ := hkept r hr
    obtain ⟨r', hr', rfl⟩ := List.mem_map.1 hrelation
    rw [relationship_classify] at hsame
    obtain ⟨-, -, -, hid, -⟩ := lastWithId_sound hr'
    rw [← hsame, lastWithId_congr (lastWithId_mem hr') hid]
  · intro hlast r hr
    refine ⟨_, List.mem_map_of_mem hr, ?_⟩
    rw [relationship_classify, hlast r hr]

end Diagram

/-- In the diagram of a document every edge has the kind of the last edge with its id. Every edge
has its own kind, and every edge counts, exactly if edges with one id are the same. This is so if
the ids that the document gives do not repeat, and none of them starts like an id that is made. -/
theorem relations_by_id (source : Document.Source) (d : Noted Diagram)
    (hparse : Diagram.parse source = .ok d) :
    let edges := d.value.relationships
    let relations := d.value.relations
    (∀ (i : Nat) r, edges[i]? = some r → ∃ front last back, edges = front ++ last :: back ∧
      last.id = r.id ∧ (∀ r' ∈ back, r'.id ≠ r.id) ∧
      relations[i]? = some (d.value.classify last) ∧
      (d.value.classify last).relationship = last) ∧
    ((∀ i : Nat, relations[i]? = edges[i]?.map d.value.classify) ↔ d.value.EdgesById) ∧
    ((∀ r ∈ edges, ∃ relation ∈ relations, relation.relationship = r) ↔ d.value.EdgesById) ∧
    (source.givenIds.Nodup →
      (∀ id ∈ source.givenIds, ¬Document.madeMark.toList <+: id.toList) →
      d.value.EdgesById) := by
  intro edges relations
  refine ⟨fun i r hr => ?_, Diagram.getElem?_relations_iff, Diagram.mem_relations_iff,
    fun hnodup hgiven => ?_⟩
  · obtain ⟨front, back, hsplit, hid, hback⟩ :=
      Diagram.lastWithId_sound (List.mem_of_getElem? hr)
    refine ⟨front, _, back, hsplit, hid, hback, ?_, Diagram.relationship_classify _ _⟩
    change d.value.relations[i]? = _
    rw [Diagram.getElem?_relations, hr, Option.map_some]
  · exact (Document.distinctEdges_of_parse hparse hnodup hgiven).edgesById

/-- An element for a class without attributes. -/
def bareClass (id name : String) : Value := .obj [("id", .str id), ("name", .str name)]

/-- A many-to-many connection, with an id if one is given. -/
def crossingFields (id : Option String) (source target : String) : Value :=
  .obj <| id.toList.map (fun id => ("id", .str id)) ++
    [("source", .str source), ("target", .str target), ("type", .str "many-to-many-direct"),
      ("sourceMultiplicity", .str "*"), ("targetMultiplicity", .str "*")]

/-- Authors write books and readers borrow them. -/
def bookshelf (writing borrowing : Option String) : Fields :=
  [("elements", .arr [bareClass "a" "Author", bareClass "b" "Book", bareClass "r" "Reader"]),
    ("connections", .arr [crossingFields writing "a" "b", crossingFields borrowing "r" "b"])]

theorem relations_by_id_bookshelf :
    let source := Document.Source.object (bookshelf (some "writing") none)
    source.givenIds = ["writing"] ∧ ∃ d : Noted Diagram, Diagram.parse source = .ok d ∧
      d.value.relationships.map (·.source) = ["a", "r"] ∧ d.value.EdgesById ∧
      ∀ i : Nat, d.value.relations[i]? = d.value.relationships[i]?.map d.value.classify := by
  intro source
  have hids : source.givenIds = ["writing"] := by decide +kernel
  have hsources : (Diagram.parse source).toOption.any (fun d =>
      decide (d.value.relationships.map (·.source) = ["a", "r"])) = true := by
    decide +kernel
  obtain ⟨d, hparse, hends⟩ := Except.exists_of_any hsources
  obtain ⟨-, hiff, -, hdistinct⟩ := relations_by_id source d hparse
  have hd : d.value.EdgesById := by
    refine hdistinct ?_ ?_
    · rw [hids]
      decide
    · rw [hids]
      decide
  exact ⟨hids, d, hparse, hends, hd, hiff.2 hd⟩

/-- If both edges of the bookshelf have one id, the first has the kind of the second, and authors
have no collection of books. -/
theorem not_by_id_bookshelf :
    let source := Document.Source.object (bookshelf (some "use") (some "use"))
    ∃ d : Noted Diagram, Diagram.parse source = .ok d ∧
      d.value.relationships.map (·.source) = ["a", "r"] ∧
      d.value.relations.map (·.relationship.source) = ["r", "r"] ∧
      (d.value.relations[0]? ≠ d.value.relationships[0]?.map d.value.classify) ∧
      let h := (Hierarchy.ofDiagram d.value).value
      d.value.classes.map (fun c => (c.name, (h.manyToManyLinks c).map (·.fieldName))) =
        [("Author", []), ("Book", ["readers"]), ("Reader", ["books"])] := by
  intro source
  have hfacts : (Diagram.parse source).toOption.any (fun d => decide (
      d.value.relationships.map (·.source) = ["a", "r"] ∧
      d.value.relations.map (·.relationship.source) = ["r", "r"] ∧
      (d.value.relations[0]? ≠ d.value.relationships[0]?.map d.value.classify) ∧
      d.value.classes.map (fun c => (c.name,
          ((Hierarchy.ofDiagram d.value).value.manyToManyLinks c).map (·.fieldName))) =
        [("Author", []), ("Book", ["readers"]), ("Reader", ["books"])])) = true := by
    decide +kernel
  exact Except.exists_of_any hfacts

end Scaffold
