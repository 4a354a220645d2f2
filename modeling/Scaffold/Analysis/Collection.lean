import Scaffold.Analysis.Forest
import Scaffold.Analysis.Relation
import Scaffold.Distinct
import Scaffold.Naming

/-!
# Collections

The collections that a class can have. A class has a one-to-many collection of each class with a
foreign key to it, unless one of the two is an ancestor of the other. It has a many-to-many
collection for each transparent many-to-many edge at which it stands, as the owner if it stands at
the source end. Of several collections with one field name the first counts.

Main statements: `nodup_oneToMany` and `nodup_manyToMany` (the field names are pairwise distinct),
`fieldName_oneToMany` and `fieldName_manyToMany` (they are called after classes of the diagram).
-/

namespace Scaffold

open Naming

/-- A collection of the instances whose foreign key points to the owner. -/
structure OneToMany where
  /-- The class that has the collection. -/
  owner : ClassNode
  /-- The class of the instances. -/
  related : ClassNode
  /-- The field of the collection. -/
  fieldName : String
  /-- The field of the instances that points back. -/
  mappedBy : String
  /-- The attribute that is the foreign key. -/
  foreignKey : String
  deriving DecidableEq

/-- The names that the owner of a many-to-many pair gives to the join table. -/
structure JoinTable where
  /-- The name of the table. -/
  name : String
  /-- The column that references the owner. -/
  column : String
  /-- The column that references the other class. -/
  inverseColumn : String
  deriving DecidableEq

/-- One end of a pair of many-to-many collections: the owner knows the join table, the other end
the field of the owner. -/
inductive PairEnd where
  /-- The end that owns the pair. -/
  | owner (table : JoinTable)
  /-- The other end. -/
  | inverse (mappedBy : String)
  deriving DecidableEq

/-- A many-to-many collection. -/
structure ManyToMany where
  /-- The class that has the collection. -/
  owner : ClassNode
  /-- The class of the instances. -/
  related : ClassNode
  /-- The field of the collection. -/
  fieldName : String
  /-- The end of the pair that the collection is. -/
  pairEnd : PairEnd
  /-- The id of the edge. -/
  relationshipId : String
  deriving DecidableEq

namespace ManyToMany

/-- Whether the collection owns its pair. -/
def isOwner (l : ManyToMany) : Bool :=
  match l.pairEnd with
  | .owner _ => true
  | .inverse _ => false

/-- The join table, if the collection owns its pair. -/
def joinTable? (l : ManyToMany) : Option JoinTable :=
  match l.pairEnd with
  | .owner table => some table
  | .inverse _ => none

/-- The field of the owning collection, if the collection does not own its pair. -/
def mappedBy? (l : ManyToMany) : Option String :=
  match l.pairEnd with
  | .owner _ => none
  | .inverse mappedBy => some mappedBy

end ManyToMany

namespace Hierarchy

/-! ## One-to-many collections -/

/-- The collection of the instances of a class that an owner can have. -/
def oneToManyOf? (h : Hierarchy) (owner related : ClassNode) : Option OneToMany :=
  if related.id = owner.id then none
  else
    match related.foreignKeys.find? fun a => a.referencedEntity = some owner.name with
    | none => none
    | some key =>
      if h.related owner related then none
      else
        some
          { owner := owner, related := related, fieldName := collectionField related.name,
            mappedBy := camelCase key.name, foreignKey := key.name }

/-- The one-to-many collections that a class can have. -/
def deriveOneToMany (h : Hierarchy) (c : ClassNode) : List OneToMany :=
  distinctBy (·.fieldName) (h.diagram.classes.filterMap (h.oneToManyOf? c))

/-! ## Many-to-many collections -/

/-- The names of the join table between two classes. -/
def joinTableOf (owner related : ClassNode) : JoinTable where
  name := snakeCase owner.name ++ "_" ++ snakeCase related.name
  column := snakeCase owner.name ++ "_id"
  inverseColumn := snakeCase related.name ++ "_id"

/-- The collection that an owner can have for an edge to a related class. -/
def manyToManyOf (owner related : ClassNode) (r : Relationship) : ManyToMany where
  owner := owner
  related := related
  fieldName := collectionField related.name
  pairEnd :=
    if r.source = owner.id then .owner (joinTableOf owner related)
    else .inverse (collectionField owner.name)
  relationshipId := r.id

/-- What a transparent edge at which a class stands gives it. -/
inductive PairCandidate where
  /-- A collection. -/
  | collection (edge : Relationship) (link : ManyToMany)
  /-- Nothing, because the edge leads back to the class. -/
  | loop (edge : Relationship)

/-- The field of a collection. -/
def PairCandidate.field? : PairCandidate → Option String
  | .collection _ link => some link.fieldName
  | .loop _ => none

/-- What an edge gives a class; `none` if it does not concern the class. -/
def pairCandidate? (d : Diagram) (c : ClassNode) (relation : Relation) : Option PairCandidate :=
  let r := relation.relationship
  if !relation.isTransparent || (c.id ≠ r.source && c.id ≠ r.target) then none
  else if r.source = r.target then some (.loop r)
  else (d.classById (r.otherEnd c.id)).map fun other => .collection r (manyToManyOf c other r)

/-- What the edges of a diagram give a class. -/
def pairCandidates (d : Diagram) (c : ClassNode) : List PairCandidate :=
  keepFirst PairCandidate.field? (d.relations.filterMap (pairCandidate? d c))

/-- The many-to-many collections that a class can have. -/
def deriveManyToMany (h : Hierarchy) (c : ClassNode) : List ManyToMany :=
  (pairCandidates h.diagram c).filterMap fun
    | .collection _ link => some link
    | .loop _ => none

/-- The diagnostic for what an edge gives a class: nothing, or a join table in place of an
association table that does not exist. -/
def PairCandidate.note? (c : ClassNode) : PairCandidate → Option Diagnostic
  | .loop r => some ⟨.manyToItself r.id, some c.id, none⟩
  | .collection r link =>
    match link.joinTable?, r.associationTable with
    | some table, some named =>
      if named = "" then none else some ⟨.unknownTable r.id named table.name, some c.id, none⟩
    | _, _ => none

/-- The diagnostics for the many-to-many edges of a class. -/
def pairNotes (d : Diagram) (c : ClassNode) : List Diagnostic :=
  (pairCandidates d c).filterMap (PairCandidate.note? c)

/-! ## The collections of a class -/

/-- The class that stands for all classes with one id: the last of them. -/
def representative (h : Hierarchy) (c : ClassNode) : ClassNode :=
  (h.diagram.classById c.id).getD c

/-- The one-to-many collections that the class with an id can have. -/
def oneToManyLinks (h : Hierarchy) (c : ClassNode) : List OneToMany :=
  h.deriveOneToMany (h.representative c)

/-- The many-to-many collections that the class with an id can have. -/
def manyToManyLinks (h : Hierarchy) (c : ClassNode) : List ManyToMany :=
  h.deriveManyToMany (h.representative c)

/-- The fields of all collections that the class with an id can have. -/
def collectionFields (h : Hierarchy) (c : ClassNode) : List String :=
  (h.oneToManyLinks c).map (·.fieldName) ++ (h.manyToManyLinks c).map (·.fieldName)

theorem nodup_oneToMany (h : Hierarchy) (c : ClassNode) :
    ((h.deriveOneToMany c).map (·.fieldName)).Nodup :=
  nodup_distinctBy _ _

theorem nodup_manyToMany (h : Hierarchy) (c : ClassNode) :
    ((h.deriveManyToMany c).map (·.fieldName)).Nodup := by
  have key := nodup_keys_keepFirst PairCandidate.field?
    (h.diagram.relations.filterMap (pairCandidate? h.diagram c))
  have same : (h.deriveManyToMany c).map (·.fieldName) =
      (pairCandidates h.diagram c).filterMap PairCandidate.field? := by
    simp only [deriveManyToMany, List.map_filterMap]
    congr 1
    funext x
    cases x <;> rfl
  rw [same]
  exact key

/-- A one-to-many collection is one of a class that references the owner, and is called after that
class. -/
theorem oneToManyOf?_sound {h : Hierarchy} {owner related : ClassNode} {l : OneToMany}
    (hl : h.oneToManyOf? owner related = some l) :
    l.related = related ∧ l.fieldName = collectionField related.name ∧
      related.hasReferenceTo owner.name = true := by
  unfold oneToManyOf? at hl
  split at hl
  · cases hl
  · split at hl
    · cases hl
    · next key hkey =>
      have hreference : related.hasReferenceTo owner.name = true :=
        List.any_eq_true.2
          ⟨key, List.mem_of_find?_eq_some hkey, by simpa using List.find?_some hkey⟩
      split at hl
      · cases hl
      · cases hl
        exact ⟨rfl, rfl, hreference⟩

/-- The field of a one-to-many collection is called after a class of the diagram. -/
theorem fieldName_oneToMany {h : Hierarchy} {c : ClassNode} {l : OneToMany}
    (hl : l ∈ h.oneToManyLinks c) :
    l.related ∈ h.diagram.classes ∧ l.fieldName = collectionField l.related.name := by
  obtain ⟨related, hrelated, hl⟩ := List.mem_filterMap.1 (mem_of_mem_distinctBy hl)
  obtain ⟨rfl, hfield, -⟩ := oneToManyOf?_sound hl
  exact ⟨hrelated, hfield⟩

/-- The field of a many-to-many collection is called after a class of the diagram. -/
theorem fieldName_manyToMany {h : Hierarchy} {c : ClassNode} {l : ManyToMany}
    (hl : l ∈ h.manyToManyLinks c) :
    l.related ∈ h.diagram.classes ∧ l.fieldName = collectionField l.related.name := by
  obtain ⟨candidate, hcandidate, hl⟩ := List.mem_filterMap.1 hl
  obtain ⟨relation, -, hcandidate⟩ :=
    List.mem_filterMap.1 ((keepFirst_sublist _ _).mem hcandidate)
  cases candidate with
  | loop => cases hl
  | collection edge link =>
    cases hl
    unfold pairCandidate? at hcandidate
    dsimp only at hcandidate
    split at hcandidate
    · cases hcandidate
    · split at hcandidate
      · cases hcandidate
      · obtain ⟨other, hother, hcandidate⟩ := Option.map_eq_some_iff.1 hcandidate
        cases hcandidate
        exact ⟨Diagram.mem_of_classById hother, rfl⟩

end Hierarchy

end Scaffold
