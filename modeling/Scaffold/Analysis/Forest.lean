import Scaffold.Diagnostic
import Scaffold.Diagram.Basic

/-!
# Inheritance

The inheritance edges of a diagram make a forest of parent pointers. The end whose multiplicity is
exactly `1` is the parent and the end whose multiplicity contains `*` is the child. Edges are taken
in order: an edge is refused if its ends are unclear, if one of them is no class, if its child has
a parent already, or if it would make a class its own ancestor. Refused edges are reported, but for
those whose child has a parent.
-/

namespace Scaffold

/-- Parent pointers: pairs of a child's id and its parent's id, the newest first. -/
structure Forest where
  /-- The pointers. -/
  links : List (String × String) := []
  deriving DecidableEq

namespace Forest

/-- The id of the parent of an id. -/
def parentId (f : Forest) (id : String) : Option String := f.links.lookup id

/-- The ids that are met when at most `fuel` pointers are followed. -/
def climb (f : Forest) : Nat → String → List String
  | 0, _ => []
  | fuel + 1, id =>
    match f.parentId id with
    | none => []
    | some parent => parent :: climb f fuel parent

/-- The ids of the ancestors of an id, the nearest first. No pointer is followed twice, because
the pointers make no cycle, so there are at most as many ancestors as pointers. -/
def ancestorIds (f : Forest) (id : String) : List String := f.climb f.links.length id

/-- Whether an id is reached from another by following pointers, or is the same. -/
def reaches (f : Forest) (start id : String) : Bool := id ∈ start :: f.ancestorIds start

/-- Whether an id has a parent. -/
def isChild (f : Forest) (id : String) : Bool := (f.parentId id).isSome

/-- Whether an id is the parent of another. -/
def isParent (f : Forest) (id : String) : Bool := f.links.any (·.2 = id)

/-- The ids that have a parent. -/
def childIds (f : Forest) : List String := f.links.map (·.1)

end Forest

/-- The type of the edges that give a class its parent. -/
def inheritanceType : String := "inheritance"

/-- What becomes of an inheritance edge. -/
inductive EdgeOutcome where
  /-- The child gets the parent. -/
  | linked (child parent : String)
  /-- The multiplicities do not tell the parent from the child. -/
  | unclear
  /-- One of the ends is no class. -/
  | loose (child : String)
  /-- The child has a parent already. -/
  | settled (child : String)
  /-- The child would become its own ancestor. -/
  | cyclic (child parent : String)
  deriving DecidableEq

/-- The ids of the parent and the child of an inheritance edge, by its multiplicities. -/
def Relationship.parentAndChild? (r : Relationship) : Option (String × String) :=
  if r.sourceMultiplicity = "1" ∧ Relationship.isMany r.targetMultiplicity then
    some (r.source, r.target)
  else if r.targetMultiplicity = "1" ∧ Relationship.isMany r.sourceMultiplicity then
    some (r.target, r.source)
  else none

namespace Forest

/-- What becomes of an inheritance edge after the edges in front of it have made a forest. -/
def outcome (d : Diagram) (f : Forest) (r : Relationship) : EdgeOutcome :=
  match r.parentAndChild? with
  | none => .unclear
  | some (parent, child) =>
    if (d.classById parent).isNone ∨ (d.classById child).isNone then .loose child
    else if f.isChild child then .settled child
    else if f.reaches parent child then .cyclic child parent
    else .linked child parent

/-- The forest after an inheritance edge. -/
def add (d : Diagram) (f : Forest) (r : Relationship) : Forest :=
  match f.outcome d r with
  | .linked child parent => ⟨(child, parent) :: f.links⟩
  | _ => f

/-- The forest after some inheritance edges. -/
def addAll (d : Diagram) (f : Forest) (edges : List Relationship) : Forest :=
  edges.foldl (add d) f

/-- What becomes of some inheritance edges, each after those in front of it. -/
def outcomes (d : Diagram) (f : Forest) : List Relationship → List (Relationship × EdgeOutcome)
  | [] => []
  | r :: rest => (r, f.outcome d r) :: outcomes d (f.add d r) rest

end Forest

/-- The diagnostic for an inheritance edge that is refused. -/
def EdgeOutcome.note? (r : Relationship) : EdgeOutcome → Option Diagnostic
  | .unclear =>
    some ⟨.unclearParent r.id r.sourceMultiplicity r.targetMultiplicity, some r.source, none⟩
  | .loose child => some ⟨.looseInheritance r.id, some child, none⟩
  | .cyclic child _ => some ⟨.inheritanceCycle r.id, some child, none⟩
  | .settled _ => none
  | .linked _ _ => none

/-- The inheritance edges of a diagram, in order. -/
def Diagram.inheritanceEdges (d : Diagram) : List Relationship :=
  d.relationships.filter (·.type = inheritanceType)

/-- A diagram and the forest that its inheritance edges make. -/
structure Hierarchy where
  /-- The diagram. -/
  diagram : Diagram
  /-- The forest. -/
  forest : Forest

namespace Hierarchy

/-- The hierarchy of a diagram, and the diagnostics for the inheritance edges it refuses. -/
def ofDiagram (d : Diagram) : Noted Hierarchy :=
  ⟨⟨d, Forest.addAll d {} d.inheritanceEdges⟩,
    (Forest.outcomes d {} d.inheritanceEdges).filterMap fun p => p.2.note? p.1⟩

/-- The parent of a class; the empty id names no parent. -/
def parentOf (h : Hierarchy) (c : ClassNode) : Option ClassNode :=
  ((h.forest.parentId c.id).filter (· ≠ "")).bind h.diagram.classById

/-- The classes that are met when at most `fuel` parents are followed. -/
def climb (h : Hierarchy) : Nat → ClassNode → List ClassNode
  | 0, _ => []
  | fuel + 1, c =>
    match h.parentOf c with
    | none => []
    | some parent => parent :: h.climb fuel parent

/-- The ancestors of a class, the nearest first. There are at most as many as pointers, because
the pointers make no cycle. -/
def ancestors (h : Hierarchy) (c : ClassNode) : List ClassNode :=
  h.climb h.forest.links.length c

/-- The ancestors of a class, the farthest first, and the class itself. -/
def chain (h : Hierarchy) (c : ClassNode) : List ClassNode := (h.ancestors c).reverse ++ [c]

/-- The class at the top of a class's chain. -/
def root (h : Hierarchy) (c : ClassNode) : ClassNode := (h.ancestors c).getLast?.getD c

/-- Whether a class has a parent. -/
def isChild (h : Hierarchy) (c : ClassNode) : Bool := h.forest.isChild c.id

/-- Whether a class is the parent of another. -/
def isParent (h : Hierarchy) (c : ClassNode) : Bool := h.forest.isParent c.id

/-- Whether one of two classes is an ancestor of the other. -/
def related (h : Hierarchy) (a b : ClassNode) : Bool :=
  (h.ancestors b).any (·.id = a.id) || (h.ancestors a).any (·.id = b.id)

/-- The names of the attributes of a class's parent. -/
def parentAttributeNames (h : Hierarchy) (c : ClassNode) : List String :=
  match h.parentOf c with
  | some parent => parent.attributes.map (·.name)
  | none => []

end Hierarchy

end Scaffold
