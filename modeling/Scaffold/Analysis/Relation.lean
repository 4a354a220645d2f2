import Scaffold.Diagnostic
import Scaffold.Diagram.Basic

/-!
# Kinds of edges

`Diagram.classify` gives an edge its kind, read from the source end. Inheritance and
implementation are final, and dependencies carry no fields. A direct many-to-many edge that is many
at both ends is many-to-many unless one of its classes holds a foreign key to the other. Every
other edge is oriented by the end that is many, and is one-to-one if neither is.

Main statement: `joinTable_eq_none` (only a many-to-many edge has an association table).
-/

namespace Scaffold

/-- The kinds of edges, read from the source end. -/
inductive RelationKind where
  /-- One instance at either end. -/
  | oneToOne
  /-- Many instances at the source end. -/
  | manyToOne
  /-- Many instances at the target end. -/
  | oneToMany
  /-- Many instances at both ends. -/
  | manyToMany
  /-- Inheritance or implementation. -/
  | inheritance
  /-- A dependency. -/
  | dependency
  deriving DecidableEq

/-- The word for a kind of edge. -/
def RelationKind.word : RelationKind → String
  | .oneToOne => "one-to-one"
  | .manyToOne => "many-to-one"
  | .oneToMany => "one-to-many"
  | .manyToMany => "many-to-many"
  | .inheritance => "inheritance"
  | .dependency => "dependency"

/-- An edge with its kind. -/
structure Relation where
  /-- The edge. -/
  relationship : Relationship
  /-- Its kind. -/
  kind : RelationKind
  /-- Its declared type, with `association` for a type that is not known. -/
  declaredType : String
  /-- The id at the end that is many, if exactly one end is taken for many. -/
  manySideId : Option String := none
  /-- The association table that realizes a many-to-many edge. -/
  joinTable : Option AssociationTable := none
  deriving DecidableEq

/-- Whether an edge is many-to-many and realized by collections at its ends. -/
def Relation.isTransparent (r : Relation) : Bool := r.kind = .manyToMany && r.joinTable.isNone

/-- The types of edges that are known. -/
def relationshipTypes : List String :=
  ["association", "aggregation", "composition", "dependency", "inheritance", "implementation",
    "many-to-many-direct"]

/-- The type of an edge, with `association` for a type that is not known. -/
def Relationship.declaredType (r : Relationship) : String :=
  if r.type ∈ relationshipTypes then r.type else "association"

namespace Diagram

/-- The association table that realizes a many-to-many edge: the one that the edge names by id or
name, or else the first whose foreign keys reference the two classes and no other. -/
def joinTable? (d : Diagram) (r : Relationship) : Option AssociationTable :=
  let named :=
    match r.associationTable with
    | some name =>
      if name = "" then none
      else d.associationTables.find? fun t => t.id = name || t.name = name
    | none => none
  match named with
  | some t => some t
  | none =>
    match d.classById r.source, d.classById r.target with
    | some source, some target =>
      d.associationTables.find? fun t =>
        t.referencedEntities.all (fun e => e = some source.name || e = some target.name) &&
          some source.name ∈ t.referencedEntities && some target.name ∈ t.referencedEntities
    | _, _ => none

/-- Whether the class at the first end holds a foreign key to the class at the second. -/
def holdsKey (d : Diagram) (start stop : String) : Bool :=
  match d.classById start, d.classById stop with
  | some a, some b => a.hasReferenceTo b.name
  | _, _ => false

/-- Whether an edge is many at both ends and its classes hold no foreign key to each other. -/
def isKeyless (d : Diagram) (r : Relationship) : Bool :=
  r.isSourceMany && r.isTargetMany && !d.holdsKey r.source r.target &&
    !d.holdsKey r.target r.source

/-- An edge with its kind. -/
def classify (d : Diagram) (r : Relationship) : Relation :=
  let declared := r.declaredType
  if declared = "inheritance" ∨ declared = "implementation" then
    { relationship := r, kind := .inheritance, declaredType := declared }
  else if declared = "dependency" then
    { relationship := r, kind := .dependency, declaredType := declared }
  else if declared = "many-to-many-direct" ∧ d.isKeyless r then
    { relationship := r, kind := .manyToMany, declaredType := declared
      joinTable := d.joinTable? r }
  else if r.isTargetMany ∧
      (!r.isSourceMany ∨ (!d.holdsKey r.source r.target ∧ d.holdsKey r.target r.source)) then
    { relationship := r, kind := .oneToMany, declaredType := declared,
      manySideId := some r.target }
  else if r.isSourceMany then
    { relationship := r, kind := .manyToOne, declaredType := declared,
      manySideId := some r.source }
  else { relationship := r, kind := .oneToOne, declaredType := declared }

theorem joinTable_eq_none {d : Diagram} {r : Relationship}
    (h : (d.classify r).kind ≠ .manyToMany) : (d.classify r).joinTable = none := by
  unfold classify at *
  grind

/-- The diagnostics for an edge: its type is not known, or it is oriented by its source end for
want of a better sign. -/
def relationNotes (d : Diagram) (r : Relationship) : List Diagnostic :=
  (if r.type ∈ relationshipTypes then []
    else [⟨.unknownType r.id r.type, some r.source, none⟩]) ++
  (if (d.classify r).kind = .manyToOne ∧ d.isKeyless r then
      [⟨.manyAtBothEnds r.id, some r.source, none⟩]
    else [])

/-- The last edge that has the id of a given edge. -/
def lastWithId (d : Diagram) (r : Relationship) : Relationship :=
  (d.relationships.reverse.find? (·.id = r.id)).getD r

/-- The edges of a diagram with their kinds, in order. Edges with one id all count as the last of
them. -/
def relations (d : Diagram) : List Relation :=
  d.relationships.map fun r => d.classify (d.lastWithId r)

end Diagram

/-- The diagnostics for the edges of a diagram, in order. -/
def Diagram.allRelationNotes (d : Diagram) : List Diagnostic :=
  d.relationships.flatMap d.relationNotes

end Scaffold
