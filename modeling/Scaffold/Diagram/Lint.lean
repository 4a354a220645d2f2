import Scaffold.Diagnostic
import Scaffold.Diagram.Basic

/-!
# Lint

`Diagram.lint` reports the problems of a diagram that generation recovers from: class names that
repeat, classes without a key, foreign keys that reference nothing, edges that end at nothing, and
association tables with too few foreign keys. It does not depend on what has been reported before.
-/

namespace Scaffold

namespace Diagram

/-- The diagnostic for a class whose name the first of the classes in front of it already has. -/
def nameNotes (earlier : List ClassNode) (c : ClassNode) : List Diagnostic :=
  match earlier.find? (·.name = c.name) with
  | some first => [⟨.repeatedName c.name first.id, some c.id, none⟩]
  | none => []

/-- The diagnostic for a class without a key that cannot take one from a parent. -/
def keyNotes (childIds : List String) (c : ClassNode) : List Diagnostic :=
  if c.primaryKeys = [] ∧ c.id ∉ childIds then [⟨.missingKey c.name, some c.id, none⟩] else []

/-- The diagnostic for a foreign key that references nothing. -/
def foreignKeyNote? (d : Diagram) (c : ClassNode) (a : Attribute) : Option Diagnostic :=
  if !a.isForeignKey then none
  else
    match a.referencedEntity.filter (· ≠ "") with
    | none => some ⟨.aimlessForeignKey c.name a.name, some c.id, some a.name⟩
    | some target =>
      if (d.classByName target).isSome then none
      else some ⟨.unknownReference c.name a.name target, some c.id, some a.name⟩

/-- The diagnostics for classes that come after others. -/
def classNotes (d : Diagram) (childIds : List String) (earlier : List ClassNode) :
    List ClassNode → List Diagnostic
  | [] => []
  | c :: rest =>
    nameNotes earlier c ++ keyNotes childIds c ++ c.attributes.filterMap (d.foreignKeyNote? c) ++
      classNotes d childIds (earlier ++ [c]) rest

/-- The diagnostic for an end of an edge that is neither a class nor an association table. -/
def endNote? (d : Diagram) (r : Relationship) (place : String) : Option Diagnostic :=
  if (d.classById place).isSome ∨ d.isTable place then none
  else some ⟨.looseEnd r.id place, some place, none⟩

/-- The diagnostic for an association table with fewer than two foreign keys. -/
def tableNote? (t : AssociationTable) : Option Diagnostic :=
  if t.foreignKeys.length < 2 then
    some ⟨.fewForeignKeys t.name t.foreignKeys.length, some t.id, none⟩
  else none

/-- The problems of a diagram: of its classes, edges and association tables. Classes that are known
to have a parent take their key from it. -/
def lint (d : Diagram) (childIds : List String) : List Diagnostic :=
  d.classNotes childIds [] d.classes ++
    d.relationships.flatMap (fun r => [r.source, r.target].filterMap (d.endNote? r)) ++
    d.associationTables.filterMap tableNote?

end Diagram

end Scaffold
