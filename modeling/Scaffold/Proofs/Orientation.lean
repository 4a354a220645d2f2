import Scaffold.Analysis.Relation

/-!
# Edges that are turned round

An edge has a source and a target, but the relation that it stands for has no direction. Turning an
edge round exchanges its ends with their multiplicities. Its kind is then read from the other end:
one-to-many becomes many-to-one, and all other kinds stay. The end that is many, the declared type
and the association table are the same.

This fails if nothing tells the ends apart. An edge that is many at both ends is oriented by the
class that holds a foreign key to the other. If both classes do, or neither, the edge is many-to-one
from its source, whichever end that is (`Diagram.Ambiguous`). Only a direct many-to-many edge
without foreign keys is no such edge, as it is not oriented at all.

Main statement: `relation_symmetric`.
-/

namespace Scaffold

/-- The kind of an edge, read from the target end. -/
def RelationKind.dual : RelationKind → RelationKind
  | .manyToOne => .oneToMany
  | .oneToMany => .manyToOne
  | .oneToOne => .oneToOne
  | .manyToMany => .manyToMany
  | .inheritance => .inheritance
  | .dependency => .dependency

namespace Relationship

/-- An edge with its ends exchanged, and their multiplicities with them. -/
def turned (r : Relationship) : Relationship :=
  { r with
    source := r.target
    target := r.source
    sourceMultiplicity := r.targetMultiplicity
    targetMultiplicity := r.sourceMultiplicity }

variable (r : Relationship)

@[simp] theorem source_turned : r.turned.source = r.target := rfl

@[simp] theorem target_turned : r.turned.target = r.source := rfl

@[simp] theorem isSourceMany_turned : r.turned.isSourceMany = r.isTargetMany := rfl

@[simp] theorem isTargetMany_turned : r.turned.isTargetMany = r.isSourceMany := rfl

@[simp] theorem declaredType_turned : r.turned.declaredType = r.declaredType := rfl

theorem declaredType_eq_direct_iff :
    r.declaredType = "many-to-many-direct" ↔ r.type = "many-to-many-direct" := by
  unfold declaredType relationshipTypes
  grind

/-- Edges of these types are not oriented: inheritance and dependencies. -/
def isTerminal : Bool :=
  r.declaredType ∈ ["inheritance", "implementation", "dependency"]

end Relationship

namespace Diagram

variable (d : Diagram) (r : Relationship)

theorem isKeyless_turned : d.isKeyless r.turned = d.isKeyless r := by
  simp only [isKeyless, Relationship.isSourceMany_turned, Relationship.isTargetMany_turned,
    Relationship.source_turned, Relationship.target_turned]
  grind

/-- The association table of an edge does not depend on which end is the source. -/
theorem joinTable?_turned : d.joinTable? r.turned = d.joinTable? r := by
  have hpair : ∀ source target : ClassNode,
      (fun t : AssociationTable =>
        t.referencedEntities.all (fun e => e = some target.name || e = some source.name) &&
          some target.name ∈ t.referencedEntities && some source.name ∈ t.referencedEntities) =
      fun t => t.referencedEntities.all (fun e => e = some source.name || e = some target.name) &&
          some source.name ∈ t.referencedEntities && some target.name ∈ t.referencedEntities := by
    intro source target
    funext t
    rw [Bool.and_right_comm]
    simp only [Bool.or_comm]
  unfold joinTable?
  rw [Relationship.source_turned, Relationship.target_turned]
  cases d.classById r.source <;> cases d.classById r.target <;> simp only [hpair] <;> rfl

/-- Nothing tells which end of an edge is the many one. Both are, and the classes at the ends both
hold a foreign key to each other, or neither does; and the edge is not taken for many-to-many. -/
def Ambiguous (d : Diagram) (r : Relationship) : Prop :=
  (r.isSourceMany = true ∧ r.isTargetMany = true) ∧
    (d.holdsKey r.source r.target = true ↔ d.holdsKey r.target r.source = true) ∧
    ¬(r.type = "many-to-many-direct" ∧ d.holdsKey r.source r.target = false ∧
      d.holdsKey r.target r.source = false)

instance (d : Diagram) (r : Relationship) : Decidable (d.Ambiguous r) :=
  inferInstanceAs <| Decidable <| (_ ∧ _) ∧ (_ ↔ _) ∧ ¬(_ ∧ _ ∧ _)

theorem kind_eq_manyToMany_iff :
    (d.classify r).kind = .manyToMany ↔ r.type = "many-to-many-direct" ∧ d.isKeyless r = true := by
  rw [← r.declaredType_eq_direct_iff]
  unfold classify
  grind

/-- If an edge is many at both ends and still oriented by its foreign keys, exactly one of its
classes holds one to the other. -/
theorem holdsKey_of_not_ambiguous (h : ¬d.Ambiguous r) (hsource : r.isSourceMany = true)
    (htarget : r.isTargetMany = true)
    (hdirect : ¬(r.declaredType = "many-to-many-direct" ∧ d.isKeyless r = true)) :
    d.holdsKey r.source r.target = !d.holdsKey r.target r.source := by
  rw [Bool.eq_not]
  intro hkeys
  refine h ⟨⟨hsource, htarget⟩, by rw [hkeys], fun ⟨htype, hforth, hback⟩ => hdirect ⟨?_, ?_⟩⟩
  · exact r.declaredType_eq_direct_iff.2 htype
  · simp [isKeyless, hsource, htarget, hforth, hback]

/-- Turning an edge round reads its kind from the other end, and changes nothing else. -/
theorem classify_turned (h : ¬d.Ambiguous r) : d.classify r.turned =
    { d.classify r with relationship := r.turned, kind := (d.classify r).kind.dual } := by
  unfold classify
  simp only [Relationship.declaredType_turned, Relationship.isSourceMany_turned,
    Relationship.isTargetMany_turned, Relationship.source_turned, Relationship.target_turned,
    isKeyless_turned, joinTable?_turned]
  by_cases hinherits : r.declaredType = "inheritance" ∨ r.declaredType = "implementation"
  · simp only [if_pos hinherits, RelationKind.dual]
  by_cases hdepends : r.declaredType = "dependency"
  · simp only [if_neg hinherits, if_pos hdepends, RelationKind.dual]
  by_cases hdirect : r.declaredType = "many-to-many-direct" ∧ d.isKeyless r = true
  · simp only [if_neg hinherits, if_neg hdepends, if_pos hdirect, RelationKind.dual]
  simp only [if_neg hinherits, if_neg hdepends, if_neg hdirect]
  -- What is left is an edge that is oriented by its many end.
  by_cases hsource : r.isSourceMany = true <;> by_cases htarget : r.isTargetMany = true
  case pos =>
    have hkeys := d.holdsKey_of_not_ambiguous r h hsource htarget hdirect
    by_cases hback : d.holdsKey r.target r.source = true <;>
      simp [hsource, htarget, hkeys, hback, RelationKind.dual]
  all_goals simp [hsource, htarget, RelationKind.dual]

/-- If nothing tells the ends of an edge apart, its source end is taken for the many one. -/
theorem kind_of_ambiguous {d : Diagram} {r : Relationship} (h : d.Ambiguous r)
    (hterminal : r.isTerminal = false) : (d.classify r).kind = .manyToOne := by
  obtain ⟨⟨hsource, htarget⟩, hkeys, hdirect⟩ := h
  rw [← r.declaredType_eq_direct_iff] at hdirect
  have hkeyless : ¬(r.declaredType = "many-to-many-direct" ∧ d.isKeyless r = true) := by
    simpa [isKeyless, hsource, htarget] using hdirect
  simp only [Relationship.isTerminal, List.mem_cons, List.not_mem_nil, or_false,
    decide_eq_false_iff_not, not_or] at hterminal
  obtain ⟨hinheritance, himplementation, hdependency⟩ := hterminal
  have hback : ¬(d.holdsKey r.source r.target = false ∧ d.holdsKey r.target r.source = true) :=
    fun ⟨hforth, hback⟩ => Bool.eq_false_iff.1 hforth (hkeys.2 hback)
  unfold classify
  simp only [hinheritance, himplementation, hdependency, or_self, if_false, if_neg hkeyless]
  simp [hsource, htarget, hback]

theorem Ambiguous.turned {d : Diagram} {r : Relationship} (h : d.Ambiguous r) :
    d.Ambiguous r.turned := by
  obtain ⟨hmany, hkeys, hdirect⟩ := h
  exact ⟨hmany.symm, hkeys.symm, fun ⟨htype, hforth, hback⟩ => hdirect ⟨htype, hback, hforth⟩⟩

/-- The many end is the one that the kind says. -/
theorem manySideId_eq : (d.classify r).manySideId =
    match (d.classify r).kind with
    | .oneToMany => some r.target
    | .manyToOne => some r.source
    | _ => none := by
  unfold classify
  grind

/-- An edge stands for the same relation whichever end is its source, unless nothing tells its ends
apart: its kind is read from the other end, and its many end, its declared type and its association
table are the same. If nothing tells the ends apart, the edge is many-to-one in both directions,
inheritance and dependencies aside.

The many end follows from the kind. An edge from a class to itself has one id at both ends, and so
the id alone does not tell which of them is meant. Only many-to-many edges have an association
table, and only a direct one is many-to-many: one that is many at both ends, without a foreign key
from either class to the other. -/
theorem relation_symmetric (d : Diagram) (r : Relationship) :
    (¬d.Ambiguous r → d.classify r.turned =
      { d.classify r with relationship := r.turned, kind := (d.classify r).kind.dual }) ∧
    (d.Ambiguous r → r.isTerminal = false →
      (d.classify r).kind = .manyToOne ∧ (d.classify r.turned).kind = .manyToOne) ∧
    ((d.classify r).manySideId =
      match (d.classify r).kind with
      | .oneToMany => some r.target
      | .manyToOne => some r.source
      | _ => none) ∧
    (r.source ≠ r.target →
      ((d.classify r).manySideId = some r.target ↔ (d.classify r).kind = .oneToMany) ∧
      ((d.classify r).manySideId = some r.source ↔ (d.classify r).kind = .manyToOne)) ∧
    ((d.classify r).manySideId = none ↔
      (d.classify r).kind ≠ .oneToMany ∧ (d.classify r).kind ≠ .manyToOne) ∧
    ((d.classify r).joinTable.isSome → (d.classify r).kind = .manyToMany) ∧
    ((d.classify r).kind = .manyToMany ↔
      r.type = "many-to-many-direct" ∧ (r.isSourceMany = true ∧ r.isTargetMany = true) ∧
        d.holdsKey r.source r.target = false ∧ d.holdsKey r.target r.source = false) := by
  have hmany := d.manySideId_eq r
  refine ⟨d.classify_turned r, fun h hterminal =>
    ⟨kind_of_ambiguous h hterminal, kind_of_ambiguous h.turned hterminal⟩, hmany, fun hends => ?_,
    ?_, fun htable => ?_, ?_⟩
  · rw [hmany]
    cases (d.classify r).kind <;> simp [hends, hends.symm]
  · rw [hmany]
    cases (d.classify r).kind <;> simp
  · refine Decidable.byContradiction fun hkind => ?_
    simp [joinTable_eq_none hkind] at htable
  · rw [kind_eq_manyToMany_iff]
    simp [isKeyless, and_assoc]

end Diagram

/-- Members belong to a team. -/
def club : Diagram where
  classes :=
    [{ id := "t", name := "Team" },
      { id := "m", name := "Member"
        attributes := [{ name := "team_id", type := "Long", isForeignKey := true
                         referencedEntity := some "Team" }] }]

/-- An edge from members to teams that is many at both ends. -/
def membership : Relationship where
  id := "e"
  source := "m"
  target := "t"
  sourceMultiplicity := "*"
  targetMultiplicity := "1..*"

/-- Members hold the foreign key, and are the many end in both directions. -/
theorem relation_symmetric_membership :
    ¬club.Ambiguous membership ∧ (club.classify membership).kind = .manyToOne ∧
      club.classify membership.turned =
        ⟨membership.turned, .oneToMany, "association", some "m", none⟩ := by
  have hclear : ¬club.Ambiguous membership := by decide +kernel
  have hkind : club.classify membership = ⟨membership, .manyToOne, "association", some "m", none⟩ :=
    by decide +kernel
  refine ⟨hclear, congrArg Relation.kind hkind, ?_⟩
  rw [(Diagram.relation_symmetric club membership).1 hclear, hkind]
  rfl

end Scaffold
