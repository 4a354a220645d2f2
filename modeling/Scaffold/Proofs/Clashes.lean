import Scaffold.Proofs.Member

/-!
# Fields of a class that clash

What is reported when the members of a class are resolved: the attributes whose field is taken, and
the references that get no id field or no id query. `Hierarchy.clashes` reads it off the members of
the class, and `Hierarchy.clashes_eq` says that it is what the resolution without a memory records.
-/

namespace Scaffold

open Naming

namespace Hierarchy

/-- The attributes of a list whose field is taken: it is one of `taken`, or that of an attribute in
front. -/
def skipped (h : Hierarchy) (c : ClassNode) : List String → List Attribute → List Attribute
  | _, [] => []
  | taken, a :: rest =>
    if h.leavesOut c a then h.skipped c taken rest
    else if h.memberField c a ∈ taken then a :: h.skipped c taken rest
    else h.skipped c (h.memberField c a :: taken) rest

/-- What is reported of an attribute whose field is taken. -/
def fieldClash (h : Hierarchy) (c : ClassNode) (a : Attribute) : Diagnostic :=
  ⟨.fieldTaken c.name a.name (h.memberField c a), some c.id, some a.name⟩

end Hierarchy

/-- What is reported of a settled reference of a class: that it has no id field, and that it has no
id query. -/
def ReferenceMember.clashes (r : ReferenceMember) (c : ClassNode) : List Diagnostic :=
  let query := r.fieldName ++ capitalize r.targetKey.fieldName
  (if r.dtoFieldName.isNone then
    [⟨.idFieldTaken c.name r.fieldName (Naming.idField r.attr.name), some c.id, some r.attr.name⟩]
  else []) ++
  if r.idField.isNone then
    [⟨.idQueryTaken c.name r.fieldName (findBy query) query, some c.id, some r.attr.name⟩]
  else []

/-- What is reported of the members of a class. -/
def Hierarchy.clashes (h : Hierarchy) (c : ClassNode) : List Diagnostic :=
  (h.skipped c (h.startMembers c).fields c.attributes).map (h.fieldClash c) ++
    (h.membersOf c).references.flatMap (·.clashes c)

namespace Hierarchy

variable {h : Hierarchy}

/-- Which attributes are skipped does not depend on the order of what is taken. -/
theorem skipped_congr (c : ClassNode) {taken taken' : List String}
    (hsame : ∀ field, field ∈ taken ↔ field ∈ taken') (l : List Attribute) :
    h.skipped c taken l = h.skipped c taken' l := by
  induction l generalizing taken taken' with
  | nil => rfl
  | cons a rest ih =>
    have hmore : ∀ field, field ∈ h.memberField c a :: taken ↔
        field ∈ h.memberField c a :: taken' := by simp [hsame]
    simp only [skipped, hsame, ih hsame, ih hmore]

/-- The attributes of a class are reported whose field is taken. -/
theorem notes_foldlM_addMember (c : ClassNode) (m : Members) (l : List Attribute) :
    (l.foldlM (h.addMember c) m).notes = (h.skipped c m.fields l).map (h.fieldClash c) := by
  induction l generalizing m with
  | nil => rfl
  | cons a rest ih =>
    rw [List.foldlM_cons, Noted.notes_bind, ih, skipped]
    by_cases hout : h.leavesOut c a = true
    · simp [addMember, hout]
    by_cases htaken : h.memberField c a ∈ m.fields
    · simp [addMember, hout, htaken, Noted.note, fieldClash]
    have hfields : (h.addMember c m a).value.fields.Perm (h.memberField c a :: m.fields) := by
      rcases fields_addMember c m a with ⟨-, hwhy⟩ | ⟨-, hperm⟩
      · exact absurd hwhy (not_or.2 ⟨hout, htaken⟩)
      · exact hperm
    have hnotes : (h.addMember c m a).notes = [] := by
      cases htarget : h.diagram.referenceTarget? a <;> simp [addMember, hout, htaken, htarget]
    rw [hnotes, if_neg hout, if_neg htaken, skipped_congr c (fun _ => hfields.mem_iff) rest]
    rfl

/-- Settled references are reported that have no id field or no id query. -/
theorem notes_settleReferences (c : ClassNode) (fields taken : List String)
    (l : List ReferenceMember) :
    (settleReferences c fields taken l).notes =
      (settleReferences c fields taken l).value.flatMap (·.clashes c) := by
  induction l generalizing taken with
  | nil => rfl
  | cons r rest ih =>
    by_cases hdto : idField r.attr.name ∈ taken <;>
      by_cases hquery : r.fieldName ++ capitalize r.targetKey.fieldName ∈ fields <;>
        simp [settleReferences, ReferenceMember.clashes, Noted.note, hdto, hquery, ih]

/-- What is reported of a class is reported of its attributes first, and then of its references. -/
theorem clashes_eq (c : ClassNode) :
    h.clashes c = (h.ownMembers c).notes ++
      (settleReferences c (h.ownMembers c).value.fields
        ((h.ownMembers c).value.scalars.map (·.fieldName) ++ h.dtoFieldsAlong (h.ancestors c))
        (h.ownMembers c).value.references).notes := by
  rw [ownMembers, notes_foldlM_addMember, notes_settleReferences]
  rfl

end Hierarchy

end Scaffold
