import Scaffold.Proofs.Pairs
import Scaffold.Proofs.Stages

/-!
# Collections that are left out

A class can have a collection of each class that references it, and one for each transparent edge.
The analysis leaves some of them out, and reports each of these with the reason.
`Hierarchy.omissions` lists what is left out together with the collection, which the diagnostic does
not tell: two collections of a class may have one field, and then their diagnostics are equal.

The diagnostics are recorded while members are still being resolved, against the table of that
moment. By then it has all members that the decision looks at, so the reason is the one that the
final table gives (`Hierarchy.AgreeOn`). `Resolve.Tells` follows what is reported about collections
through the computation, with a rule for each way in which computations are put together.

Main statements: `collectionNotes_build` (the omissions are what is reported about collections, in
order) and `inbound_collection` (the collection of a class that references another is declared, or
reported once, unless one is an ancestor of the other).
-/

namespace Scaffold

open Naming

/-! ## Omissions -/

/-- Whether a finding is about a collection that is left out. -/
def Finding.isCollection : Finding → Bool
  | .unmappedCollection .. | .collectionTaken .. | .ownerless .. => true
  | _ => false

/-- What is reported about collections. -/
def collectionNotes (notes : List Diagnostic) : List Diagnostic :=
  notes.filter (·.finding.isCollection)

@[simp] theorem collectionNotes_append (notes notes' : List Diagnostic) :
    collectionNotes (notes ++ notes') = collectionNotes notes ++ collectionNotes notes' :=
  List.filter_append ..

theorem collectionNotes_eq_nil {notes : List Diagnostic}
    (hnotes : ∀ n ∈ notes, n.finding.isCollection = false) : collectionNotes notes = [] :=
  List.filter_eq_nil_iff.2 fun n hn => Bool.eq_false_iff.1 (hnotes n hn)

/-- A collection that a class can have. -/
inductive CollectionLink where
  /-- A one-to-many collection. -/
  | oneToMany (l : OneToMany)
  /-- A many-to-many collection. -/
  | manyToMany (l : ManyToMany)
  deriving DecidableEq

/-- The field of a collection. -/
def CollectionLink.fieldName : CollectionLink → String
  | .oneToMany l => l.fieldName
  | .manyToMany l => l.fieldName

/-- A collection that a class leaves out. -/
structure Omission where
  /-- The class. -/
  cls : ClassNode
  /-- The collection. -/
  link : CollectionLink
  /-- The reason. -/
  finding : Finding
  deriving DecidableEq

/-- The diagnostic for a collection that is left out. -/
def Omission.note (o : Omission) : Diagnostic := ⟨o.finding, some o.cls.id, some o.link.fieldName⟩

/-- The collections that a class leaves out of some, given the obstacle to each. -/
def leftOut {α : Type} (c : ClassNode) (link : α → CollectionLink) (obstacle? : α → Option Finding)
    (l : List α) : List Omission :=
  l.flatMap fun a => (obstacle? a).toList.map fun finding => ⟨c, link a, finding⟩

theorem map_note_leftOut {α : Type} (c : ClassNode) (link : α → CollectionLink)
    (obstacle? : α → Option Finding) (l : List α) :
    (leftOut c link obstacle? l).map Omission.note =
      l.flatMap fun a =>
        (obstacle? a).toList.map fun f => ⟨f, some c.id, some (link a).fieldName⟩ := by
  simp only [leftOut, List.map_flatMap, List.map_map]
  rfl

theorem mem_leftOut {α : Type} {c : ClassNode} {link : α → CollectionLink}
    {obstacle? : α → Option Finding} {l : List α} {o : Omission}
    (ho : o ∈ leftOut c link obstacle? l) : ∃ a ∈ l, o.link = link a := by
  obtain ⟨a, ha, ho⟩ := List.mem_flatMap.1 ho
  obtain ⟨finding, -, rfl⟩ := List.mem_map.1 ho
  exact ⟨a, ha, rfl⟩

namespace Hierarchy

section Omissions

variable (h : Hierarchy) (table : List (String × Members))

/-- The one-to-many collections that a class leaves out. -/
def oneToManyOmissions (c : ClassNode) : List Omission :=
  leftOut c .oneToMany (h.oneToManyObstacle? table c) (h.oneToManyLinks c)

/-- The many-to-many collections that a class leaves out, whatever the other ends do. -/
def manyToManyOmissions (c : ClassNode) : List Omission :=
  leftOut c .manyToMany (h.manyToManyObstacle? table c) (h.manyToManyLinks c)

/-- The many-to-many collections that a class leaves out for want of the other end. -/
def ownerOmissions (c : ClassNode) : List Omission :=
  leftOut c .manyToMany (h.ownerObstacle? table) (h.freeManyToMany table c)

/-- The collections that are left out, in the order in which they are reported. -/
def omissions : List Omission :=
  h.diagram.classes.flatMap
      (fun c => h.oneToManyOmissions table c ++ h.manyToManyOmissions table c) ++
    (distinctBy (·.id) h.diagram.classes).flatMap (h.ownerOmissions table)

end Omissions

variable {h : Hierarchy} {table table' : List (String × Members)} {c : ClassNode}

/-- Every obstacle to a one-to-many collection is a finding about collections. -/
theorem isCollection_oneToMany {l : OneToMany} {finding : Finding}
    (hfinding : h.oneToManyObstacle? table c l = some finding) : finding.isCollection = true := by
  unfold oneToManyObstacle? at hfinding
  split at hfinding
  · cases hfinding
    rfl
  · split at hfinding <;> cases hfinding
    rfl

theorem isCollection_manyToMany {l : ManyToMany} {finding : Finding}
    (hfinding : h.manyToManyObstacle? table c l = some finding) : finding.isCollection = true := by
  unfold manyToManyObstacle? at hfinding
  split at hfinding <;> cases hfinding
  rfl

theorem isCollection_owner {l : ManyToMany} {finding : Finding}
    (hfinding : h.ownerObstacle? table l = some finding) : finding.isCollection = true := by
  unfold ownerObstacle? at hfinding
  split at hfinding
  · cases hfinding
  · split at hfinding <;> cases hfinding
    rfl

/-- The collections for which the other end is missing are reported. -/
theorem ownerNotes_eq (h : Hierarchy) (table : List (String × Members)) (c : ClassNode) :
    h.ownerNotes table c = (h.ownerOmissions table c).map Omission.note := by
  rw [ownerNotes, ownerOmissions, List.filterMap_eq_flatMap_toList, map_note_leftOut]
  refine List.flatMap_congr fun l _ => ?_
  cases h.ownerObstacle? table l <;> rfl

theorem collectionNotes_ownerNotes (h : Hierarchy) (table : List (String × Members))
    (c : ClassNode) : collectionNotes (h.ownerNotes table c) = h.ownerNotes table c := by
  refine List.filter_eq_self.2 fun n hn => ?_
  obtain ⟨l, -, hl⟩ := List.mem_filterMap.1 hn
  obtain ⟨finding, hfinding, rfl⟩ := Option.map_eq_some_iff.1 hl
  exact isCollection_owner hfinding

/-- What is reported of the members of a class is not about collections. -/
theorem collectionNotes_clashes (h : Hierarchy) (c : ClassNode) :
    collectionNotes (h.clashes c) = [] := by
  refine collectionNotes_eq_nil fun n hn => ?_
  rcases List.mem_append.1 hn with hn | hn
  · obtain ⟨a, -, rfl⟩ := List.mem_map.1 hn
    rfl
  · obtain ⟨r, -, hn⟩ := List.mem_flatMap.1 hn
    unfold ReferenceMember.clashes at hn
    rcases List.mem_append.1 hn with hn | hn
    · split at hn
      · rw [List.mem_singleton.1 hn]
        rfl
      · cases hn
    · split at hn
      · rw [List.mem_singleton.1 hn]
        rfl
      · cases hn

/-! ## What an omission depends on -/

/-- Two tables have the same members for some classes. -/
def AgreeOn (table table' : List (String × Members)) (classes : List ClassNode) : Prop :=
  ∀ c ∈ classes, Members.inTable table c = Members.inTable table' c

theorem AgreeOn.mono {classes classes' : List ClassNode} (hagree : AgreeOn table table' classes)
    (hsub : classes' ⊆ classes) : AgreeOn table table' classes' := fun c hc => hagree c (hsub hc)

theorem takenFields_of_agree (hagree : AgreeOn table table' (c :: h.ancestors c)) :
    h.takenFields table c = h.takenFields table' c := by
  rw [takenFields, takenFields, inheritedFields, inheritedFields, hagree c List.mem_cons_self]
  congr 1
  refine List.flatMap_congr fun a ha => ?_
  rw [hagree a (List.mem_cons_of_mem c ha)]

theorem oneToManyObstacle?_of_agree {l : OneToMany}
    (hagree : AgreeOn table table' (l.related :: c :: h.ancestors c)) :
    h.oneToManyObstacle? table c l = h.oneToManyObstacle? table' c l := by
  rw [oneToManyObstacle?, oneToManyObstacle?, hagree l.related List.mem_cons_self,
    takenFields_of_agree (hagree.mono fun _ ha => List.mem_cons_of_mem _ ha)]

theorem oneToMany_of_agree
    (hagree : AgreeOn table table' (c :: h.ancestors c ++ (h.oneToManyLinks c).map (·.related))) :
    h.oneToMany table c = h.oneToMany table' c := by
  refine List.filter_congr fun l hl => ?_
  rw [oneToManyObstacle?_of_agree (hagree.mono ?_)]
  refine List.cons_subset.2 ⟨List.mem_append_right _ (List.mem_map_of_mem hl), ?_⟩
  exact List.subset_append_left _ _

theorem manyToManyObstacle?_of_agree (l : ManyToMany)
    (hagree : AgreeOn table table' (c :: h.ancestors c ++ (h.oneToManyLinks c).map (·.related))) :
    h.manyToManyObstacle? table c l = h.manyToManyObstacle? table' c l := by
  rw [manyToManyObstacle?, manyToManyObstacle?, oneToMany_of_agree hagree,
    takenFields_of_agree (hagree.mono (List.subset_append_left _ _))]

section Classes

variable (hh : h.WellFormed) (hagree : AgreeOn table table' h.diagram.classes)
include hh hagree

theorem freeManyToMany_of_agree (hc : c ∈ h.diagram.classes) :
    h.freeManyToMany table c = h.freeManyToMany table' c := by
  refine List.filter_congr fun l _ => ?_
  rw [manyToManyObstacle?_of_agree l (hagree.mono fun a ha => ?_)]
  rcases List.mem_append.1 ha with ha | ha
  · rcases List.mem_cons.1 ha with rfl | ha
    · exact hc
    · exact hh.mem_classes ha
  · obtain ⟨link, hlink, rfl⟩ := List.mem_map.1 ha
    exact (fieldName_oneToMany hlink).1

theorem ownerOmissions_of_agree (hc : c ∈ h.diagram.classes) :
    h.ownerOmissions table c = h.ownerOmissions table' c := by
  rw [ownerOmissions, ownerOmissions, freeManyToMany_of_agree hh hagree hc, leftOut, leftOut]
  refine List.flatMap_congr fun l hl => ?_
  have hrelated := (fieldName_manyToMany (List.mem_of_mem_filter hl)).1
  rw [ownerObstacle?, ownerObstacle?, freeManyToMany_of_agree hh hagree hrelated]

end Classes

end Hierarchy

namespace Resolution

/-- The members of some classes are remembered. -/
def Knows (s : Resolution) (classes : List ClassNode) : Prop := ∀ c ∈ classes, s.KnowsMembers c

/-- Where members are remembered, a table that is right is a table with the same members. -/
theorem Sound.agreeOn {h : Hierarchy} {s : Resolution} {table : List (String × Members)}
    {classes : List ClassNode} (hs : s.Sound h) (hknown : s.Knows classes)
    (hsub : classes ⊆ h.diagram.classes)
    (htable : ∀ c ∈ h.diagram.classes, Members.inTable table c = h.membersOf c) :
    Hierarchy.AgreeOn s.members table classes := fun c hc =>
  (hs.inTable (hsub hc) (hknown c hc)).trans (htable c (hsub hc)).symm

end Resolution

namespace Resolve

/-! ## What is reported about collections -/

/-- Once the members of `known` are remembered, a computation gives `a`, remembers those of `known'`
too, and reports `new` about collections and nothing else about them. -/
def Tells {α : Type} (h : Hierarchy) (known : List ClassNode) (x : Resolve α) (a : α)
    (new : List Diagnostic) (known' : List ClassNode) : Prop :=
  ∀ s₀, Meets (Resolution.Sound h) (fun s => s = s₀ ∧ s.Knows known) x fun b s =>
    b = a ∧ s.Knows known' ∧
      collectionNotes s.notes = collectionNotes s₀.notes ++ new

variable {α β : Type} {h : Hierarchy} {known known' : List ClassNode}

theorem tells_pure (a : α) : Tells h known (pure a) a [] known := fun _ =>
  meets_pure fun _ _ hs => ⟨rfl, hs.2, by rw [hs.1, List.append_nil]⟩

theorem Tells.bind {known'' : List ClassNode} {x : Resolve α} {a : α} {f : α → Resolve β} {b : β}
    {new new' : List Diagnostic} (hx : Tells h known x a new known')
    (hf : Tells h known' (f a) b new' known'') :
    Tells h known (x >>= f) b (new ++ new') known'' := by
  rintro s₀ s hs ⟨rfl, hknown⟩
  obtain ⟨hs', hkeeps, hvalue, hknown', hnew⟩ := hx s s hs ⟨rfl, hknown⟩
  rw [← hvalue] at hf
  obtain ⟨hs'', hkeeps', hvalue', hknown'', hnew'⟩ := hf _ _ hs' ⟨rfl, hknown'⟩
  refine ⟨hs'', hkeeps.trans hkeeps', hvalue', hknown'', hnew'.trans ?_⟩
  rw [hnew, List.append_assoc]

theorem Tells.bind_of_quiet {known'' : List ClassNode} {x : Resolve α} {a : α} {f : α → Resolve β}
    {b : β} {new : List Diagnostic} (hx : Tells h known x a [] known')
    (hf : Tells h known' (f a) b new known'') : Tells h known (x >>= f) b new known'' :=
  hx.bind hf

theorem Tells.bind_pure {x : Resolve α} {a : α} {new : List Diagnostic}
    (hx : Tells h known x a new known') (b : β) :
    Tells h known (x >>= fun _ => pure b) b new known' := by
  have hbind := hx.bind (f := fun _ => pure b) (tells_pure b)
  rwa [List.append_nil] at hbind

/-- What is remembered may be read, and is right. -/
theorem tells_get_bind {f : Resolution → Resolve β} {b : β} {new : List Diagnostic}
    (hf : ∀ s, s.Sound h → s.Knows known → Tells h known (f s) b new known') :
    Tells h known (get >>= f) b new known' := by
  rintro s₀ s hs ⟨rfl, hknown⟩
  exact hf s hs hknown s s hs ⟨rfl, hknown⟩

/-- What was remembered before is remembered afterwards. -/
theorem Tells.keep {x : Resolve α} {a : α} {new : List Diagnostic}
    (hx : Tells h known x a new known') : Tells h known x a new (known ++ known') := by
  rintro s₀ s hs ⟨rfl, hknown⟩
  obtain ⟨hs', hkeeps, hvalue, hknown', hnew⟩ := hx s s hs ⟨rfl, hknown⟩
  have hkept : ∀ c ∈ known, (x.run s).2.KnowsMembers c := fun c hc =>
    hkeeps.members c (hknown c hc)
  exact ⟨hs', hkeeps, hvalue, List.forall_mem_append.2 ⟨hkept, hknown'⟩, hnew⟩

theorem Tells.mono {before after : List ClassNode} {x : Resolve α} {a : α} {new : List Diagnostic}
    (hx : Tells h known x a new known') (hbefore : known ⊆ before) (hafter : after ⊆ known') :
    Tells h before x a new after := by
  rintro s₀ s hs ⟨rfl, hknown⟩
  obtain ⟨hs', hkeeps, hvalue, hknown', hnew⟩ :=
    hx s s hs ⟨rfl, fun c hc => hknown c (hbefore hc)⟩
  exact ⟨hs', hkeeps, hvalue, fun c hc => hknown' c (hafter hc), hnew⟩

/-- A loop whose steps end early nowhere reports what its steps report. -/
theorem tells_forIn {l : List α} {f : α → PUnit → Resolve (ForInStep PUnit)}
    {new : α → List Diagnostic} {more : α → List ClassNode}
    (hf : ∀ a ∈ l, Tells h known (f a ⟨⟩) (.yield ⟨⟩) (new a) (more a)) :
    Tells h known (forIn l ⟨⟩ f) ⟨⟩ (l.flatMap new) (known ++ l.flatMap more) := by
  induction l generalizing known with
  | nil => exact (tells_pure _).mono (List.Subset.refl _) (by simp)
  | cons a rest ih =>
    rw [List.forIn_cons]
    have hrest : Tells h (known ++ more a) (forIn rest ⟨⟩ f) ⟨⟩ (rest.flatMap new)
        (known ++ more a ++ rest.flatMap more) :=
      ih fun a' ha' => (hf a' (List.mem_cons_of_mem a ha')).mono (List.subset_append_left _ _)
        (List.Subset.refl _)
    refine ((hf a List.mem_cons_self).keep.bind hrest).mono (List.Subset.refl _) ?_
    rw [List.flatMap_cons, List.append_assoc]
    exact List.Subset.refl _

/-- A loop whose steps need what is known already, and find nothing else. -/
theorem tells_forIn_of_known {l : List α} {f : α → PUnit → Resolve (ForInStep PUnit)}
    {new : α → List Diagnostic}
    (hf : ∀ a ∈ l, Tells h known (f a ⟨⟩) (.yield ⟨⟩) (new a) known) :
    Tells h known (forIn l ⟨⟩ f) ⟨⟩ (l.flatMap new) known :=
  (tells_forIn hf).mono (List.Subset.refl _) (List.subset_append_left _ _)

/-- A loop whose steps report nothing. -/
theorem tells_forIn_of_quiet {l : List α} {f : α → PUnit → Resolve (ForInStep PUnit)}
    (hf : ∀ a ∈ l, Tells h known (f a ⟨⟩) (.yield ⟨⟩) [] known) :
    Tells h known (forIn l ⟨⟩ f) ⟨⟩ [] known := by
  have hloop := tells_forIn_of_known hf
  rwa [List.flatMap_eq_nil_iff.2 fun _ _ => rfl] at hloop

theorem tells_noteObstacle (c : ClassNode) (field : String) {finding : Option Finding}
    (hfinding : ∀ f, finding = some f → f.isCollection = true) :
    Tells h known (noteObstacle c field finding) ⟨⟩
      (finding.toList.map fun f => ⟨f, some c.id, some field⟩) known := by
  cases finding with
  | none => exact tells_pure _
  | some f =>
    rintro s₀ s hs ⟨rfl, hknown⟩
    refine ⟨Resolution.IgnoresNotes.with_notes s _ hs, ⟨fun _ hc => hc, fun _ hc => hc⟩, rfl,
      hknown, ?_⟩
    have hnew : collectionNotes [⟨f, some c.id, some field⟩] = [⟨f, some c.id, some field⟩] :=
      List.filter_eq_self.2 (List.forall_mem_singleton.2 (hfinding f rfl))
    exact (collectionNotes_append _ _).trans (congrArg _ hnew)

theorem tells_noted {x : Noted α} {new : List Diagnostic} (hx : collectionNotes x.notes = new) :
    Tells h known (noted x) x.value new known := by
  rintro s₀ s hs ⟨rfl, hknown⟩
  refine ⟨Resolution.IgnoresNotes.with_notes s _ hs, ⟨fun _ hc => hc, fun _ hc => hc⟩, rfl,
    hknown, ?_⟩
  exact (collectionNotes_append _ _).trans (congrArg _ hx)

section Distinct

variable (hd : h.diagram.DistinctIds) (hh : h.WellFormed) {c : ClassNode}
  (hc : c ∈ h.diagram.classes)
include hd hh hc

/-- Resolving the members of a class reports nothing about collections. -/
theorem tells_membersOf :
    Tells h known (membersOf h c) (h.membersOf c) [] (c :: h.ancestors c) := by
  rintro s₀ s hs ⟨rfl, -⟩
  obtain ⟨hs', hkeeps, hvalue, hexplores⟩ := visits_membersOf hd hh hc s s hs rfl
  obtain ⟨notes, hnotes, -⟩ := reports_membersOf (h := h) c s
  refine ⟨hs', hkeeps, hvalue, fun a ha => ?_, ?_⟩
  · have ha' : a ∈ h.diagram.classes := by
      rcases List.mem_cons.1 ha with rfl | ha
      · exact hc
      · exact hh.mem_classes ha
    exact (hexplores.known a ha').2 (.inl ha)
  -- What is added is what clashes in the classes that are new, in some order.
  have hperm := hexplores.notes
  rw [hnotes, List.perm_append_left_iff] at hperm
  have hquiet : collectionNotes notes = [] := by
    refine List.Perm.eq_nil ((hperm.filter _).trans ?_)
    rw [List.filter_flatMap]
    refine List.Perm.of_eq (List.flatMap_eq_nil_iff.2 fun a _ => ?_)
    exact h.collectionNotes_clashes a
  rw [hnotes, collectionNotes_append, hquiet]

theorem tells_primaryKey : Tells h known (primaryKey h c) (h.keyOf c) [] known := by
  rintro s₀ s hs ⟨rfl, hknown⟩
  obtain ⟨hs', hkeeps, hvalue, -⟩ := meets_primaryKey hd hh hc s hs trivial
  have hnotes := (tables_keyAlong (c :: h.ancestors c) s).1
  refine ⟨hs', hkeeps, hvalue, fun a ha => hkeeps.members a (hknown a ha), ?_⟩
  exact (congrArg collectionNotes hnotes).trans (List.append_nil _).symm

theorem tells_entityKey : Tells h known (entityKey h c) (h.entityKeyOf c) [] known :=
  tells_primaryKey hd hh (hh.root_mem hc)

end Distinct

section Table

variable (hd : h.diagram.DistinctIds) (hh : h.WellFormed) {table : List (String × Members)}
  (htable : ∀ c ∈ h.diagram.classes, Members.inTable table c = h.membersOf c) {c : ClassNode}
  (hc : c ∈ h.diagram.classes)
include hd hh htable hc

/-- The class that a one-to-many collection is of is resolved just before it is decided whether the
collection is left out. -/
theorem tells_oneToMany {l : OneToMany} (hl : l ∈ h.oneToManyLinks c) :
    Tells h (c :: h.ancestors c)
      (do
        let _ ← membersOf h l.related
        noteObstacle c l.fieldName (h.oneToManyObstacle? (← get).members c l)
        return ForInStep.yield PUnit.unit)
      (.yield ⟨⟩)
      ((h.oneToManyObstacle? table c l).toList.map fun f => ⟨f, some c.id, some l.fieldName⟩)
      [l.related] := by
  have hrelated := (Hierarchy.fieldName_oneToMany hl).1
  have hclasses : l.related :: c :: h.ancestors c ⊆ h.diagram.classes :=
    List.cons_subset.2 ⟨hrelated, List.cons_subset.2 ⟨hc, fun _ ha => hh.mem_classes ha⟩⟩
  have hnote : Tells h (l.related :: c :: h.ancestors c)
      (do
        noteObstacle c l.fieldName (h.oneToManyObstacle? (← get).members c l)
        return ForInStep.yield PUnit.unit)
      (.yield ⟨⟩)
      ((h.oneToManyObstacle? table c l).toList.map fun f => ⟨f, some c.id, some l.fieldName⟩)
      (l.related :: c :: h.ancestors c) := by
    refine tells_get_bind fun s hs hknown => Tells.bind_pure (a := ⟨⟩) ?_ _
    rw [Hierarchy.oneToManyObstacle?_of_agree (hs.agreeOn hknown hclasses htable)]
    exact tells_noteObstacle c _ fun _ => Hierarchy.isCollection_oneToMany
  refine ((tells_membersOf hd hh hrelated).keep.bind_of_quiet (hnote.mono ?_ ?_)).mono
    (List.Subset.refl _) (List.Subset.refl _)
  · exact List.cons_subset.2 ⟨List.mem_append_right _ List.mem_cons_self,
      List.subset_append_left _ _⟩
  · exact List.cons_subset.2 ⟨List.mem_cons_self, List.nil_subset _⟩

/-- Planning the collections of a class reports those that it leaves out, whatever the other ends
do. -/
theorem tells_planCollections :
    Tells h known (planCollections h c) ⟨⟩
      ((h.oneToManyOmissions table c ++ h.manyToManyOmissions table c).map Omission.note) [c] := by
  let needed := c :: h.ancestors c ++ (h.oneToManyLinks c).map (·.related)
  have hneeded : needed ⊆ h.diagram.classes := by
    refine List.append_subset.2 ⟨List.cons_subset.2 ⟨hc, fun _ ha => hh.mem_classes ha⟩, ?_⟩
    refine fun a ha => ?_
    obtain ⟨l, hl, rfl⟩ := List.mem_map.1 ha
    exact (Hierarchy.fieldName_oneToMany hl).1
  rw [List.map_append, Hierarchy.oneToManyOmissions, Hierarchy.manyToManyOmissions,
    map_note_leftOut, map_note_leftOut]
  unfold planCollections
  refine (tells_membersOf hd hh hc).bind_of_quiet
    ((tells_forIn fun l hl => tells_oneToMany hd hh htable hc hl).bind ?_)
  rw [← List.map_eq_flatMap]
  refine tells_get_bind fun s hs hknown => Tells.bind_pure (a := ⟨⟩) ?_ _
  have hagree := hs.agreeOn hknown hneeded htable
  refine (tells_forIn_of_known fun l _ => Tells.bind_pure (a := ⟨⟩) ?_ _).mono
    (List.Subset.refl _) (List.cons_subset.2 ⟨List.mem_cons_self, List.nil_subset _⟩)
  rw [Hierarchy.manyToManyObstacle?_of_agree l hagree]
  exact tells_noteObstacle c _ fun _ => Hierarchy.isCollection_manyToMany

omit hc in
/-- Resolving all classes reports the collections that are left out. -/
theorem tells_resolveAll :
    Tells h [] (Context.resolveAll h) ⟨⟩ ((h.omissions table).map Omission.note)
      h.diagram.classes := by
  rw [Hierarchy.omissions, List.map_append, List.map_flatMap, List.map_flatMap]
  unfold Context.resolveAll
  have hplan : Tells h []
      (forIn h.diagram.classes PUnit.unit fun c _ => do
        planCollections h c
        return ForInStep.yield PUnit.unit)
      ⟨⟩ _ ([] ++ h.diagram.classes.flatMap fun c => [c]) :=
    tells_forIn fun c hc => (tells_planCollections hd hh htable hc).bind_pure _
  rw [List.nil_append, List.flatMap_singleton'] at hplan
  refine hplan.bind (tells_get_bind fun s hs hknown => ?_)
  have hagree := hs.agreeOn hknown (List.Subset.refl _) htable
  rw [← List.append_nil (List.flatMap _ (distinctBy _ _))]
  refine (tells_forIn_of_known fun c hc => Tells.bind_pure (tells_noted ?_) _).bind ?_
  · rw [Hierarchy.collectionNotes_ownerNotes, Hierarchy.ownerNotes_eq,
      Hierarchy.ownerOmissions_of_agree hh hagree (mem_of_mem_distinctBy hc)]
  refine Tells.bind_of_quiet (tells_forIn_of_quiet fun c hc => ?_) ?_
  · exact (tells_entityKey hd hh hc).bind_pure _
  refine Tells.bind_pure (tells_forIn_of_quiet fun c hc => ?_) _
  exact (tells_primaryKey hd hh hc).bind_pure _

end Table

end Resolve

/-! ## A whole context -/

/-- The edges of a diagram, and the many-to-many edges of its classes, give rise to no diagnostic
about a collection that is left out. -/
theorem collectionNotes_edges (d : Diagram) :
    collectionNotes ((Hierarchy.ofDiagram d).notes ++ d.allRelationNotes ++
      d.classes.flatMap (Hierarchy.pairNotes d)) = [] := by
  refine collectionNotes_eq_nil fun n hn => ?_
  rcases List.mem_append.1 hn with hn | hn
  · rcases List.mem_append.1 hn with hn | hn
    · obtain ⟨p, -, hp⟩ := List.mem_filterMap.1 hn
      unfold EdgeOutcome.note? at hp
      grind [Finding.isCollection]
    · obtain ⟨r, -, hr⟩ := List.mem_flatMap.1 hn
      unfold Diagram.relationNotes at hr
      grind [Finding.isCollection]
  · obtain ⟨c, -, hc⟩ := List.mem_flatMap.1 hn
    obtain ⟨candidate, -, hnote⟩ := List.mem_filterMap.1 hc
    unfold Hierarchy.PairCandidate.note? at hnote
    grind [Finding.isCollection]

/-- What is reported about collections when a context is built are the collections that its classes
leave out, each with its class and its field, in order. -/
theorem collectionNotes_build {d : Diagram} (hd : d.DistinctIds) (basePackage : String)
    (queryLimit : Int) :
    let built := Context.build d basePackage queryLimit
    collectionNotes built.notes =
      (built.value.hierarchy.omissions built.value.members).map Omission.note := by
  intro built
  have htells := Resolve.tells_resolveAll hd (Hierarchy.wellFormed_ofDiagram d)
    fun c hc => Context.inTable_build hd basePackage queryLimit hc
  obtain ⟨-, -, -, -, hnotes⟩ := htells {} {} (Resolution.sound_empty _) ⟨rfl, fun _ => nofun⟩
  have hbuilt : built.notes = (Hierarchy.ofDiagram d).notes ++ d.allRelationNotes ++
      d.classes.flatMap (Hierarchy.pairNotes d) ++
        ((Context.resolveAll (Hierarchy.ofDiagram d).value).run {}).2.notes := rfl
  rw [hbuilt, collectionNotes_append, collectionNotes_edges]
  exact hnotes

/-! ## The collection of one class -/

/-- If one member of a list without repetitions gives something at most, the list gives that. -/
theorem flatMap_eq_of_nodup {α β : Type} {f : α → List β} {l : List α} (hl : l.Nodup) {a : α}
    (ha : a ∈ l) (hf : ∀ b ∈ l, b ≠ a → f b = []) : l.flatMap f = f a := by
  obtain ⟨before, after, rfl⟩ := List.append_of_mem ha
  have hapart : ∀ b ∈ before ++ after, b ≠ a := by
    rintro b hb rfl
    exact (List.nodup_cons.1 (List.nodup_middle.1 hl)).1 hb
  have hbefore : before.flatMap f = [] := List.flatMap_eq_nil_iff.2 fun b hb =>
    hf b (List.mem_append_left _ hb) (hapart b (List.mem_append_left _ hb))
  have hafter : after.flatMap f = [] := List.flatMap_eq_nil_iff.2 fun b hb =>
    hf b (List.mem_append_right _ (List.mem_cons_of_mem a hb))
      (hapart b (List.mem_append_right _ hb))
  rw [List.flatMap_append, List.flatMap_cons, hbefore, hafter, List.nil_append, List.append_nil]

namespace Hierarchy

variable {h : Hierarchy} {table : List (String × Members)} {a b : ClassNode}

section Names

variable (hd : h.diagram.DistinctIds) (hnames : h.diagram.DistinctNames)
  (hfields : h.diagram.DistinctCollections) (ha : a ∈ h.diagram.classes)
include hd hnames hfields ha

/-- If collections of different classes are called differently, none displaces another. -/
theorem oneToManyLinks_eq :
    h.oneToManyLinks a = h.diagram.classes.filterMap (h.oneToManyOf? a) := by
  rw [oneToManyLinks, representative_eq hd ha, deriveOneToMany]
  refine distinctBy_eq_self ?_
  have hnodup : (h.diagram.classes.map fun c => collectionField c.name).Nodup :=
    (List.Nodup.of_map _ hnames).map_on fun c hc c' hc' =>
      Diagram.eq_of_collectionField hnames hfields hc hc'
  exact hnodup.sublist (map_filterMap_sublist fun c _ l hl => (oneToManyOf?_sound hl).2.1)

/-- The collections of one class that another can have: the one that is derived from it. -/
theorem filter_oneToManyLinks (hb : b ∈ h.diagram.classes) :
    (h.oneToManyLinks a).filter (·.related = b) = (h.oneToManyOf? a b).toList := by
  have hsame : ∀ c, ((h.oneToManyOf? a c).toList.filter (·.related = b)) =
      if c = b then (h.oneToManyOf? a c).toList else [] := by
    intro c
    cases hlink : h.oneToManyOf? a c with
    | none => simp
    | some l =>
      have hclass := (oneToManyOf?_sound hlink).1
      by_cases hc : c = b <;> simp [hclass, hc]
  rw [oneToManyLinks_eq hd hnames hfields ha, List.filterMap_eq_flatMap_toList,
    List.filter_flatMap]
  simp only [hsame]
  rw [flatMap_eq_of_nodup (List.Nodup.of_map _ hnames) hb fun c _ hc => if_neg hc, if_pos rfl]

end Names

/-- A collection is one of the class that has it. -/
theorem owner_of_oneToManyLinks (hd : h.diagram.DistinctIds) (ha : a ∈ h.diagram.classes)
    {l : OneToMany} (hl : l ∈ h.oneToManyLinks a) : l.owner = a := by
  rw [oneToManyLinks, representative_eq hd ha] at hl
  obtain ⟨c, -, hlink⟩ := List.mem_filterMap.1 (mem_of_mem_distinctBy hl)
  unfold oneToManyOf? at hlink
  grind

/-- A collection is left out once at most: if there is an obstacle to it. -/
theorem filter_omissions (table : List (String × Members)) (hd : h.diagram.DistinctIds)
    (ha : a ∈ h.diagram.classes) {l : OneToMany} (hl : l ∈ h.oneToManyLinks a) :
    (h.omissions table).filter (·.link = .oneToMany l) =
      (h.oneToManyObstacle? table a l).toList.map fun finding => ⟨a, .oneToMany l, finding⟩ := by
  have hmany : ∀ c obstacle? links,
      (leftOut c .manyToMany obstacle? links).filter (·.link = .oneToMany l) = [] := by
    refine fun c obstacle? links => List.filter_eq_nil_iff.2 fun o ho => ?_
    obtain ⟨l', -, hlink⟩ := mem_leftOut ho
    simp [hlink]
  have hother : ∀ c ∈ h.diagram.classes, c ≠ a →
      (h.oneToManyOmissions table c).filter (·.link = .oneToMany l) = [] := by
    intro c hc hne
    refine List.filter_eq_nil_iff.2 fun o ho heq => hne ?_
    obtain ⟨l', hl', hlink⟩ := mem_leftOut ho
    obtain rfl : l' = l :=
      CollectionLink.oneToMany.inj (hlink.symm.trans (of_decide_eq_true heq))
    rw [← owner_of_oneToManyLinks hd hc hl', owner_of_oneToManyLinks hd ha hl]
  have hown : (h.oneToManyOmissions table a).filter (·.link = .oneToMany l) =
      (h.oneToManyObstacle? table a l).toList.map fun finding => ⟨a, .oneToMany l, finding⟩ := by
    have hnodup : (h.oneToManyLinks a).Nodup :=
      List.Nodup.of_map _ (nodup_oneToMany h (h.representative a))
    rw [oneToManyOmissions, leftOut, List.filter_flatMap,
      flatMap_eq_of_nodup hnodup hl fun l' _ hne => by simp [List.filter_map, hne]]
    refine List.filter_eq_self.2 fun o ho => ?_
    obtain ⟨finding, -, rfl⟩ := List.mem_map.1 ho
    exact decide_eq_true rfl
  rw [omissions, List.filter_append, List.filter_flatMap, List.filter_flatMap]
  simp only [List.filter_append, manyToManyOmissions, ownerOmissions, hmany, List.append_nil,
    List.flatMap_eq_nil_iff.2, implies_true]
  rw [flatMap_eq_of_nodup (List.Nodup.of_map _ hd) ha hother, hown]

/-- Two classes are related if one is an ancestor of the other. -/
theorem related_iff (hd : h.diagram.DistinctIds) (hh : h.WellFormed) (ha : a ∈ h.diagram.classes)
    (hb : b ∈ h.diagram.classes) :
    h.related a b = true ↔ a ∈ h.ancestors b ∨ b ∈ h.ancestors a := by
  have hany : ∀ x ∈ h.diagram.classes, ∀ y,
      (h.ancestors y).any (·.id = x.id) = true ↔ x ∈ h.ancestors y := by
    intro x hx y
    rw [List.any_eq_true]
    constructor
    · rintro ⟨z, hz, hid⟩
      rwa [hd.eq_of_id (hh.mem_classes hz) hx (of_decide_eq_true hid)] at hz
    · exact fun hmem => ⟨x, hmem, decide_eq_true rfl⟩
  rw [related, Bool.or_eq_true, hany a ha, hany b hb]

/-- A class that references another gives it a collection, unless the two are related. -/
theorem oneToManyOf?_of_reference (hid : b.id ≠ a.id) (href : b.hasReferenceTo a.name = true)
    (hrelated : h.related a b = false) : ∃ l, h.oneToManyOf? a b = some l := by
  obtain ⟨key, hkey, hname⟩ := List.any_eq_true.1 href
  have hfound : (b.foreignKeys.find? fun k => k.referencedEntity = some a.name).isSome :=
    List.find?_isSome.2 ⟨key, hkey, hname⟩
  obtain ⟨first, hfirst⟩ := Option.isSome_iff_exists.1 hfound
  unfold oneToManyOf?
  rw [if_neg hid, hfirst]
  simp [hrelated]

theorem oneToManyOf?_of_related (hrelated : h.related a b = true) : h.oneToManyOf? a b = none := by
  unfold oneToManyOf?
  grind

end Hierarchy

/-- In a context that is built from a diagram without repeated ids, names and names of collections,
a class that references another gives it a collection, however many foreign keys it has, unless one
of the two is an ancestor of the other. The collection is declared, and then it is not reported, or
it is left out, and then exactly one of the diagnostics about collections is that for it. -/
theorem inbound_collection {d : Diagram} (hd : d.DistinctIds) (hnames : d.DistinctNames)
    (hfields : d.DistinctCollections) (basePackage : String) (queryLimit : Int) {a b : ClassNode}
    (ha : a ∈ d.classes) (hb : b ∈ d.classes) (hne : a ≠ b)
    (href : b.hasReferenceTo a.name = true) :
    let built := Context.build d basePackage queryLimit
    let h := built.value.hierarchy
    let declared := (built.value.prediction a).oneToMany.filter (·.related = b)
    let omissions := h.omissions built.value.members
    collectionNotes built.notes = omissions.map Omission.note ∧
      (a ∈ h.ancestors b ∨ b ∈ h.ancestors a → declared = []) ∧
      (¬(a ∈ h.ancestors b ∨ b ∈ h.ancestors a) →
        ∃ l, h.oneToManyOf? a b = some l ∧ l.related = b ∧
          l.fieldName = collectionField b.name ∧
          let reported := omissions.filter (·.link = .oneToMany l)
          (declared = [l] ∧ reported = [] ∨
            declared = [] ∧ ∃ o, reported = [o] ∧ o.note.code = .consistency ∧
              o.note.classId = some a.id ∧ o.note.field = some (collectionField b.name))) := by
  intro built h declared omissions
  have hrelated := Hierarchy.related_iff (h := h) hd (Hierarchy.wellFormed_ofDiagram d) ha hb
  have hdeclared : declared = (h.oneToManyOf? a b).toList.filter fun l =>
      (h.oneToManyObstacle? built.value.members a l).isNone := by
    have hkept : (built.value.prediction a).oneToMany = h.oneToMany built.value.members a :=
      congrArg Prediction.oneToMany (Context.prediction_build hd basePackage queryLimit ha)
    rw [← Hierarchy.filter_oneToManyLinks (h := h) hd hnames hfields ha hb, List.filter_filter]
    simp only [declared, hkept, Hierarchy.oneToMany, List.filter_filter, Bool.and_comm]
  refine ⟨collectionNotes_build hd basePackage queryLimit, fun hancestor => ?_, fun hapart => ?_⟩
  · rw [hdeclared, Hierarchy.oneToManyOf?_of_related (hrelated.2 hancestor)]
    rfl
  have hid : b.id ≠ a.id := fun hid => hne (hd.eq_of_id ha hb hid.symm)
  obtain ⟨l, hl⟩ := Hierarchy.oneToManyOf?_of_reference hid href
    (Bool.eq_false_iff.2 (mt hrelated.1 hapart))
  obtain ⟨hclass, hfield, -⟩ := Hierarchy.oneToManyOf?_sound hl
  have hlink : l ∈ h.oneToManyLinks a := by
    rw [Hierarchy.oneToManyLinks_eq (h := h) hd hnames hfields ha]
    exact List.mem_filterMap.2 ⟨b, hb, hl⟩
  have hreported := Hierarchy.filter_omissions (h := h) built.value.members hd ha hlink
  rw [hl] at hdeclared
  refine ⟨l, hl, hclass, hfield, ?_⟩
  intro reported
  cases hobstacle : h.oneToManyObstacle? built.value.members a l with
  | none =>
    rw [hobstacle] at hreported
    exact .inl ⟨by simpa [hobstacle] using hdeclared, hreported⟩
  | some finding =>
    rw [hobstacle] at hreported
    have hcode : finding.code = .consistency := by
      have hcollection := Hierarchy.isCollection_oneToMany hobstacle
      cases finding <;> first | rfl | cases hcollection
    exact .inr ⟨by simpa [hobstacle] using hdeclared, _, hreported, hcode, rfl,
      congrArg some hfield⟩

/-- A class with a key and a foreign key. -/
def exhibit (id name foreignKey target : String) : ClassNode where
  id := id
  name := name
  attributes :=
    [{ name := "id", type := "Long", isPrimaryKey := true },
      { name := foreignKey, type := "Long", isForeignKey := true
        referencedEntity := some target }]

/-- Museums count their loans. -/
def museum : ClassNode where
  id := "m"
  name := "Museum"
  attributes :=
    [{ name := "id", type := "Long", isPrimaryKey := true }, { name := "loans", type := "Integer" }]

/-- Pieces belong to one museum and come from another. -/
def piece : ClassNode where
  id := "p"
  name := "Piece"
  attributes :=
    (exhibit "p" "Piece" "museum_id" "Museum").attributes ++
      [{ name := "origin_id", type := "Long", isForeignKey := true
         referencedEntity := some "Museum" }]

/-- Loans are made by a museum. -/
def loan : ClassNode := exhibit "l" "Loan" "museum_id" "Museum"

/-- Annexes are museums that belong to a museum. -/
def annex : ClassNode := exhibit "a" "Annex" "museum_id" "Museum"

/-- Museums, pieces, loans and annexes. -/
def museums : Diagram where
  classes := [museum, piece, loan, annex]
  relationships := [parentEdge "m" "a"]

/-- The collection that a museum can have of a class. -/
def inboundLink (owner related : ClassNode) : OneToMany where
  owner := owner
  related := related
  fieldName := collectionField related.name
  mappedBy := "museumId"
  foreignKey := "museum_id"

/-- Museums have a collection of pieces, for both foreign keys together. They have none of loans,
and report it, and none of annexes, which are museums themselves. -/
theorem inbound_collection_museums :
    let built := Context.build museums "app" 3
    let h := built.value.hierarchy
    let declared (c : ClassNode) :=
      (built.value.prediction museum).oneToMany.filter (·.related = c)
    museums.DistinctIds ∧ museums.DistinctNames ∧ museums.DistinctCollections ∧
      (∀ c ∈ [piece, loan, annex], c.hasReferenceTo museum.name = true) ∧
      (∃ l, h.oneToManyOf? museum piece = some l ∧ l.mappedBy = "museumId" ∧
        declared piece = [l]) ∧
      declared loan = [] ∧ museum ∈ h.ancestors annex ∧ declared annex = [] ∧
      collectionNotes built.notes =
        [⟨.collectionTaken "Museum" "loans", some "m", some "loans"⟩] := by
  intro built h declared
  have hd : museums.DistinctIds := by
    unfold Diagram.DistinctIds
    decide
  have hnames : museums.DistinctNames := by
    unfold Diagram.DistinctNames
    decide
  have hfields : museums.DistinctCollections := by decide +kernel
  have hreferences : ∀ c ∈ [piece, loan, annex], c.hasReferenceTo museum.name = true := by decide
  have hinbound := fun c hc hne href =>
    inbound_collection hd hnames hfields "app" 3 (a := museum) (b := c) (by decide) hc hne href
  have hannex : museum ∈ h.ancestors annex := by decide +kernel
  obtain ⟨htrace, -, hpiece⟩ :=
    hinbound piece (by decide) (by decide) (hreferences _ (by decide))
  obtain ⟨-, -, hloan⟩ := hinbound loan (by decide) (by decide) (hreferences _ (by decide))
  obtain ⟨-, hchild, -⟩ := hinbound annex (by decide) (by decide) (hreferences _ (by decide))
  have homissions : (h.omissions built.value.members).map Omission.note =
      [⟨.collectionTaken "Museum" "loans", some "m", some "loans"⟩] := by decide +kernel
  refine ⟨hd, hnames, hfields, hreferences, ?_, ?_, hannex, hchild (.inl hannex),
    htrace.trans homissions⟩
  · obtain ⟨l, hl, -, -, hsettled⟩ := hpiece (by decide +kernel)
    have hlink : h.oneToManyOf? museum piece = some (inboundLink museum piece) := by
      decide +kernel
    obtain rfl := Option.some.inj (hl.symm.trans hlink)
    refine ⟨_, hl, rfl, hsettled.elim And.left fun hleft => ?_⟩
    obtain ⟨-, o, hreported, -⟩ := hleft
    have hnone : (h.omissions built.value.members).filter
        (·.link = .oneToMany (inboundLink museum piece)) = [] := by decide +kernel
    exact absurd (hreported.symm.trans hnone) (List.cons_ne_nil _ _)
  · obtain ⟨l, hl, -, -, hsettled⟩ := hloan (by decide +kernel)
    have hlink : h.oneToManyOf? museum loan = some (inboundLink museum loan) := by decide +kernel
    obtain rfl := Option.some.inj (hl.symm.trans hlink)
    refine hsettled.elim (fun hkept => ?_) And.left
    have hsome : (h.omissions built.value.members).filter
        (·.link = .oneToMany (inboundLink museum loan)) ≠ [] := by decide +kernel
    exact absurd hkept.2 hsome

end Scaffold
