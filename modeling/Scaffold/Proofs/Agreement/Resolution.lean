import Scaffold.Proofs.Agreement.Hierarchy

/-!
# Resolutions that agree

Ids may repeat, and then the members that are remembered for an id depend on the order in which the
classes are resolved. So two resolutions cannot be compared by what the members of a class are, but
only run by run. `Resolve.Matches` relates two computations: from memories that agree on some ids
they give related results and memories that agree on these ids. As with `Resolve.Meets`, there is a
rule for each way in which computations are put together. A computation that is matched by doing
nothing is `Resolve.Spared`: it may change what is remembered for other ids only.

Main statement: `matches_resolveAll`.
-/

namespace Scaffold

open Naming

/-- Two memories agree on some ids. -/
def Resolution.AgreeOn (ids : String → Prop) (s s' : Resolution) : Prop :=
  ∀ id, ids id →
    s.keys.lookup id = s'.keys.lookup id ∧ s.members.lookup id = s'.members.lookup id

namespace Resolve

variable {ids : String → Prop} {α β γ δ : Type}

/-- From memories that agree on some ids, two computations give related results and memories that
agree on these ids. -/
def Matches (ids : String → Prop) (x : Resolve α) (y : Resolve β) (R : α → β → Prop) : Prop :=
  ∀ s s', s.AgreeOn ids s' →
    R (x.run s).1 (y.run s').1 ∧ (x.run s).2.AgreeOn ids (y.run s').2

/-- A computation that changes nothing for some ids. -/
def Spared (ids : String → Prop) (y : Resolve β) (R : β → Prop) : Prop :=
  Matches ids (pure ⟨⟩) y fun (_ : PUnit) b => R b

/-! ## Rules -/

theorem matches_pure {a : α} {b : β} {R : α → β → Prop} (hR : R a b) :
    Matches ids (pure a) (pure b) R :=
  fun _ _ hs => ⟨hR, hs⟩

theorem Matches.bind {x : Resolve α} {y : Resolve β} {R : α → β → Prop} {f : α → Resolve γ}
    {g : β → Resolve δ} {Q : γ → δ → Prop} (hx : Matches ids x y R)
    (hf : ∀ a b, R a b → Matches ids (f a) (g b) Q) : Matches ids (x >>= f) (y >>= g) Q := by
  intro s s' hs
  obtain ⟨hR, hs'⟩ := hx s s' hs
  exact hf _ _ hR _ _ hs'

theorem Matches.mono {x : Resolve α} {y : Resolve β} {R Q : α → β → Prop}
    (hx : Matches ids x y R) (hQ : ∀ a b, R a b → Q a b) : Matches ids x y Q :=
  fun s s' hs => ⟨hQ _ _ (hx s s' hs).1, (hx s s' hs).2⟩

theorem Matches.map {x : Resolve α} {y : Resolve β} {R : α → β → Prop} (f : α → γ) (g : β → δ)
    {Q : γ → δ → Prop} (hx : Matches ids x y R) (hQ : ∀ a b, R a b → Q (f a) (g b)) :
    Matches ids (f <$> x) (g <$> y) Q :=
  fun s s' hs => ⟨hQ _ _ (hx s s' hs).1, (hx s s' hs).2⟩

theorem matches_get :
    Matches ids (get : Resolve Resolution) (get : Resolve Resolution) (Resolution.AgreeOn ids) :=
  fun _ _ hs => ⟨hs, hs⟩

theorem Spared.bind {y : Resolve β} {R : β → Prop} {g : β → Resolve δ} {Q : δ → Prop}
    (hy : Spared ids y R) (hg : ∀ b, R b → Spared ids (g b) Q) : Spared ids (y >>= g) Q := by
  intro s s' hs
  obtain ⟨hR, hs'⟩ := hy s s' hs
  exact hg _ hR s _ hs'

theorem spared_pure {b : β} {R : β → Prop} (hR : R b) : Spared ids (pure b) R :=
  matches_pure hR

/-- Two computations that are spared match. -/
theorem Spared.matches {x : Resolve α} {y : Resolve β} {P : α → Prop} {R : β → Prop}
    (hx : Spared ids x P) (hy : Spared ids y R) : Matches ids x y fun a b => P a ∧ R b := by
  intro s s' hs
  have hself : s.AgreeOn ids s := fun _ _ => ⟨rfl, rfl⟩
  obtain ⟨hP, hx⟩ := hx s s hself
  obtain ⟨hR, hy⟩ := hy s s' hs
  refine ⟨⟨hP, hR⟩, fun id hid => ?_⟩
  obtain ⟨hkeys, hmembers⟩ := hx id hid
  obtain ⟨hkeys', hmembers'⟩ := hy id hid
  exact ⟨hkeys.symm.trans hkeys', hmembers.symm.trans hmembers'⟩

theorem spared_get : Spared ids (get : Resolve Resolution) fun _ => True :=
  fun _ _ hs => ⟨trivial, hs⟩

theorem spared_note (finding : Finding) (classId field : Option String) :
    Spared ids (note finding classId field) fun _ => True :=
  fun _ _ hs => ⟨trivial, hs⟩

theorem spared_noted (x : Noted α) : Spared ids (noted x) fun a => a = x.value :=
  fun _ _ hs => ⟨rfl, hs⟩

theorem spared_noteObstacle (c : ClassNode) (field : String) (finding : Option Finding) :
    Spared ids (noteObstacle c field finding) fun _ => True := by
  cases finding with
  | none => exact spared_pure trivial
  | some finding => exact spared_note finding _ _

theorem matches_rememberKey (id : String) (key : PrimaryKey) :
    Matches ids (rememberKey id key) (rememberKey id key) fun _ _ => True := by
  intro s s' hs
  refine ⟨trivial, fun other hother => ⟨?_, (hs other hother).2⟩⟩
  change ((id, key) :: s.keys).lookup other = ((id, key) :: s'.keys).lookup other
  rw [List.lookup_cons, List.lookup_cons, (hs other hother).1]

theorem matches_rememberMembers (id : String) (m : Members) :
    Matches ids (rememberMembers id m) (rememberMembers id m) fun _ _ => True := by
  intro s s' hs
  refine ⟨trivial, fun other hother => ⟨(hs other hother).1, ?_⟩⟩
  change ((id, m) :: s.members).lookup other = ((id, m) :: s'.members).lookup other
  rw [List.lookup_cons, List.lookup_cons, (hs other hother).2]

/-- What is remembered for another id changes nothing for the ids on which memories agree. -/
theorem spared_rememberKey {id : String} (hid : ¬ids id) (key : PrimaryKey) :
    Spared ids (rememberKey id key) fun _ => True := by
  intro s s' hs
  refine ⟨trivial, fun other hother => ⟨?_, (hs other hother).2⟩⟩
  have hne : other ≠ id := fun heq => hid (heq ▸ hother)
  exact (hs other hother).1.trans (Resolution.lookup_cons_of_ne hne).symm

theorem spared_rememberMembers {id : String} (hid : ¬ids id) (m : Members) :
    Spared ids (rememberMembers id m) fun _ => True := by
  intro s s' hs
  refine ⟨trivial, fun other hother => ⟨(hs other hother).1, ?_⟩⟩
  have hne : other ≠ id := fun heq => hid (heq ▸ hother)
  exact (hs other hother).2.trans (Resolution.lookup_cons_of_ne hne).symm

theorem matches_foldlM {f g : β → α → Resolve β} {l : List α} {b : β}
    (hf : ∀ b, ∀ a ∈ l, Matches ids (f b a) (g b a) Eq) :
    Matches ids (l.foldlM f b) (l.foldlM g b) Eq := by
  induction l generalizing b with
  | nil => exact matches_pure rfl
  | cons a rest ih =>
    rw [List.foldlM_cons, List.foldlM_cons]
    refine (hf b a List.mem_cons_self).bind fun b' _ hb' => ?_
    rw [← hb']
    exact ih fun b a' ha' => hf b a' (List.mem_cons_of_mem a ha')

theorem spared_foldlM {g : β → α → Resolve β} {l : List α} {b : β}
    (hg : ∀ b, ∀ a ∈ l, Spared ids (g b a) fun _ => True) :
    Spared ids (l.foldlM g b) fun _ => True := by
  induction l generalizing b with
  | nil => exact spared_pure trivial
  | cons a rest ih =>
    rw [List.foldlM_cons]
    exact (hg b a List.mem_cons_self).bind fun b' _ =>
      ih fun b a' ha' => hg b a' (List.mem_cons_of_mem a ha')

/-- A loop over a part of a list matches the loop over the whole list, if its steps match and the
other steps are spared. -/
theorem matches_forIn {p : α → Bool} {l : List α}
    {f g : α → PUnit → Resolve (ForInStep PUnit)}
    (hf : ∀ a ∈ l, p a = true → Matches ids (f a ⟨⟩) (g a ⟨⟩)
      fun r r' => r = .yield ⟨⟩ ∧ r' = .yield ⟨⟩)
    (hg : ∀ a ∈ l, p a = false → Spared ids (g a ⟨⟩) fun r => r = .yield ⟨⟩) :
    Matches ids (forIn (l.filter p) ⟨⟩ f) (forIn l ⟨⟩ g) fun _ _ => True := by
  induction l with
  | nil => exact matches_pure trivial
  | cons a rest ih =>
    have hrest := ih (fun a' ha' => hf a' (List.mem_cons_of_mem a ha'))
      fun a' ha' => hg a' (List.mem_cons_of_mem a ha')
    cases hp : p a with
    | true =>
      rw [List.filter_cons_of_pos hp, List.forIn_cons, List.forIn_cons]
      refine (hf a List.mem_cons_self hp).bind fun r r' hr => ?_
      obtain ⟨rfl, rfl⟩ := hr
      exact hrest
    | false =>
      rw [List.filter_cons_of_neg (by simp [hp]), List.forIn_cons]
      intro s s' hs
      obtain ⟨hr, hs'⟩ := hg a List.mem_cons_self hp s s' hs
      have hstep := hrest s _ hs'
      rw [StateT.run_bind]
      generalize (g a ⟨⟩).run s' = result at hr hstep
      obtain ⟨r, s''⟩ := result
      obtain rfl : r = .yield ⟨⟩ := hr
      exact hstep

/-- Loops over one list match if their steps do. -/
theorem matches_forIn_same {l : List α} {f g : α → PUnit → Resolve (ForInStep PUnit)}
    (hf : ∀ a ∈ l, Matches ids (f a ⟨⟩) (g a ⟨⟩)
      fun r r' => r = .yield ⟨⟩ ∧ r' = .yield ⟨⟩) :
    Matches ids (forIn l ⟨⟩ f) (forIn l ⟨⟩ g) fun _ _ => True := by
  have hloop := matches_forIn (p := fun _ => true) (fun a ha _ => hf a ha) fun _ _ hp => by cases hp
  rwa [List.filter_true] at hloop

theorem spared_forIn {l : List α} {g : α → PUnit → Resolve (ForInStep PUnit)}
    (hg : ∀ a ∈ l, Spared ids (g a ⟨⟩) fun r => r = .yield ⟨⟩) :
    Spared ids (forIn l ⟨⟩ g) fun _ => True := by
  induction l with
  | nil => exact spared_pure trivial
  | cons a rest ih =>
    rw [List.forIn_cons]
    refine (hg a List.mem_cons_self).bind fun r hr => ?_
    rw [hr]
    exact ih fun a' ha' => hg a' (List.mem_cons_of_mem a ha')

/-! ## Keys -/

theorem matches_keyAlong {path : List ClassNode} (hpath : ∀ c ∈ path, ids c.id) :
    Matches ids (keyAlong path) (keyAlong path) Eq := by
  induction path with
  | nil => exact matches_pure rfl
  | cons c rest ih =>
    obtain ⟨hc, hrest⟩ := List.forall_mem_cons.1 hpath
    have hremember : ∀ key key' : PrimaryKey, key = key' →
        Matches ids (do rememberKey c.id key; return key) (do rememberKey c.id key'; return key')
          Eq := by
      rintro key _ rfl
      exact (matches_rememberKey c.id key).bind fun _ _ _ => matches_pure rfl
    rw [keyAlong]
    refine matches_get.bind fun s s' hs => ?_
    rw [(hs c.id hc).1]
    cases s'.keys.lookup c.id with
    | some key => exact matches_pure rfl
    | none =>
      cases c.ownKey? with
      | some key => exact (matches_pure rfl).bind hremember
      | none => exact (ih hrest).bind hremember

/-- Looking for a key changes nothing for some ids, if only classes with other ids are looked at. -/
theorem spared_keyAlong {path : List ClassNode} (hpath : ∀ c ∈ path, ¬ids c.id) :
    Spared ids (keyAlong path) fun _ => True := by
  induction path with
  | nil => exact spared_pure trivial
  | cons c rest ih =>
    obtain ⟨hc, hrest⟩ := List.forall_mem_cons.1 hpath
    have hremember : ∀ key : PrimaryKey, True →
        Spared ids (do rememberKey c.id key; return key) fun _ => True :=
      fun key _ => (spared_rememberKey hc key).bind fun _ _ => spared_pure trivial
    rw [keyAlong]
    refine spared_get.bind fun s _ => ?_
    cases s.keys.lookup c.id with
    | some key => exact spared_pure trivial
    | none =>
      cases c.ownKey? with
      | some key => exact (spared_pure trivial).bind hremember
      | none => exact (ih hrest).bind hremember

end Resolve

/-! ## Members -/

/-- Two hierarchies with the same parents, in which the attributes of the classes of the first are
references to the same classes. -/
structure Hierarchy.SharesReferences (h h' : Hierarchy) : Prop where
  /-- The forest of the first hierarchy is one that edges make. -/
  wellFormed : h.WellFormed
  /-- Every class has the same parent. -/
  parents : h.SameParents h'
  /-- Attributes are references to the same classes. -/
  referenceTarget : ∀ c ∈ h.diagram.classes, ∀ a ∈ c.attributes,
    h.diagram.referenceTarget? a = h'.diagram.referenceTarget? a

namespace Resolve

section Members

variable {ids : String → Prop} {h h' : Hierarchy} (hs : h.SharesReferences h')
  (hids : ∀ c ∈ h.diagram.classes, ids c.id)
include hs hids

theorem matches_primaryKey {c : ClassNode} (hc : c ∈ h.diagram.classes) :
    Matches ids (primaryKey h c) (primaryKey h' c) Eq := by
  rw [← hs.parents.primaryKey]
  refine matches_keyAlong (List.forall_mem_cons.2 ⟨hids c hc, fun a ha => ?_⟩)
  exact hids a (hs.wellFormed.mem_classes ha)

theorem matches_entityKey {c : ClassNode} (hc : c ∈ h.diagram.classes) :
    Matches ids (entityKey h c) (entityKey h' c) Eq := by
  rw [entityKey, entityKey, ← hs.parents.root]
  exact matches_primaryKey hs hids (hs.wellFormed.root_mem hc)

theorem matches_addAttribute {c : ClassNode} (hc : c ∈ h.diagram.classes) (m : Members)
    {a : Attribute} (ha : a ∈ c.attributes) :
    Matches ids (addAttribute h c m a) (addAttribute h' c m a) Eq := by
  have hplace : ∀ field field' : String, field = field' →
      Matches ids (placeAttribute h c m a field) (placeAttribute h' c m a field') Eq := by
    rintro field _ rfl
    unfold placeAttribute
    rw [← hs.referenceTarget c hc a ha]
    split
    · refine Matches.bind (R := fun _ _ => True) ?_ fun _ _ _ => matches_pure rfl
      exact ((spared_note _ _ _).matches (spared_note _ _ _)).mono fun _ _ _ => trivial
    · cases htarget : h.diagram.referenceTarget? a with
      | none => exact matches_pure rfl
      | some target =>
        have htarget := Hierarchy.mem_classes_of_referenceTarget htarget
        refine (matches_entityKey hs hids htarget).bind fun key _ hkey => ?_
        rw [hkey]
        exact matches_pure rfl
  unfold addAttribute
  rw [← hs.parents.leavesOut]
  split
  · exact matches_pure rfl
  · split
    · exact ((matches_primaryKey hs hids hc).map _ _ fun _ _ => congrArg _).bind hplace
    · exact (matches_pure rfl).bind hplace

omit hs hids in
theorem matches_settle (c : ClassNode) {ancestors : List ClassNode}
    (hancestors : ∀ a ∈ ancestors, ids a.id) (own : Members) :
    Matches ids (settle c ancestors own) (settle c ancestors own) Eq := by
  refine matches_get.bind fun known known' hknown => ?_
  have hinherited : (ancestors.flatMap fun a => (Members.inTable known.members a).dtoFields) =
      ancestors.flatMap fun a => (Members.inTable known'.members a).dtoFields := by
    refine List.flatMap_congr fun a ha => ?_
    rw [Members.inTable, Members.inTable, (hknown a.id (hancestors a ha)).2]
  dsimp only
  rw [hinherited]
  refine ((spared_noted _).matches (spared_noted _)).bind fun references _ hsettled => ?_
  obtain ⟨rfl, rfl⟩ := hsettled
  exact (matches_rememberMembers c.id _).bind fun _ _ _ => matches_pure rfl

theorem matches_membersAlong {path : List ClassNode} (hpath : ∀ c ∈ path, c ∈ h.diagram.classes) :
    Matches ids (membersAlong h path) (membersAlong h' path) Eq := by
  induction path with
  | nil => exact matches_pure rfl
  | cons c rest ih =>
    obtain ⟨hc, hrest⟩ := List.forall_mem_cons.1 hpath
    rw [membersAlong, membersAlong]
    refine matches_get.bind fun s s' hstate => ?_
    rw [(hstate c.id (hids c hc)).2]
    cases s'.members.lookup c.id with
    | some m => exact matches_pure rfl
    | none =>
      rw [← hs.parents.startMembers]
      have hown := matches_foldlM (b := h.startMembers c)
        fun m a ha => matches_addAttribute hs hids hc m ha
      refine hown.bind fun own _ hfound => ?_
      rw [← hfound]
      exact (ih hrest).bind fun _ _ _ => matches_settle c (fun a ha => hids a (hrest a ha)) own

theorem matches_membersOf {c : ClassNode} (hc : c ∈ h.diagram.classes) :
    Matches ids (membersOf h c) (membersOf h' c) Eq := by
  rw [membersOf, membersOf, ← hs.parents.ancestors]
  refine matches_membersAlong hs hids (List.forall_mem_cons.2 ⟨hc, fun a ha => ?_⟩)
  exact hs.wellFormed.mem_classes ha

/-! ## All classes -/

omit hs hids in
/-- Reporting what the collections of a class stumble over changes nothing. -/
theorem spared_noteObstacles {α : Type} (c : ClassNode) (field : α → String)
    (finding : α → Option Finding) (l : List α) :
    Spared ids (forIn l PUnit.unit fun a _ => do
      noteObstacle c (field a) (finding a)
      return ForInStep.yield PUnit.unit) fun _ => True :=
  spared_forIn fun a _ => (spared_noteObstacle c (field a) (finding a)).bind fun _ _ =>
    spared_pure rfl

theorem matches_planCollections {c : ClassNode} (hc : c ∈ h.diagram.classes)
    (hlinks : h.oneToManyLinks c = h'.oneToManyLinks c) :
    Matches ids (planCollections h c) (planCollections h' c) fun _ _ => True := by
  unfold planCollections
  refine (matches_membersOf hs hids hc).bind fun _ _ _ => ?_
  rw [← hlinks]
  refine Matches.bind (R := fun _ _ => True) (matches_forIn_same fun l hl => ?_) fun _ _ _ => ?_
  · have hrelated := (Hierarchy.fieldName_oneToMany hl).1
    refine (matches_membersOf hs hids hrelated).bind fun _ _ _ => ?_
    have hreport : ∀ (k : Hierarchy), Spared ids (do
        noteObstacle c l.fieldName (k.oneToManyObstacle? (← get).members c l)
        return ForInStep.yield PUnit.unit) fun r => r = .yield ⟨⟩ :=
      fun k => spared_get.bind fun s _ => (spared_noteObstacle c _ _).bind fun _ _ =>
        spared_pure rfl
    exact (hreport h).matches (hreport h')
  · have hreport : ∀ k : Hierarchy, Spared ids (do
        let table := (← get).members
        for l in k.manyToManyLinks c do
          noteObstacle c l.fieldName (k.manyToManyObstacle? table c l)) fun _ => True :=
      fun k => spared_get.bind fun s _ => (spared_noteObstacles c _ _ _).bind fun _ _ =>
        spared_pure trivial
    exact ((hreport h).matches (hreport h')).mono fun _ _ _ => trivial

/-- Resolving all classes of a diagram matches resolving all classes of another that has some more,
if the resolution of each of these is spared. -/
theorem matches_resolveAll {p : ClassNode → Bool}
    (hclasses : h.diagram.classes = h'.diagram.classes.filter p)
    (hlinks : ∀ c ∈ h.diagram.classes, h.oneToManyLinks c = h'.oneToManyLinks c)
    (hspared : ∀ c ∈ h'.diagram.classes, p c = false →
      Spared ids (planCollections h' c) (fun _ => True) ∧
        Spared ids (entityKey h' c) (fun _ => True) ∧
        Spared ids (primaryKey h' c) fun _ => True) :
    Matches ids (Context.resolveAll h) (Context.resolveAll h') fun _ _ => True := by
  have hmem : ∀ c ∈ h'.diagram.classes, p c = true → c ∈ h.diagram.classes := by
    intro c hc hp
    rw [hclasses]
    exact List.mem_filter.2 ⟨hc, hp⟩
  have hreport : ∀ (k : Hierarchy) (table : List (String × Members)),
      Spared ids (forIn (distinctBy (·.id) k.diagram.classes) PUnit.unit fun c _ => do
        noted ⟨(), k.ownerNotes table c⟩
        return ForInStep.yield PUnit.unit) fun _ => True :=
    fun k table => spared_forIn fun c _ => (spared_noted _).bind fun _ _ => spared_pure rfl
  unfold Context.resolveAll
  refine Matches.bind (R := fun _ _ => True) ?_ fun _ _ _ => ?_
  · rw [hclasses]
    refine matches_forIn (fun c hc hp => ?_) fun c hc hp => ?_
    · have hc := hmem c hc hp
      exact (matches_planCollections hs hids hc (hlinks c hc)).bind fun _ _ _ =>
        matches_pure ⟨rfl, rfl⟩
    · exact (hspared c hc hp).1.bind fun _ _ => spared_pure rfl
  refine matches_get.bind fun s s' _ => ?_
  refine Matches.bind (R := fun _ _ => True) ?_ fun _ _ _ => ?_
  · exact ((hreport h s.members).matches (hreport h' s'.members)).mono fun _ _ _ => trivial
  refine Matches.bind (R := fun _ _ => True) ?_ fun _ _ _ => ?_
  · rw [hclasses]
    refine matches_forIn (fun c hc hp => ?_) fun c hc hp => ?_
    · exact (matches_entityKey hs hids (hmem c hc hp)).bind fun _ _ _ => matches_pure ⟨rfl, rfl⟩
    · exact (hspared c hc hp).2.1.bind fun _ _ => spared_pure rfl
  refine Matches.bind (R := fun _ _ => True) ?_ fun _ _ _ => matches_pure trivial
  rw [hclasses]
  refine matches_forIn (fun c hc hp => ?_) fun c hc hp => ?_
  · exact (matches_primaryKey hs hids (hmem c hc hp)).bind fun _ _ _ => matches_pure ⟨rfl, rfl⟩
  · exact (hspared c hc hp).2.2.bind fun _ _ => spared_pure rfl

end Members

end Resolve

end Scaffold
