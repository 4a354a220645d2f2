import Mathlib.Data.List.Nodup
import Scaffold.Analysis.Context
import Scaffold.Proofs.Clashes

/-!
# What is remembered is right

`Resolution` remembers keys and members by class id. If the ids of classes are pairwise distinct,
everything that is remembered is the key or the members of the class (`Resolution.Sound`), and it
stays so with every computation that resolves keys and members, which also forgets nothing
(`Resolution.Keeps`). `Resolve.Meets` is a Hoare triple with an invariant, and with a rule for each
way in which computations are put together; what is forgotten nowhere is a part of it.

The attributes of a class are looked at as they are without a memory (`Resolve.Mirrors`): keys are
remembered on the way, and the diagnostics are the same. The members of a class are resolved around
those of its ancestors, so they visit the classes on the way up (`visits_membersAlong`): all of them
are known afterwards, and what clashes in those that were not known before is reported, once
(`Resolution.Explores`).

`meets_resolveAll` is a triple for any invariant that the resolution of single classes keeps. That
`Sound` is one is said by `meets_primaryKey` and `meets_membersOf`, and `meets_resolveAll_sound`
puts them together.
-/

namespace Scaffold

open Naming

/-- No two classes of a diagram have one id. -/
def Diagram.DistinctIds (d : Diagram) : Prop := (d.classes.map (·.id)).Nodup

instance (d : Diagram) : Decidable d.DistinctIds :=
  inferInstanceAs (Decidable (d.classes.map (·.id)).Nodup)

theorem Diagram.DistinctIds.eq_of_id {d : Diagram} (hd : d.DistinctIds) {a b : ClassNode}
    (ha : a ∈ d.classes) (hb : b ∈ d.classes) (hid : a.id = b.id) : a = b :=
  List.inj_on_of_nodup_map hd ha hb hid

namespace Resolution

/-- The key of a class is remembered. -/
def KnowsKey (s : Resolution) (c : ClassNode) : Prop := (s.keys.lookup c.id).isSome

/-- The members of a class are remembered. -/
def KnowsMembers (s : Resolution) (c : ClassNode) : Prop := (s.members.lookup c.id).isSome

instance (s : Resolution) (c : ClassNode) : Decidable (s.KnowsMembers c) :=
  inferInstanceAs (Decidable ((s.members.lookup c.id).isSome = true))

/-- Everything that is remembered of the classes of a diagram is right. With the members of a class
those of its ancestors are remembered. -/
structure Sound (h : Hierarchy) (s : Resolution) : Prop where
  /-- Remembered keys are right. -/
  keys : ∀ c ∈ h.diagram.classes, ∀ key, s.keys.lookup c.id = some key → key = h.keyOf c
  /-- Remembered members are right. -/
  members : ∀ c ∈ h.diagram.classes, ∀ m, s.members.lookup c.id = some m → m = h.membersOf c
  /-- The members of ancestors are remembered too. -/
  closed : ∀ c ∈ h.diagram.classes, s.KnowsMembers c → ∀ a ∈ h.ancestors c, s.KnowsMembers a

/-- A condition on what is remembered, and not on the diagnostics. -/
class IgnoresNotes (I : Resolution → Prop) : Prop where
  /-- The condition stays with other diagnostics. -/
  with_notes : ∀ s notes, I s → I { s with notes := notes }

instance (h : Hierarchy) : IgnoresNotes (Sound h) where
  with_notes _ _ hs := ⟨hs.keys, hs.members, hs.closed⟩

/-- Nothing that is remembered is forgotten. -/
structure Keeps (s s' : Resolution) : Prop where
  /-- Keys are not forgotten. -/
  keys : ∀ c, s.KnowsKey c → s'.KnowsKey c
  /-- Members are not forgotten. -/
  members : ∀ c, s.KnowsMembers c → s'.KnowsMembers c

theorem Keeps.refl (s : Resolution) : s.Keeps s := ⟨fun _ hc => hc, fun _ hc => hc⟩

theorem Keeps.trans {s s' s'' : Resolution} (h₁ : s.Keeps s') (h₂ : s'.Keeps s'') :
    s.Keeps s'' :=
  ⟨fun c hc => h₂.keys c (h₁.keys c hc), fun c hc => h₂.members c (h₁.members c hc)⟩

/-- Nothing is remembered in the beginning. -/
theorem sound_empty (h : Hierarchy) : Sound h {} where
  keys := by simp
  members := by simp
  closed := by simp [KnowsMembers]

variable {h : Hierarchy} {s : Resolution}

/-- What is remembered of the members of a class are its members. -/
theorem Sound.inTable (hs : s.Sound h) {c : ClassNode} (hc : c ∈ h.diagram.classes)
    (hknown : s.KnowsMembers c) : Members.inTable s.members c = h.membersOf c := by
  obtain ⟨m, hm⟩ := Option.isSome_iff_exists.1 hknown
  rw [Members.inTable, hm, Option.getD_some]
  exact hs.members c hc m hm

/-- What is remembered of the ancestors of a class gives what its transfer object inherits. -/
theorem Sound.dtoFields_ancestors (hs : s.Sound h) (hh : h.WellFormed) {c : ClassNode}
    (hknown : ∀ a ∈ h.ancestors c, s.KnowsMembers a) :
    ((h.ancestors c).flatMap fun a => (Members.inTable s.members a).dtoFields) =
      h.dtoFieldsAlong (h.ancestors c) := by
  rw [hh.dtoFieldsAlong_ancestors]
  refine List.flatMap_congr fun a ha => ?_
  rw [hs.inTable (hh.mem_classes ha) (hknown a ha)]

/-- What is remembered of the key of a class is its key. -/
theorem Sound.keyIn (hs : s.Sound h) {c : ClassNode} (hc : c ∈ h.diagram.classes)
    (hknown : s.KnowsKey c) : Context.keyIn s.keys c = h.keyOf c := by
  obtain ⟨key, hkey⟩ := Option.isSome_iff_exists.1 hknown
  rw [Context.keyIn, hkey, Option.getD_some]
  exact hs.keys c hc key hkey

theorem lookup_cons_of_ne {α : Type} {table : List (String × α)} {id other : String} {a : α}
    (hne : other ≠ id) : ((id, a) :: table).lookup other = table.lookup other := by
  rw [List.lookup_cons, beq_false_of_ne hne]

/-! ## What is new -/

/-- The classes whose members are remembered afterwards, and were not before. -/
def news (h : Hierarchy) (s s' : Resolution) : List ClassNode :=
  h.diagram.classes.filter fun c => s'.KnowsMembers c ∧ ¬s.KnowsMembers c

/-- Afterwards the members of the classes of `visited` are remembered too, and what was reported
meanwhile is what clashes in those that are new, of each of them once. -/
structure Explores (h : Hierarchy) (visited : List ClassNode) (s s' : Resolution) : Prop where
  /-- The members of the classes are remembered, and no others than before. -/
  known : ∀ c ∈ h.diagram.classes, s'.KnowsMembers c ↔ c ∈ visited ∨ s.KnowsMembers c
  /-- What clashes in the classes that are new was reported. -/
  notes : s'.notes.Perm (s.notes ++ (news h s s').flatMap h.clashes)

theorem mem_news {s s' : Resolution} {c : ClassNode} :
    c ∈ news h s s' ↔ c ∈ h.diagram.classes ∧ s'.KnowsMembers c ∧ ¬s.KnowsMembers c := by
  simp [news]

/-- Nothing happens if all classes are remembered already. -/
theorem explores_of_known {visited : List ClassNode}
    (hvisited : ∀ c ∈ visited, s.KnowsMembers c) : Explores h visited s s where
  known c _ := (or_iff_right_of_imp (hvisited c)).symm
  notes := by simp [news]

theorem Explores.congr {visited visited' : List ClassNode} {s' : Resolution}
    (hs : Explores h visited s s') (hsame : ∀ c, c ∈ visited ↔ c ∈ visited') :
    Explores h visited' s s' where
  known c hc := (hs.known c hc).trans (or_congr_left (hsame c))
  notes := hs.notes

section Distinct

variable (hd : h.diagram.DistinctIds)
include hd

theorem nodup_news (s s' : Resolution) : (news h s s').Nodup :=
  (List.Nodup.of_map _ hd).filter _

theorem Explores.trans {visited visited' : List ClassNode} {s' s'' : Resolution}
    (h₁ : Explores h visited s s') (h₂ : Explores h visited' s' s'') :
    Explores h (visited ++ visited') s s'' where
  known c hc := by
    rw [h₂.known c hc, h₁.known c hc, List.mem_append, or_left_comm, or_assoc]
  notes := by
    have hnews : (news h s s' ++ news h s' s'').Perm (news h s s'') := by
      refine (List.perm_ext_iff_of_nodup ?_ (nodup_news hd s s'')).2 fun c => ?_
      · refine List.nodup_append.2 ⟨nodup_news hd s s', nodup_news hd s' s'', ?_⟩
        rintro c hc c' hc' rfl
        exact (mem_news.1 hc').2.2 (mem_news.1 hc).2.1
      · rw [List.mem_append, mem_news, mem_news, mem_news, ← and_or_left]
        refine and_congr_right fun hc => ?_
        have hkeeps : s'.KnowsMembers c → s''.KnowsMembers c := fun hknown =>
          (h₂.known c hc).2 (.inr hknown)
        have hkeeps' : s.KnowsMembers c → s'.KnowsMembers c := fun hknown =>
          (h₁.known c hc).2 (.inr hknown)
        tauto
    refine h₂.notes.trans ?_
    refine (h₁.notes.append_right _).trans ?_
    rw [List.append_assoc, ← List.flatMap_append]
    exact (hnews.flatMap_right h.clashes).append_left s.notes

/-- The members of a class are resolved around those of its ancestors: its attributes are looked at
before, and its references are settled after. -/
theorem Explores.enclose {path : List ClassNode} {c : ClassNode} {s₁ s₂ s₃ : Resolution}
    {own settled : List Diagnostic} {m : Members} (hc : c ∈ h.diagram.classes)
    (hfirst : s₁.members = s.members ∧ s₁.notes = s.notes ++ own) (hs : Explores h path s₁ s₂)
    (hlast : s₃.members = (c.id, m) :: s₂.members ∧ s₃.notes = s₂.notes ++ settled)
    (hunknown : ¬s₂.KnowsMembers c) (hclashes : own ++ settled = h.clashes c) :
    Explores h (c :: path) s s₃ := by
  have hknown : ∀ a ∈ h.diagram.classes, s₃.KnowsMembers a ↔ a = c ∨ s₂.KnowsMembers a := by
    intro a ha
    rw [KnowsMembers, hlast.1]
    by_cases hid : a.id = c.id
    · obtain rfl := hd.eq_of_id ha hc hid
      simp
    · have hne : a ≠ c := fun heq => hid (congrArg ClassNode.id heq)
      rw [lookup_cons_of_ne hid]
      exact (or_iff_right hne).symm
  have hbefore : ∀ a, s₁.KnowsMembers a ↔ s.KnowsMembers a := fun a => by
    rw [KnowsMembers, hfirst.1]
    rfl
  refine ⟨fun a ha => ?_, ?_⟩
  · rw [hknown a ha, hs.known a ha, hbefore, List.mem_cons, or_assoc]
  have hnews : (c :: news h s₁ s₂).Perm (news h s s₃) := by
    have hnew : c ∉ news h s₁ s₂ := fun hmem => hunknown (mem_news.1 hmem).2.1
    refine (List.perm_ext_iff_of_nodup (List.nodup_cons.2 ⟨hnew, nodup_news hd s₁ s₂⟩)
      (nodup_news hd s s₃)).2 fun a => ?_
    rw [List.mem_cons, mem_news, mem_news]
    constructor
    · rintro (rfl | ⟨ha, hin, hout⟩)
      · exact ⟨hc, (hknown a hc).2 (.inl rfl), fun hold =>
          hunknown ((hs.known a hc).2 (.inr ((hbefore a).2 hold)))⟩
      · exact ⟨ha, (hknown a ha).2 (.inr hin), fun hold => hout ((hbefore a).2 hold)⟩
    · rintro ⟨ha, hin, hout⟩
      exact ((hknown a ha).1 hin).imp_right fun hin => ⟨ha, hin, fun hold => hout ((hbefore a).1 hold)⟩
  let reported := (news h s₁ s₂).flatMap h.clashes
  calc s₃.notes = s₂.notes ++ settled := hlast.2
    List.Perm _ (s.notes ++ own ++ reported ++ settled) :=
      (hfirst.2 ▸ hs.notes).append_right settled
    List.Perm _ (s.notes ++ own ++ (settled ++ reported)) := by
      rw [List.append_assoc (s.notes ++ own)]
      exact List.perm_append_comm.append_left _
    _ = s.notes ++ (h.clashes c ++ reported) := by
      rw [← hclashes]
      simp only [List.append_assoc]
    List.Perm _ (s.notes ++ (news h s s₃).flatMap h.clashes) :=
      (hnews.flatMap_right h.clashes).append_left s.notes

end Distinct

end Resolution

namespace Resolve

variable {I : Resolution → Prop} {h : Hierarchy} {α β : Type}

/-- If a computation starts with tables of which the invariant `I` and `P` hold, it ends with tables
of which `I` holds, and which remember all that was remembered, and `Q` holds of its result and of
them. -/
def Meets (I P : Resolution → Prop) (x : Resolve α) (Q : α → Resolution → Prop) : Prop :=
  ∀ s, I s → P s → I (x.run s).2 ∧ s.Keeps (x.run s).2 ∧ Q (x.run s).1 (x.run s).2

/-! ## Rules -/

theorem meets_pure {P : Resolution → Prop} {a : α} {Q : α → Resolution → Prop}
    (hQ : ∀ s, I s → P s → Q a s) : Meets I P (pure a) Q :=
  fun s hs hP => ⟨hs, .refl s, hQ s hs hP⟩

theorem Meets.bind {P : Resolution → Prop} {x : Resolve α} {R : α → Resolution → Prop}
    {f : α → Resolve β} {Q : β → Resolution → Prop} (hx : Meets I P x R)
    (hf : ∀ a, Meets I (R a) (f a) Q) : Meets I P (x >>= f) Q := by
  intro s hs hP
  obtain ⟨hs', hkeeps, hR⟩ := hx s hs hP
  obtain ⟨hs'', hkeeps', hQ⟩ := hf _ _ hs' hR
  exact ⟨hs'', hkeeps.trans hkeeps', hQ⟩

theorem Meets.map {P : Resolution → Prop} {x : Resolve α} {R : α → Resolution → Prop}
    (f : α → β) {Q : β → Resolution → Prop} (hx : Meets I P x R)
    (hQ : ∀ a s, R a s → Q (f a) s) : Meets I P (f <$> x) Q := by
  intro s hs hP
  obtain ⟨hs', hkeeps, hR⟩ := hx s hs hP
  exact ⟨hs', hkeeps, hQ _ _ hR⟩

theorem meets_get {P : Resolution → Prop} :
    Meets I P (get : Resolve Resolution) fun a s => a = s ∧ P s :=
  fun s hs hP => ⟨hs, .refl s, rfl, hP⟩

theorem Meets.mono {P : Resolution → Prop} {x : Resolve α} {R Q : α → Resolution → Prop}
    (hx : Meets I P x R) (hQ : ∀ a s, I s → R a s → Q a s) : Meets I P x Q := by
  intro s hs hP
  obtain ⟨hs', hkeeps, hR⟩ := hx s hs hP
  exact ⟨hs', hkeeps, hQ _ _ hs' hR⟩

/-- The tables with which a computation starts may be named. -/
theorem meets_of_state {P : Resolution → Prop} {x : Resolve α} {Q : α → Resolution → Prop}
    (hx : ∀ s, I s → P s → Meets I (fun s' => s' = s ∧ P s') x Q) : Meets I P x Q :=
  fun s hs hP => hx s hs hP s hs ⟨rfl, hP⟩

/-- What is needed may be a fact and a condition on the tables. -/
theorem meets_of_imp {φ : Prop} {P : Resolution → Prop} {x : Resolve α}
    {Q : α → Resolution → Prop} (hx : φ → Meets I P x Q) : Meets I (fun s => φ ∧ P s) x Q :=
  fun s hs hP => hx hP.1 s hs hP.2

/-- What is needed may be a fact that has nothing to do with the tables. -/
theorem meets_of_fact {φ : Prop} {x : Resolve α} {Q : α → Resolution → Prop}
    (hx : φ → Meets I (fun _ => True) x Q) : Meets I (fun _ => φ) x Q :=
  fun s hs hφ => hx hφ s hs trivial

theorem Meets.pre {P P' : Resolution → Prop} {x : Resolve α} {Q : α → Resolution → Prop}
    (hx : Meets I P' x Q) (hP : ∀ s, P s → P' s) : Meets I P x Q :=
  fun s hs hs' => hx s hs (hP s hs')

theorem Meets.weaken {P : Resolution → Prop} {x : Resolve α} {Q : α → Resolution → Prop}
    (hx : Meets I (fun _ => True) x Q) : Meets I P x Q :=
  hx.pre fun _ _ => trivial

/-- What is not forgotten may be carried over a computation. -/
theorem Meets.frame {K : Resolution → Prop} {x : Resolve α} {Q : α → Resolution → Prop}
    (hx : Meets I (fun _ => True) x Q) (hK : ∀ s s', s.Keeps s' → K s → K s') :
    Meets I K x fun a s => Q a s ∧ K s := by
  intro s hs hknown
  obtain ⟨hs', hkeeps, hQ⟩ := hx s hs trivial
  exact ⟨hs', hkeeps, hQ, hK _ _ hkeeps hknown⟩

/-- Taking over a result and its diagnostics leaves the tables as they are. -/
theorem meets_noted [Resolution.IgnoresNotes I] (x : Noted α) {P : Resolution → Prop}
    {Q : α → Resolution → Prop}
    (hQ : ∀ s s', P s → s'.keys = s.keys → s'.members = s.members → Q x.value s') :
    Meets I P (noted x) Q := fun s hs hP =>
  ⟨Resolution.IgnoresNotes.with_notes s _ hs, ⟨fun _ hc => hc, fun _ hc => hc⟩,
    hQ s _ hP rfl rfl⟩

theorem meets_note [Resolution.IgnoresNotes I] (finding : Finding)
    (classId field : Option String) {P : Resolution → Prop} :
    Meets I P (note finding classId field) fun _ _ => True := fun s hs _ =>
  ⟨Resolution.IgnoresNotes.with_notes s _ hs, ⟨fun _ hc => hc, fun _ hc => hc⟩, trivial⟩

theorem meets_noteObstacle [Resolution.IgnoresNotes I] (c : ClassNode) (field : String)
    (finding : Option Finding) {P : Resolution → Prop} :
    Meets I P (noteObstacle c field finding) fun _ _ => True := by
  cases finding with
  | none => exact meets_pure fun _ _ _ => trivial
  | some finding => exact meets_note finding _ _

/-- If each step of a loop makes something known that is not forgotten, all of it is known in the
end. -/
theorem meets_forIn {l : List α} {f : α → PUnit → Resolve (ForInStep PUnit)}
    {K : α → Resolution → Prop} (hK : ∀ a s s', s.Keeps s' → K a s → K a s')
    (hf : ∀ a ∈ l, Meets I (fun _ => True) (f a ⟨⟩) fun r s => r = .yield ⟨⟩ ∧ K a s) :
    Meets I (fun _ => True) (forIn l ⟨⟩ f) fun _ s => ∀ a ∈ l, K a s := by
  induction l with
  | nil => exact meets_pure fun _ _ _ => by simp
  | cons a rest ih =>
    rw [List.forIn_cons]
    refine (hf a List.mem_cons_self).bind fun r => ?_
    rintro s hs ⟨rfl, hknown⟩
    have hrest := ih fun a' ha' => hf a' (List.mem_cons_of_mem a ha')
    have hall : Meets I (K a) (forIn rest ⟨⟩ f) fun _ s' => ∀ a' ∈ a :: rest, K a' s' :=
      (hrest.frame (hK a)).mono fun _ _ _ hboth => List.forall_mem_cons.2 ⟨hboth.2, hboth.1⟩
    exact hall s hs hknown

/-- A loop whose steps end early nowhere keeps what is not forgotten. -/
theorem meets_forIn_of_keeps {l : List α} {f : α → PUnit → Resolve (ForInStep PUnit)}
    {K : Resolution → Prop} (hK : ∀ s s', s.Keeps s' → K s → K s')
    (hf : ∀ a ∈ l, Meets I (fun _ => True) (f a ⟨⟩) fun r _ => r = .yield ⟨⟩) :
    Meets I K (forIn l ⟨⟩ f) fun _ s => K s := by
  have hloop := meets_forIn (K := fun _ _ => True) (fun _ _ _ _ _ => trivial)
    fun a ha => (hf a ha).mono fun _ _ _ hr => ⟨hr, trivial⟩
  exact (hloop.frame hK).mono fun _ _ _ hboth => hboth.2

/-! ## Keys -/

theorem run_keyAlong_of_known {s : Resolution} {c : ClassNode} {key : PrimaryKey}
    (rest : List ClassNode) (hlookup : s.keys.lookup c.id = some key) :
    (keyAlong (c :: rest)).run s = (key, s) := by
  simp only [keyAlong, StateT.run_bind, StateT.run_get, pure_bind, hlookup]
  rfl

theorem run_keyAlong_of_own {s : Resolution} {c : ClassNode} {key : PrimaryKey}
    (rest : List ClassNode) (hlookup : s.keys.lookup c.id = none) (hown : c.ownKey? = some key) :
    (keyAlong (c :: rest)).run s = (key, { s with keys := (c.id, key) :: s.keys }) := by
  simp only [keyAlong, StateT.run_bind, StateT.run_get, pure_bind, hlookup, hown]
  rfl

theorem run_keyAlong_of_none {s : Resolution} {c : ClassNode} (rest : List ClassNode)
    (hlookup : s.keys.lookup c.id = none) (hown : c.ownKey? = none) :
    (keyAlong (c :: rest)).run s =
      let (key, s') := (keyAlong rest).run s
      (key, { s' with keys := (c.id, key) :: s'.keys }) := by
  simp only [keyAlong, StateT.run_bind, StateT.run_get, pure_bind, hlookup, hown]
  rfl

/-- The search for a key changes what is remembered of keys, and nothing else. -/
theorem tables_keyAlong (path : List ClassNode) (s : Resolution) :
    ((keyAlong path).run s).2.notes = s.notes ∧
      ((keyAlong path).run s).2.members = s.members := by
  induction path generalizing s with
  | nil => exact ⟨rfl, rfl⟩
  | cons c rest ih =>
    cases hlookup : s.keys.lookup c.id with
    | some key => rw [run_keyAlong_of_known rest hlookup]; exact ⟨rfl, rfl⟩
    | none =>
      cases hown : c.ownKey? with
      | some key => rw [run_keyAlong_of_own rest hlookup hown]; exact ⟨rfl, rfl⟩
      | none => rw [run_keyAlong_of_none rest hlookup hown]; exact ih s

section Keys

variable (hd : h.diagram.DistinctIds)
include hd

/-- The key of a class may be remembered. -/
theorem meets_rememberKey {c : ClassNode} (hc : c ∈ h.diagram.classes) {P : Resolution → Prop} :
    Meets (Resolution.Sound h) P (rememberKey c.id (h.keyOf c)) fun _ s => s.KnowsKey c := by
  have hlookup : ∀ s : Resolution, ((c.id, h.keyOf c) :: s.keys).lookup c.id = some (h.keyOf c) :=
    fun s => List.lookup_cons_self
  intro s hs _
  refine ⟨⟨fun a ha key hkey => ?_, hs.members, hs.closed⟩, ⟨fun a ha => ?_, fun _ ha => ha⟩, ?_⟩
  · by_cases hid : a.id = c.id
    · obtain rfl := hd.eq_of_id ha hc hid
      exact (Option.some.inj ((hlookup s).symm.trans hkey)).symm
    · exact hs.keys a ha key ((Resolution.lookup_cons_of_ne hid).symm.trans hkey)
  · by_cases hid : a.id = c.id
    · exact Option.isSome_iff_exists.2 ⟨h.keyOf c, hid ▸ hlookup s⟩
    · exact (congrArg Option.isSome (Resolution.lookup_cons_of_ne hid)).trans ha
  · exact Option.isSome_iff_exists.2 ⟨h.keyOf c, hlookup s⟩

/-- Along the way up from a class its key is found, and remembered. -/
theorem meets_keyAlong {c : ClassNode} {path : List ClassNode} (hpath : h.Ascends c path)
    (hc : c ∈ h.diagram.classes) (hh : h.WellFormed) :
    Meets (Resolution.Sound h) (fun _ => True) (keyAlong (c :: path))
      fun key s => key = h.keyOf c ∧ s.KnowsKey c := by
  have hremember : ∀ key, Meets (Resolution.Sound h) (fun _ => key = h.keyOf c)
      (do rememberKey c.id key; return key) fun key s => key = h.keyOf c ∧ s.KnowsKey c := by
    intro key
    refine meets_of_fact fun hkey => ?_
    rw [hkey]
    exact (meets_rememberKey hd hc).bind fun _ => meets_pure fun _ _ hknown => ⟨rfl, hknown⟩
  rw [keyAlong]
  refine meets_get.bind fun s => ?_
  cases hlookup : s.keys.lookup c.id with
  | some key =>
    refine meets_pure fun s' hs' hP => ?_
    obtain ⟨rfl, -⟩ := hP
    exact ⟨hs'.keys c hc key hlookup, Option.isSome_iff_exists.2 ⟨key, hlookup⟩⟩
  | none =>
    cases hown : c.ownKey? with
    | some key =>
      have hkey := Hierarchy.keyOf_of_ownKey (h := h) hown
      exact (meets_pure fun _ _ _ => hkey.symm).bind hremember
    | none =>
      cases hpath with
      | top hp =>
        have hkey := hh.keyOf_of_top hown hp
        exact (meets_pure fun _ _ _ => hkey.symm).bind hremember
      | step hp rest =>
        have habove := meets_keyAlong rest (Hierarchy.parentOf_eq_some hp).2 hh
        refine (habove.weaken.mono fun key _ _ hkey => ?_).bind hremember
        rw [hkey.1, hh.keyOf_of_parent hown hp]
  termination_by path.length

theorem meets_primaryKey (hh : h.WellFormed) {c : ClassNode} (hc : c ∈ h.diagram.classes) :
    Meets (Resolution.Sound h) (fun _ => True) (primaryKey h c) fun key s =>
      key = h.keyOf c ∧ s.KnowsKey c :=
  meets_keyAlong hd (hh.ascends_ancestors c) hc hh

theorem meets_entityKey (hh : h.WellFormed) {c : ClassNode} (hc : c ∈ h.diagram.classes) :
    Meets (Resolution.Sound h) (fun _ => True) (entityKey h c) fun key s =>
      key = h.entityKeyOf c ∧ s.KnowsKey (h.root c) :=
  meets_primaryKey hd hh (hh.root_mem hc)

end Keys

/-! ## Computations that do without a memory -/

/-- A computation mirrors one without a memory: if what is remembered is right, it gives the same
result and records the same diagnostics, and it remembers no members. -/
def Mirrors (h : Hierarchy) (x : Resolve α) (y : Noted α) : Prop :=
  ∀ notes members, Meets (Resolution.Sound h) (fun s => s.notes = notes ∧ s.members = members) x
    fun a s => a = y.value ∧ s.notes = notes ++ y.notes ∧ s.members = members

theorem mirrors_pure (a : α) : Mirrors h (pure a) (pure a) := fun notes _ =>
  meets_pure fun _ _ hs => ⟨rfl, hs.1.trans (List.append_nil notes).symm, hs.2⟩

theorem Mirrors.bind {x : Resolve α} {y : Noted α} {f : α → Resolve β} {g : α → Noted β}
    (hx : Mirrors h x y) (hf : Mirrors h (f y.value) (g y.value)) :
    Mirrors h (x >>= f) (y >>= g) := by
  intro notes members
  refine (hx notes members).bind fun a => meets_of_imp fun ha => ?_
  rw [ha, Noted.notes_bind, ← List.append_assoc]
  exact hf _ members

/-- What records nothing may be followed by what mirrors the whole. -/
theorem Mirrors.bind_of_pure {x : Resolve α} {a : α} {f : α → Resolve β} {y : Noted β}
    (hx : Mirrors h x (pure a)) (hf : Mirrors h (f a) y) : Mirrors h (x >>= f) y := by
  have hbind := hx.bind (g := fun _ => y) hf
  rwa [pure_bind] at hbind

theorem Mirrors.map {x : Resolve α} {a : α} (hx : Mirrors h x (pure a)) (f : α → β) :
    Mirrors h (f <$> x) (pure (f a)) := fun notes members =>
  (hx notes members).map f fun _ _ hb => ⟨congrArg f hb.1, hb.2⟩

theorem mirrors_note (finding : Finding) (classId field : Option String) :
    Mirrors h (note finding classId field) (Noted.note finding classId field) :=
  fun _ _ s hs hP =>
    ⟨Resolution.IgnoresNotes.with_notes s _ hs, ⟨fun _ hc => hc, fun _ hc => hc⟩, rfl,
      congrArg (· ++ [_]) hP.1, hP.2⟩

theorem mirrors_foldlM {f : β → α → Resolve β} {g : β → α → Noted β} {l : List α} {b : β}
    (hf : ∀ b a, Mirrors h (f b a) (g b a)) : Mirrors h (l.foldlM f b) (l.foldlM g b) := by
  induction l generalizing b with
  | nil => exact mirrors_pure b
  | cons a rest ih =>
    rw [List.foldlM_cons, List.foldlM_cons]
    exact (hf b a).bind ih

section Keys

variable (hd : h.diagram.DistinctIds) (hh : h.WellFormed) {c : ClassNode}
  (hc : c ∈ h.diagram.classes)
include hd hh hc

theorem mirrors_primaryKey : Mirrors h (primaryKey h c) (pure (h.keyOf c)) := by
  intro notes members s hs hP
  obtain ⟨hsound, hkeeps, hkey, -⟩ := meets_primaryKey hd hh hc s hs trivial
  obtain ⟨hnotes, hmembers⟩ := tables_keyAlong (c :: h.ancestors c) s
  refine ⟨hsound, hkeeps, hkey, ?_, hmembers.trans hP.2⟩
  exact (hnotes.trans hP.1).trans (List.append_nil notes).symm

theorem mirrors_entityKey : Mirrors h (entityKey h c) (pure (h.entityKeyOf c)) :=
  mirrors_primaryKey hd hh (hh.root_mem hc)

end Keys

/-! ## Members -/

section Members

variable (hd : h.diagram.DistinctIds) (hh : h.WellFormed) {c : ClassNode}
  (hc : c ∈ h.diagram.classes)
include hd hh

/-- An attribute that is not left out takes its field, if it is free. -/
theorem mirrors_placeAttribute (m : Members) {a : Attribute} (hin : h.leavesOut c a = false) :
    Mirrors h (placeAttribute h c m a (h.memberField c a)) (h.addMember c m a) := by
  have hin : ¬h.leavesOut c a = true := by simp [hin]
  unfold placeAttribute Hierarchy.addMember
  by_cases htaken : h.memberField c a ∈ m.fields
  · simp only [htaken, hin, if_true]
    exact (mirrors_note _ _ _).bind (mirrors_pure m)
  · simp only [htaken, hin, if_false]
    cases htarget : h.diagram.referenceTarget? a with
    | none => exact mirrors_pure _
    | some target =>
      have htarget := Hierarchy.mem_classes_of_referenceTarget htarget
      exact (mirrors_entityKey hd hh htarget).bind_of_pure (mirrors_pure _)

include hc

/-- One more attribute of a class makes the members that it makes without a memory. -/
theorem mirrors_addAttribute (m : Members) (a : Attribute) :
    Mirrors h (addAttribute h c m a) (h.addMember c m a) := by
  unfold addAttribute
  cases hin : h.leavesOut c a with
  | true => simpa [Hierarchy.addMember, hin] using mirrors_pure m
  | false =>
    have hplace := mirrors_placeAttribute hd hh m hin
    cases hkey : a.isPrimaryKey with
    | true =>
      rw [Hierarchy.memberField, if_pos hkey] at hplace
      exact ((mirrors_primaryKey hd hh hc).map _).bind_of_pure hplace
    | false =>
      rw [Hierarchy.memberField, if_neg (Bool.eq_false_iff.1 hkey)] at hplace
      exact (mirrors_pure _).bind_of_pure hplace

/-- The attributes of a class make the members that they make without a memory. -/
theorem mirrors_ownMembers :
    Mirrors h (c.attributes.foldlM (addAttribute h c) (h.startMembers c)) (h.ownMembers c) :=
  mirrors_foldlM fun m a => mirrors_addAttribute hd hh hc m a

omit hh in
/-- The members of a class may be remembered, if those of its ancestors are. -/
theorem meets_rememberMembers :
    Meets (Resolution.Sound h) (fun s => ∀ a ∈ h.ancestors c, s.KnowsMembers a)
      (rememberMembers c.id (h.membersOf c)) fun _ s => s.KnowsMembers c := by
  intro s hs hknown
  have hself : ((c.id, h.membersOf c) :: s.members).lookup c.id = some (h.membersOf c) :=
    List.lookup_cons_self
  have hkeeps : ∀ a, s.KnowsMembers a →
      ((((c.id, h.membersOf c) :: s.members).lookup a.id).isSome : Prop) := by
    intro a ha
    by_cases hid : a.id = c.id
    · rw [hid, hself]
      rfl
    · rw [Resolution.lookup_cons_of_ne hid]
      exact ha
  refine ⟨⟨hs.keys, fun a ha m hm => ?_, fun a ha hnew b hb => ?_⟩,
    ⟨fun _ ha => ha, hkeeps⟩, Option.isSome_iff_exists.2 ⟨_, hself⟩⟩
  · by_cases hid : a.id = c.id
    · obtain rfl := hd.eq_of_id ha hc hid
      exact (Option.some.inj (hself.symm.trans hm)).symm
    · exact hs.members a ha m ((Resolution.lookup_cons_of_ne hid).symm.trans hm)
  · refine hkeeps b ?_
    by_cases hid : a.id = c.id
    · obtain rfl := hd.eq_of_id ha hc hid
      exact hknown b hb
    · have hold : s.KnowsMembers a := by
        have hlookup := @Resolution.lookup_cons_of_ne _ s.members _ _ (h.membersOf c) hid
        exact (congrArg Option.isSome hlookup).symm.trans hnew
      exact hs.closed a ha hold b hb

/-- With the members of its ancestors known, the members of a class are settled as they are without
a memory. -/
theorem meets_settle :
    Meets (Resolution.Sound h) (fun s => ∀ a ∈ h.ancestors c, s.KnowsMembers a)
      (settle c (h.ancestors c) (h.ownMembers c).value)
      fun m s => m = h.membersOf c ∧ s.KnowsMembers c := by
  refine meets_get.bind fun known => meets_of_state fun s hs hP => ?_
  obtain ⟨rfl, hknown⟩ := hP
  dsimp only
  rw [hs.dtoFields_ancestors hh hknown]
  have hreferences : Meets (Resolution.Sound h) (fun s => ∀ a ∈ h.ancestors c, s.KnowsMembers a)
      (noted (settleReferences c (h.ownMembers c).value.fields
        ((h.ownMembers c).value.scalars.map (·.fieldName) ++ h.dtoFieldsAlong (h.ancestors c))
        (h.ownMembers c).value.references))
      fun references s =>
        references = (h.membersOf c).references ∧ ∀ a ∈ h.ancestors c, s.KnowsMembers a := by
    refine meets_noted _ fun s s' hs _ hmembers => ⟨rfl, fun a ha => ?_⟩
    rw [Resolution.KnowsMembers, hmembers]
    exact hs a ha
  refine (hreferences.bind fun references => ?_).pre fun s hs => hs.2.2
  refine meets_of_imp fun hsettled => ?_
  rw [hsettled]
  exact (meets_rememberMembers hd hc).bind fun _ => meets_pure fun _ _ hc => ⟨rfl, hc⟩

end Members

/-- A computation gives `a` and visits some classes, from wherever it starts. -/
def Visits (h : Hierarchy) (x : Resolve α) (a : α) (visited : List ClassNode) : Prop :=
  ∀ s₀, Meets (Resolution.Sound h) (fun s => s = s₀) x fun b s => b = a ∧ s₀.Explores h visited s

/-- Along the way up from a class its members are found. The classes on the way are visited: they
get known with what is reported of them, unless they were known before. -/
theorem visits_membersAlong (hd : h.diagram.DistinctIds) (hh : h.WellFormed) {c : ClassNode}
    {path : List ClassNode} (hpath : h.Ascends c path) (hc : c ∈ h.diagram.classes) :
    Visits h (membersAlong h (c :: path)) (h.membersOf c) (c :: path) := by
  have habove : ∀ s₁, Meets (Resolution.Sound h) (fun s => s = s₁) (membersAlong h path)
      fun _ s => s₁.Explores h path s := by
    intro s₁
    cases hpath with
    | top => exact meets_pure fun _ _ hs => hs ▸ Resolution.explores_of_known (by simp)
    | step hp rest =>
      have hparent := (Hierarchy.parentOf_eq_some hp).2
      exact (visits_membersAlong hd hh rest hparent s₁).mono fun _ _ _ hm => hm.2
  obtain rfl := hpath.det (hh.ascends_ancestors c)
  intro s₀
  rw [membersAlong]
  refine meets_get.bind fun s => ?_
  cases hlookup : s.members.lookup c.id with
  | some m =>
    refine meets_pure fun s' hs' hP => ?_
    obtain ⟨rfl, rfl⟩ := hP
    have hknows : s.KnowsMembers c := Option.isSome_iff_exists.2 ⟨m, hlookup⟩
    refine ⟨hs'.members c hc m hlookup, Resolution.explores_of_known ?_⟩
    exact List.forall_mem_cons.2 ⟨hknows, hs'.closed c hc hknows⟩
  | none =>
    refine meets_of_state fun s' _ hP => ?_
    obtain ⟨rfl, rfl⟩ := hP
    have hunknown : ¬s.KnowsMembers c := by simp [Resolution.KnowsMembers, hlookup]
    have hself : c ∉ h.ancestors c := fun hmem =>
      (List.nodup_cons.1 (hh.nodup_ids c)).1 (List.mem_map_of_mem hmem)
    -- First the attributes of the class, then its ancestors, then its references.
    refine ((mirrors_ownMembers hd hh hc s.notes s.members).bind fun own => ?_).pre
      fun s' hs' => hs'.1 ▸ ⟨rfl, rfl⟩
    refine meets_of_imp fun hown => meets_of_state fun s₁ _ hfirst => ?_
    rw [hown]
    refine ((habove s₁).bind fun _ => ?_).pre fun _ hs' => hs'.1
    intro s₂ hs₂ hexplores
    have hknown : ∀ a ∈ h.ancestors c, s₂.KnowsMembers a := fun a ha =>
      (hexplores.known a (hh.mem_classes ha)).2 (.inl ha)
    have hbefore : ¬s₁.KnowsMembers c := by rwa [Resolution.KnowsMembers, hfirst.2]
    have hstill : ¬s₂.KnowsMembers c := fun hin =>
      ((hexplores.known c hc).1 hin).elim hself hbefore
    obtain ⟨hs₃, hkeeps, hm, -⟩ := meets_settle hd hh hc s₂ hs₂ hknown
    refine ⟨hs₃, hkeeps, hm, hexplores.enclose hd hc hfirst.symm ⟨rfl, rfl⟩ hstill ?_⟩
    rw [hs₂.dtoFields_ancestors hh hknown, Hierarchy.clashes_eq]
  termination_by path.length

theorem visits_membersOf (hd : h.diagram.DistinctIds) (hh : h.WellFormed) {c : ClassNode}
    (hc : c ∈ h.diagram.classes) :
    Visits h (membersOf h c) (h.membersOf c) (c :: h.ancestors c) :=
  visits_membersAlong hd hh (hh.ascends_ancestors c) hc

theorem meets_membersOf (hd : h.diagram.DistinctIds) (hh : h.WellFormed) {c : ClassNode}
    (hc : c ∈ h.diagram.classes) :
    Meets (Resolution.Sound h) (fun _ => True) (membersOf h c) fun m s =>
      m = h.membersOf c ∧ s.KnowsMembers c := by
  refine meets_of_state fun s _ _ => ?_
  refine ((visits_membersOf hd hh hc s).pre fun _ hs => hs.1).mono fun m s' _ hm => ⟨hm.1, ?_⟩
  exact (hm.2.known c hc).2 (.inl List.mem_cons_self)

/-! ## All classes -/

section All

variable [Resolution.IgnoresNotes I]
  (hmembers : ∀ c ∈ h.diagram.classes,
    Meets I (fun _ => True) (membersOf h c) fun _ s => s.KnowsMembers c)
include hmembers

/-- Planning the collections of a class finds its members. -/
theorem meets_planCollections {c : ClassNode} (hc : c ∈ h.diagram.classes) :
    Meets I (fun _ => True) (planCollections h c) fun _ s => s.KnowsMembers c := by
  unfold planCollections
  refine (hmembers c hc).bind fun _ => ?_
  have hK : ∀ s s' : Resolution, s.Keeps s' → s.KnowsMembers c → s'.KnowsMembers c :=
    fun _ _ hkeeps => hkeeps.members c
  refine (meets_forIn_of_keeps hK fun l hl => ?_).bind fun _ => meets_get.bind fun s => ?_
  · refine (hmembers _ (Hierarchy.fieldName_oneToMany hl).1).bind fun _ => Meets.weaken ?_
    refine meets_get.bind fun s => ?_
    exact (meets_noteObstacle _ _ _).bind fun _ => meets_pure fun _ _ _ => rfl
  · refine ((meets_forIn_of_keeps hK fun l _ => ?_).bind fun _ => ?_).pre fun _ hs => hs.2
    · exact (meets_noteObstacle _ _ _).bind fun _ => meets_pure fun _ _ _ => rfl
    · exact meets_pure fun _ _ hknown => hknown

/-- The keys and the members of all classes are found. -/
theorem meets_resolveAll (hh : h.WellFormed)
    (hkeys : ∀ c ∈ h.diagram.classes,
      Meets I (fun _ => True) (primaryKey h c) fun _ s => s.KnowsKey c) :
    Meets I (fun _ => True) (Context.resolveAll h) fun _ s =>
      ∀ c ∈ h.diagram.classes, s.KnowsMembers c ∧ s.KnowsKey c ∧ s.KnowsKey (h.root c) := by
  have hkept : ∀ s s' : Resolution, s.Keeps s' →
      (∀ c ∈ h.diagram.classes, s.KnowsMembers c) → ∀ c ∈ h.diagram.classes, s'.KnowsMembers c :=
    fun _ _ hkeeps hs c hc => hkeeps.members c (hs c hc)
  have hroots : ∀ s s' : Resolution, s.Keeps s' →
      ((∀ c ∈ h.diagram.classes, s.KnowsKey (h.root c)) ∧
        ∀ c ∈ h.diagram.classes, s.KnowsMembers c) →
      (∀ c ∈ h.diagram.classes, s'.KnowsKey (h.root c)) ∧
        ∀ c ∈ h.diagram.classes, s'.KnowsMembers c :=
    fun s s' hkeeps hs => ⟨fun c hc => hkeeps.keys _ (hs.1 c hc), hkept s s' hkeeps hs.2⟩
  unfold Context.resolveAll
  -- The first loop finds the members, and the second only reports.
  refine (meets_forIn (K := fun c s => s.KnowsMembers c) (fun c _ _ hkeeps => hkeeps.members c)
    fun c hc => ?_).bind fun _ => meets_get.bind fun known => ?_
  · exact (meets_planCollections hmembers hc).bind fun _ =>
      meets_pure fun _ _ hknown => ⟨rfl, hknown⟩
  refine ((meets_forIn_of_keeps hkept fun c hc => ?_).bind fun _ => ?_).pre fun _ hs => hs.2
  · exact (meets_noted (Q := fun _ _ => True) _ fun _ _ _ _ _ => trivial).bind
      fun _ => meets_pure fun _ _ _ => rfl
  -- The other two find the keys; what the loops before have found is carried along.
  refine ((meets_forIn (K := fun c s => s.KnowsKey (h.root c))
    (fun c _ _ hkeeps => hkeeps.keys _) fun c hc => ?_).frame hkept).bind fun _ => ?_
  · exact (hkeys _ (hh.root_mem hc)).bind fun _ => meets_pure fun _ _ hknown => ⟨rfl, hknown⟩
  refine ((meets_forIn (K := fun c s => s.KnowsKey c)
    (fun c _ _ hkeeps => hkeeps.keys _) fun c hc => ?_).frame hroots).bind fun _ => ?_
  · exact (hkeys c hc).bind fun _ => meets_pure fun _ _ hknown => ⟨rfl, hknown⟩
  exact meets_pure fun _ _ hall c hc => ⟨hall.2.2 c hc, hall.1 c hc, hall.2.1 c hc⟩

end All

/-- If ids are pairwise distinct, the right keys and members of all classes are found. -/
theorem meets_resolveAll_sound (hd : h.diagram.DistinctIds) (hh : h.WellFormed) :
    Meets (Resolution.Sound h) (fun _ => True) (Context.resolveAll h) fun _ s =>
      ∀ c ∈ h.diagram.classes, s.KnowsMembers c ∧ s.KnowsKey c ∧ s.KnowsKey (h.root c) :=
  meets_resolveAll (fun _ hc => (meets_membersOf hd hh hc).mono fun _ _ _ hm => hm.2) hh
    fun _ hc => (meets_primaryKey hd hh hc).mono fun _ _ _ hkey => hkey.2

end Resolve

end Scaffold
