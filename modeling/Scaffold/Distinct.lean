/-!
# First occurrences

`keepFirst key` keeps of all members of a list that have one key only the first. Members whose key
is `none` are all kept.

Main statements: `keepFirst_sublist` (members keep their order), `nodup_keys_keepFirst` (no key is
left twice) and `mem_keepFirst` (what is left of a key is its first member).
-/

namespace Scaffold

variable {α κ : Type} [DecidableEq κ]

/-- `keepFirst` after some keys have been seen. -/
def keepFirstAfter (key : α → Option κ) (seen : List κ) : List α → List α
  | [] => []
  | a :: rest =>
    match key a with
    | none => a :: keepFirstAfter key seen rest
    | some k =>
      if k ∈ seen then keepFirstAfter key seen rest
      else a :: keepFirstAfter key (k :: seen) rest

/-- The members of a list without those whose key an earlier member has. -/
def keepFirst (key : α → Option κ) (l : List α) : List α := keepFirstAfter key [] l

/-- The members of a list without those that are equal under `key` to an earlier member. -/
def distinctBy (key : α → κ) (l : List α) : List α := keepFirst (fun a => some (key a)) l

theorem keepFirstAfter_sublist (key : α → Option κ) (seen : List κ) (l : List α) :
    (keepFirstAfter key seen l).Sublist l := by
  induction l generalizing seen with
  | nil => exact .slnil
  | cons a rest ih =>
    simp only [keepFirstAfter]
    split
    · exact (ih _).cons_cons a
    · split
      · exact (ih _).cons a
      · exact (ih _).cons_cons a

theorem keepFirst_sublist (key : α → Option κ) (l : List α) : (keepFirst key l).Sublist l :=
  keepFirstAfter_sublist key [] l

theorem nodup_keys_keepFirstAfter (key : α → Option κ) (seen : List κ) (l : List α) :
    ((keepFirstAfter key seen l).filterMap key).Nodup ∧
      ∀ k ∈ (keepFirstAfter key seen l).filterMap key, k ∉ seen := by
  induction l generalizing seen with
  | nil => simp [keepFirstAfter]
  | cons a rest ih =>
    simp only [keepFirstAfter]
    split
    · next h => simpa [List.filterMap_cons, h] using ih seen
    · next k h =>
      split
      · exact ih seen
      · next hk =>
        obtain ⟨hn, hs⟩ := ih (k :: seen)
        rw [List.filterMap_cons, h]
        refine ⟨List.nodup_cons.2 ⟨fun hm => hs k hm (List.mem_cons_self ..), hn⟩, ?_⟩
        intro x hx
        rcases List.mem_cons.1 hx with rfl | hx
        · exact hk
        · exact fun hxs => hs x hx (List.mem_cons_of_mem _ hxs)

theorem nodup_keys_keepFirst (key : α → Option κ) (l : List α) :
    ((keepFirst key l).filterMap key).Nodup :=
  (nodup_keys_keepFirstAfter key [] l).1

/-- Without repeated keys nothing is left out. -/
theorem keepFirstAfter_eq_self {key : α → Option κ} {seen : List κ} {l : List α}
    (hl : (l.filterMap key).Nodup) (hseen : ∀ k ∈ l.filterMap key, k ∉ seen) :
    keepFirstAfter key seen l = l := by
  induction l generalizing seen with
  | nil => rfl
  | cons a rest ih =>
    rw [keepFirstAfter]
    cases hk : key a with
    | none =>
      rw [List.filterMap_cons_none hk] at hl hseen
      exact congrArg (a :: ·) (ih hl hseen)
    | some k =>
      rw [List.filterMap_cons_some hk] at hl hseen
      obtain ⟨hfirst, hrest⟩ := List.forall_mem_cons.1 hseen
      obtain ⟨hk, hl⟩ := List.nodup_cons.1 hl
      simp only [hfirst, if_false]
      refine congrArg (a :: ·) (ih hl fun x hx hmem => ?_)
      rcases List.mem_cons.1 hmem with rfl | hmem
      · exact hk hx
      · exact hrest x hx hmem

theorem distinctBy_eq_self {key : α → κ} {l : List α} (hl : (l.map key).Nodup) :
    distinctBy key l = l := by
  refine keepFirstAfter_eq_self ?_ fun _ _ => List.not_mem_nil
  rw [List.filterMap_eq_map']
  exact hl

/-- A member with a key is left if it is the first with its key. -/
theorem mem_keepFirstAfter {key : α → Option κ} {seen : List κ} {l : List α} {a : α} {k : κ}
    (ha : key a = some k) :
    a ∈ keepFirstAfter key seen l ↔ k ∉ seen ∧ l.find? (key · = some k) = some a := by
  induction l generalizing seen with
  | nil => simp [keepFirstAfter]
  | cons b rest ih =>
    rw [keepFirstAfter, List.find?_cons]
    cases hb : key b with
    | none =>
      have hne : a ≠ b := by
        rintro rfl
        rw [ha] at hb
        cases hb
      simp [hne, ih]
    | some k' =>
      by_cases hk : k' = k
      · subst hk
        by_cases hseen : k' ∈ seen
        · simp [hseen, ih]
        · simp [hseen, ih, eq_comm]
      · have hne : a ≠ b := by
          rintro rfl
          rw [ha] at hb
          exact hk (Option.some.inj hb).symm
        by_cases hseen : k' ∈ seen
        · simp [hk, hseen, ih]
        · simp [hk, hne, hseen, ih, Ne.symm hk]

theorem mem_keepFirst {key : α → Option κ} {l : List α} {a : α} {k : κ} (ha : key a = some k) :
    a ∈ keepFirst key l ↔ l.find? (key · = some k) = some a := by
  simp [keepFirst, mem_keepFirstAfter ha]

theorem mem_of_mem_distinctBy {key : α → κ} {l : List α} {a : α} (ha : a ∈ distinctBy key l) :
    a ∈ l :=
  (keepFirst_sublist _ l).mem ha

/-- Every member has its key in common with one that is left. -/
theorem exists_mem_distinctBy {key : α → κ} {l : List α} {a : α} (ha : a ∈ l) :
    ∃ b ∈ distinctBy key l, key b = key a := by
  have hsome : (l.find? fun b => some (key b) = some (key a)).isSome :=
    List.find?_isSome.2 ⟨a, ha, decide_eq_true rfl⟩
  obtain ⟨b, hb⟩ := Option.isSome_iff_exists.1 hsome
  have hkey : key b = key a := by simpa using List.find?_some hb
  have hleft : b ∈ distinctBy key l ↔ (l.find? fun b => some (key b) = some (key a)) = some b :=
    mem_keepFirst (congrArg some hkey)
  exact ⟨b, hleft.2 hb, hkey⟩

/-- A member that is left is one of the first part of a list, if that has its key. -/
theorem mem_left_of_mem_distinctBy {key : α → κ} {l l' : List α} {a b : α}
    (ha : a ∈ distinctBy key (l ++ l')) (hb : b ∈ l) (hkey : key b = key a) : a ∈ l := by
  have hleft : a ∈ distinctBy key (l ++ l') ↔
      ((l ++ l').find? fun x => some (key x) = some (key a)) = some a := mem_keepFirst rfl
  have hfirst := hleft.1 ha
  have hsome : (l.find? fun x => some (key x) = some (key a)).isSome :=
    List.find?_isSome.2 ⟨b, hb, by simp [hkey]⟩
  obtain ⟨first, hfound⟩ := Option.isSome_iff_exists.1 hsome
  rw [List.find?_append, hfound, Option.some_or] at hfirst
  obtain rfl := Option.some.inj hfirst
  exact List.mem_of_find?_eq_some hfound

theorem nodup_distinctBy (key : α → κ) (l : List α) : ((distinctBy key l).map key).Nodup := by
  simpa [distinctBy, List.filterMap_eq_map] using
    nodup_keys_keepFirst (fun a => some (key a)) l

/-- If every item of a list has a key of the member that it comes from, the keys of the items are
keys of members, in their order. -/
theorem map_filterMap_sublist {β κ : Type} {f : α → Option β} {key : β → κ} {other : α → κ}
    {l : List α} (hf : ∀ a ∈ l, ∀ b, f a = some b → key b = other a) :
    ((l.filterMap f).map key).Sublist (l.map other) := by
  induction l with
  | nil => exact .slnil
  | cons a rest ih =>
    obtain ⟨hfirst, hrest⟩ := List.forall_mem_cons.1 hf
    cases ha : f a with
    | none =>
      rw [List.filterMap_cons_none ha]
      exact (ih hrest).cons _
    | some b =>
      rw [List.filterMap_cons_some ha, List.map_cons, List.map_cons, hfirst b ha]
      exact (ih hrest).cons_cons _

end Scaffold
