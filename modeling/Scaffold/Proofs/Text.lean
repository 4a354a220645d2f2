import Mathlib.Data.List.DropRight
import Scaffold.Text.Blank
import Scaffold.Text.Split

/-!
# Trimmed texts and separated texts

Trimming finds the one part of a text that has no blanks at its ends and that only blanks surround:
`trimChars_eq_iff`. What trims the right end alone, `dropWhileEnd`, is `List.rdropWhile`.

Splitting and joining are `List.splitOn` and `List.intercalate`, so joined pieces without separators
come back when they are split: `splitOn_joinWith`.
-/

namespace Scaffold.Text

/-! ## Trimming -/

section Trimming

variable {s t w w' : List Char}

/-- Whether a text has no blank at its start and none at its end. -/
def IsTrimmed (s : List Char) : Prop :=
  s.head?.any isBlank = false ∧ s.getLast?.any isBlank = false

instance (s : List Char) : Decidable (IsTrimmed s) :=
  inferInstanceAs (Decidable (s.head?.any isBlank = false ∧ s.getLast?.any isBlank = false))

theorem isTrimmed_iff :
    IsTrimmed s ↔
      (∀ c ∈ s.head?, isBlank c = false) ∧ ∀ c ∈ s.getLast?, isBlank c = false := by
  rw [IsTrimmed, Option.any_eq_false, Option.any_eq_false]
  simp

/-- A text without blanks has none at its ends. -/
theorem isTrimmed_of_notBlank (hs : ∀ c ∈ s, isBlank c = false) : IsTrimmed s :=
  isTrimmed_iff.2 ⟨fun c hc => hs c (List.mem_of_mem_head? hc),
    fun c hc => hs c (List.mem_of_getLast? hc)⟩

theorem dropWhileEnd_eq_rdropWhile {α : Type} (p : α → Bool) (l : List α) :
    dropWhileEnd p l = l.rdropWhile p := rfl

/-- Nothing is dropped from a list whose last member stays. -/
theorem dropWhileEnd_eq_self {α : Type} {p : α → Bool} {l : List α}
    (hlast : ∀ a ∈ l.getLast?, p a = false) : dropWhileEnd p l = l := by
  rw [dropWhileEnd_eq_rdropWhile, List.rdropWhile_eq_self_iff]
  intro hne
  rw [hlast _ (List.getLast_mem_getLast? hne)]
  exact Bool.false_ne_true

/-- The last member of what is left is one that stays. -/
theorem last_dropWhileEnd {α : Type} {p : α → Bool} {l : List α} :
    ∀ a ∈ (dropWhileEnd p l).getLast?, p a = false := by
  intro a ha
  obtain ⟨hne, rfl⟩ := List.mem_getLast?_eq_getLast ha
  exact Bool.eq_false_iff.2 (List.rdropWhile_last_not p l hne)

theorem dropWhileEnd_append {α : Type} {p : α → Bool} {l : List α} (hl : ∀ a ∈ l, p a = true)
    (front : List α) : dropWhileEnd p (front ++ l) = dropWhileEnd p front := by
  rw [dropWhileEnd, List.reverse_append,
    List.dropWhile_append_of_pos fun a ha => hl a (List.mem_reverse.1 ha), ← dropWhileEnd]

/-- The first member of what is left is one that stays. -/
theorem head_dropWhile {α : Type} {p : α → Bool} {l : List α} :
    ∀ a ∈ (l.dropWhile p).head?, p a = false := by
  intro a ha
  have hstop := List.head?_dropWhile_not p l
  rwa [Option.mem_def.1 ha] at hstop

/-- A trimmed text is what is left when the blanks around it are trimmed. -/
theorem trimChars_between (hs : IsTrimmed s) (hw : w.all isBlank = true)
    (hw' : w'.all isBlank = true) : trimChars (w ++ s ++ w') = s := by
  rw [List.all_eq_true] at hw hw'
  rw [trimChars, List.append_assoc, List.dropWhile_append_of_pos hw]
  cases s with
  | nil =>
    rw [List.nil_append, List.dropWhile_eq_nil_iff.2 hw']
    rfl
  | cons c rest =>
    obtain ⟨hfirst, hlast⟩ := isTrimmed_iff.1 hs
    have hfirst : isBlank c = false := hfirst c rfl
    rw [List.cons_append, List.dropWhile_cons_of_neg (by simp [hfirst]), ← List.cons_append,
      dropWhileEnd_append hw', dropWhileEnd_eq_self hlast]

theorem isTrimmed_trimChars (s : List Char) : IsTrimmed (trimChars s) := by
  refine isTrimmed_iff.2 ⟨fun c hc => ?_, last_dropWhileEnd⟩
  -- What is dropped at the end leaves the first character in its place.
  obtain ⟨rest, hrest⟩ : trimChars s <+: s.dropWhile isBlank := List.rdropWhile_prefix _ _
  refine head_dropWhile (l := s) c ?_
  rw [← hrest, List.head?_append, Option.mem_def.1 hc]
  rfl

theorem exists_blanks_trimChars (s : List Char) :
    ∃ w w', w.all isBlank = true ∧ w'.all isBlank = true ∧ s = w ++ trimChars s ++ w' := by
  refine ⟨s.takeWhile isBlank, (s.dropWhile isBlank).rtakeWhile isBlank, List.all_takeWhile,
    List.all_eq_true.2 fun c => List.mem_rtakeWhile_imp, ?_⟩
  rw [trimChars, dropWhileEnd_eq_rdropWhile, List.append_assoc,
    List.rdropWhile_append_rtakeWhile, List.takeWhile_append_dropWhile]

/-- What trimming a text gives: the trimmed text that only blanks surround. -/
theorem trimChars_eq_iff :
    trimChars s = t ↔
      IsTrimmed t ∧ ∃ w w', w.all isBlank = true ∧ w'.all isBlank = true ∧ s = w ++ t ++ w' := by
  constructor
  · rintro rfl
    exact ⟨isTrimmed_trimChars s, exists_blanks_trimChars s⟩
  · rintro ⟨ht, w, w', hw, hw', rfl⟩
    exact trimChars_between ht hw hw'

/-- Only blank texts are trimmed to nothing. -/
theorem trimChars_eq_nil_iff : trimChars s = [] ↔ s.all isBlank = true := by
  rw [trimChars_eq_iff]
  constructor
  · rintro ⟨-, w, w', hw, hw', rfl⟩
    rw [List.append_nil, List.all_append, hw, hw', Bool.and_self]
  · intro hs
    exact ⟨by decide, s, [], hs, rfl, by simp⟩

end Trimming

/-! ## Splitting -/

section Splitting

theorem joinWith_eq {α : Type} (sep : α) (ls : List (List α)) :
    joinWith sep ls = [sep].intercalate ls := by
  fun_induction joinWith sep ls with
  | case1 => rfl
  | case2 piece => exact List.intercalate_singleton.symm
  | case3 piece pieces hne ih =>
    cases pieces with
    | nil => exact absurd rfl hne
    | cons next others => simp [ih, List.intercalate_cons_cons]

/-- A member of joined pieces is a separator or belongs to a piece. -/
theorem mem_joinWith {α : Type} {sep a : α} {ls : List (List α)} (ha : a ∈ joinWith sep ls) :
    a = sep ∨ ∃ l ∈ ls, a ∈ l := by
  fun_induction joinWith sep ls with
  | case1 => cases ha
  | case2 piece => exact .inr ⟨piece, List.mem_singleton_self piece, ha⟩
  | case3 piece pieces hne ih =>
    rcases List.mem_append.1 ha with hpiece | ha
    · exact .inr ⟨piece, List.mem_cons_self, hpiece⟩
    · rcases List.mem_cons.1 ha with rfl | ha
      · exact .inl rfl
      · obtain hsep | ⟨l, hl, hal⟩ := ih ha
        · exact .inl hsep
        · exact .inr ⟨l, List.mem_cons_of_mem piece hl, hal⟩

theorem subset_joinWith {α : Type} {sep : α} {ls : List (List α)} {l : List α} (hl : l ∈ ls) :
    l ⊆ joinWith sep ls := by
  fun_induction joinWith sep ls with
  | case1 => cases hl
  | case2 piece =>
    rw [List.mem_singleton.1 hl]
    exact List.Subset.refl piece
  | case3 piece pieces hne ih =>
    rcases List.mem_cons.1 hl with rfl | hl
    · exact List.subset_append_left l _
    · exact fun a ha => List.mem_append_right piece (List.mem_cons_of_mem sep (ih hl ha))

variable {α : Type} [DecidableEq α] {sep : α}

theorem splitOn_eq (sep : α) (l : List α) : splitOn sep l = l.splitOn sep := by
  induction l with
  | nil => rfl
  | cons c rest ih =>
    rw [splitOn, ih, List.splitOn_cons_eq_if_modifyHead]
    cases hrest : rest.splitOn sep with
    | nil => exact absurd hrest (List.splitOn_ne_nil sep rest)
    | cons piece pieces => simp

/-- Pieces without separators come back when they are joined and split. -/
theorem splitOn_joinWith {ls : List (List α)} (hne : ls ≠ []) (hls : ∀ l ∈ ls, sep ∉ l) :
    splitOn sep (joinWith sep ls) = ls := by
  rw [splitOn_eq, joinWith_eq, List.splitOn_intercalate sep hls hne]

/-- The pieces on both sides of a separator. -/
theorem splitOn_append_sep (l rest : List α) :
    splitOn sep (l ++ sep :: rest) = splitOn sep l ++ splitOn sep rest := by
  rw [splitOn_eq, splitOn_eq, splitOn_eq, List.splitOn_append_cons_self]

theorem splitOn_of_notMem {l : List α} (hl : sep ∉ l) : splitOn sep l = [l] := by
  rw [splitOn_eq, List.splitOn_eq_singleton hl]

/-- A member that is no separator belongs to the first piece. -/
theorem splitOn_cons_of_ne {c : α} (hc : c ≠ sep) {l piece : List α} {pieces : List (List α)}
    (hl : splitOn sep l = piece :: pieces) : splitOn sep (c :: l) = (c :: piece) :: pieces := by
  rw [splitOn, hl]
  exact if_neg hc

/-- A list in front of a separator is the first piece. -/
theorem splitOn_cons {l : List α} (hl : sep ∉ l) (rest : List α) :
    splitOn sep (l ++ sep :: rest) = l :: splitOn sep rest := by
  rw [splitOn_append_sep, splitOn_of_notMem hl, List.singleton_append]

/-- What holds no separator continues the last piece. -/
theorem splitOn_append {tail : List α} (htail : sep ∉ tail) (l : List α) :
    ∃ front last, splitOn sep l = front ++ [last] ∧
      splitOn sep (l ++ tail) = front ++ [last ++ tail] := by
  induction l with
  | nil => exact ⟨[], [], rfl, splitOn_of_notMem htail⟩
  | cons c l ih =>
    obtain ⟨front, last, hl, happend⟩ := ih
    rw [List.cons_append, splitOn, splitOn, hl, happend]
    cases front with
    | nil =>
      by_cases hc : c = sep
      · exact ⟨[[]], last, by simp [hc], by simp [hc]⟩
      · exact ⟨[], c :: last, by simp [hc], by simp [hc]⟩
    | cons piece front =>
      by_cases hc : c = sep
      · exact ⟨[] :: piece :: front, last, by simp [hc], by simp [hc]⟩
      · exact ⟨(c :: piece) :: front, last, by simp [hc], by simp [hc]⟩

end Splitting

end Scaffold.Text
