import Mathlib
import Scaffold.Proofs.Shown
import Scaffold.Proofs.Text

/-!
# Whole numbers as they are written

`Literal.Whole` says which texts are whole numbers in Java and which number each one stands for,
without looking at how it is made. Integers are shown as such texts. `Json.Value.whole?` is the
number that a value is or that its text reads as; it is what `integer?` reads from the text that is
shown of the value, unless the number has more digits than are read.

Main statements: `whole_showInt`, `integer_showInt`, `whole_of_integer`, `integer_of_whole`.
-/

namespace Scaffold

open Text

namespace Literal

/-! ## Whole numbers -/

/-- A numeral: ASCII digits, with no zero in front of others. -/
def IsNumeral (s : List Char) : Prop :=
  s ≠ [] ∧ (∀ c ∈ s, c.isDigit = true) ∧ ∀ rest, s = '0' :: rest → rest = []

/-- A whole number in Java: a numeral, with or without a minus sign in front. -/
inductive Whole : List Char → Int → Prop where
  /-- The numeral of a number. -/
  | numeral {s : List Char} (hs : IsNumeral s) : Whole s (Nat.ofDigitChars 10 s 0)
  /-- The numeral of the opposite number behind a minus sign. -/
  | negated {s : List Char} (hs : IsNumeral s) : Whole ('-' :: s) (-(Nat.ofDigitChars 10 s 0 : Int))

/-- Whether a number fits into a sign and some bits. -/
def InRange (bits : Nat) (i : Int) : Prop := -2 ^ bits ≤ i ∧ i ≤ 2 ^ bits - 1

/-- The digits of a number do not start with a zero unless they end with it. -/
theorem head_toDigits (n : Nat) : ∀ rest, Nat.toDigits 10 n = '0' :: rest → rest = [] := by
  induction n using Nat.strong_induction_on with
  | _ n ih =>
    intro rest hdigits
    by_cases hsmall : n < 10
    · rw [Nat.toDigits_of_lt_base hsmall] at hdigits
      exact (List.cons.inj hdigits).2.symm
    · have hle : 10 ≤ n := Nat.not_lt.1 hsmall
      rw [Nat.toDigits_of_base_le (by decide) hle] at hdigits
      cases hfront : Nat.toDigits 10 (n / 10) with
      | nil => exact absurd hfront Nat.toDigits_ne_nil
      | cons c front =>
        rw [hfront, List.cons_append, List.cons.injEq] at hdigits
        obtain ⟨rfl, -⟩ := hdigits
        -- A quotient that is not zero would have to be written as a single zero.
        have hzero : Nat.toDigits 10 (n / 10) = ['0'] := by
          rw [hfront, ih (n / 10) (by omega) front hfront]
        have hvalue := congrArg (Nat.ofDigitChars 10 · 0) hzero
        rw [Nat.ofDigitChars_ten_toDigits] at hvalue
        have hnone : Nat.ofDigitChars 10 ['0'] 0 = 0 := rfl
        rw [hnone] at hvalue
        omega

theorem isNumeral_toDigits (n : Nat) : IsNumeral (Nat.toDigits 10 n) :=
  ⟨Nat.toDigits_ne_nil, fun _ hc => Nat.isDigit_of_mem_toDigits (by decide) (by decide) hc,
    head_toDigits n⟩

/-- An integer is shown as Java writes it. -/
theorem whole_showInt (i : Int) : Whole (showInt i).toList i := by
  have hvalue : Nat.ofDigitChars 10 (Nat.toDigits 10 i.natAbs) 0 = i.natAbs :=
    Nat.ofDigitChars_ten_toDigits
  unfold showInt
  split
  · next hneg =>
    have hwhole := Whole.negated (isNumeral_toDigits i.natAbs)
    rw [hvalue] at hwhole
    have hi : -(i.natAbs : Int) = i := by omega
    rw [hi] at hwhole
    rw [String.toList_append, Nat.toList_repr]
    exact hwhole
  · next hpos =>
    have hwhole := Whole.numeral (isNumeral_toDigits i.natAbs)
    rw [hvalue] at hwhole
    have hi : (i.natAbs : Int) = i := by omega
    rw [hi] at hwhole
    rw [Nat.toList_repr]
    exact hwhole

/-! ## Values that are whole numbers -/

/-- A character that is no blank stays when blanks are trimmed. -/
theorem mem_trimChars {s : List Char} {c : Char} (hc : c ∈ s) (hink : isBlank c = false) :
    c ∈ trimChars s := by
  obtain ⟨w, w', hw, hw', hs⟩ := exists_blanks_trimChars s
  have hnotMem : ∀ {l : List Char}, l.all isBlank = true → c ∉ l := fun hl hmem =>
    Bool.false_ne_true (hink.symm.trans (List.all_eq_true.1 hl c hmem))
  rw [hs, List.mem_append, List.mem_append] at hc
  exact (hc.resolve_right (hnotMem hw')).resolve_left (hnotMem hw)

/-- A text without blanks stays as it is. -/
theorem trimChars_eq_self {s : List Char} (hs : ∀ c ∈ s, isBlank c = false) : trimChars s = s := by
  have htrimmed : trimChars ([] ++ s ++ []) = s :=
    trimChars_between (isTrimmed_of_notBlank hs) rfl rfl
  rwa [List.nil_append, List.append_nil] at htrimmed

/-- Whether a character can stand in an integer that is read. -/
def inInteger (c : Char) : Bool := isDigit c || c = '_' || c = '+' || c = '-'

theorem inInteger_of_numeralDigits {s : List Char} (hs : (numeralDigits? s).isSome) :
    ∀ c ∈ s, inInteger c = true := by
  fun_induction numeralDigits? s with
  | case1 => cases hs
  | case2 c =>
    intro x hx
    rw [List.mem_singleton.1 hx]
    have hdigit : isDigit c = true := by rwa [Option.isSome_map] at hs
    simp [inInteger, hdigit]
  | case3 c rest ih =>
    obtain ⟨digits, hdigits⟩ := Option.isSome_iff_exists.1 hs
    obtain ⟨d, hd, hdigits⟩ := Option.bind_eq_some_iff.1 hdigits
    obtain ⟨others, hothers, -⟩ := Option.bind_eq_some_iff.1 hdigits
    intro x hx
    rcases List.mem_cons.1 hx with rfl | hx
    · simp [inInteger, isDigit, hd]
    · rcases List.mem_cons.1 hx with rfl | hx
      · rfl
      · exact ih (by simp [hothers]) x hx
  | case4 c rest hrest _ ih =>
    obtain ⟨digits, hdigits⟩ := Option.isSome_iff_exists.1 hs
    obtain ⟨d, hd, hdigits⟩ := Option.bind_eq_some_iff.1 hdigits
    obtain ⟨others, hothers, -⟩ := Option.bind_eq_some_iff.1 hdigits
    intro x hx
    rcases List.mem_cons.1 hx with rfl | hx
    · simp [inInteger, isDigit, hd]
    · exact ih (by simp [hothers]) x hx

theorem inInteger_of_natural {s : List Char} (hs : (natural? s).isSome) :
    ∀ c ∈ s, inInteger c = true := by
  obtain ⟨n, hn⟩ := Option.isSome_iff_exists.1 hs
  obtain ⟨digits, hdigits, -⟩ := Option.bind_eq_some_iff.1 hn
  exact inInteger_of_numeralDigits (by simp [hdigits])

/-- What reads as an integer has no other characters than digits, underscores and signs. -/
theorem inInteger_of_integer {s : List Char} (hs : (integer? s).isSome) :
    ∀ c ∈ s, inInteger c = true := by
  have hcoe : ∀ x : Option Nat, (x : Option Int).isSome = x.isSome := fun x => by cases x <;> rfl
  unfold integer? at hs
  split at hs
  · rw [Option.isSome_map, hcoe] at hs
    exact List.forall_mem_cons.2 ⟨rfl, inInteger_of_natural hs⟩
  · rw [Option.isSome_map, hcoe] at hs
    exact List.forall_mem_cons.2 ⟨rfl, inInteger_of_natural hs⟩
  · rw [Option.isSome_map, hcoe] at hs
    exact inInteger_of_natural hs

/-- A text with another character is no integer. -/
theorem integer_eq_none {s : String} {c : Char} (hc : c ∈ s.toList)
    (hout : inInteger c = false) (hink : isBlank c = false) : integer? (trim s).toList = none := by
  rw [toList_trim, Option.eq_none_iff_forall_ne_some]
  intro i hi
  have hin := inInteger_of_integer (by simp [hi]) c (mem_trimChars hc hink)
  rw [hout] at hin
  cases hin

theorem digitValue_of_isDigit {c : Char} (hc : c.isDigit = true) :
    digitValue? c = some (c.toNat - '0'.toNat) := by
  have hascii : c.val < 0x80 := by
    simp only [Char.isDigit, Bool.and_eq_true, decide_eq_true_eq] at hc
    exact Nat.lt_of_le_of_lt (UInt32.le_iff_toNat_le.1 hc.2) (by decide)
  rw [digitValue?, if_pos hascii, if_pos hc]
  rfl

theorem isDigit_of_isDigit {c : Char} (hc : c.isDigit = true) : isDigit c = true := by
  rw [isDigit, digitValue_of_isDigit hc, Option.isSome_some]

/-- A run of ASCII digits is a numeral, with their values. -/
theorem numeralDigits_of_isDigit {s : List Char} (hs : s ≠ []) (hdigits : ∀ c ∈ s, c.isDigit = true) :
    numeralDigits? s = some (s.map fun c => c.toNat - '0'.toNat) := by
  fun_induction numeralDigits? s with
  | case1 => exact absurd rfl hs
  | case2 c => rw [digitValue_of_isDigit (hdigits c List.mem_cons_self)]; rfl
  | case3 c rest ih =>
    have hunderscore := hdigits '_' (List.mem_cons_of_mem c List.mem_cons_self)
    cases hunderscore
  | case4 c rest hrest _ ih =>
    obtain ⟨hc, hdigits⟩ := List.forall_mem_cons.1 hdigits
    rw [digitValue_of_isDigit hc, ih hrest hdigits]
    rfl

theorem ofDigits_map (s : List Char) (n : Nat) :
    (s.map fun c => c.toNat - '0'.toNat).foldl (fun n d => n * 10 + d) n =
      Nat.ofDigitChars 10 s n := by
  induction s generalizing n with
  | nil => rfl
  | cons c rest ih =>
    rw [List.map_cons, List.foldl_cons, ih, Nat.mul_comm]
    rfl

/-- The digits of a number are read as the number, if they are not too many. -/
theorem natural_toDigits (n : Nat) :
    natural? (Nat.toDigits 10 n) =
      if (Nat.toDigits 10 n).length ≤ maxDigits then some n else none := by
  obtain ⟨hne, hdigits, -⟩ := isNumeral_toDigits n
  have hvalue := ofDigits_map (Nat.toDigits 10 n) 0
  rw [Nat.ofDigitChars_ten_toDigits] at hvalue
  rw [natural?, numeralDigits_of_isDigit hne hdigits, Option.bind_eq_bind, Option.bind_some,
    List.length_map, ofDigits, hvalue]

theorem integer_negated (s : List Char) :
    integer? ('-' :: s) = (natural? s).map fun (n : Nat) => -(n : Int) := by
  rw [integer?]
  cases natural? s <;> rfl

theorem integer_of_isDigit {s : List Char} (hdigits : ∀ c ∈ s, c.isDigit = true) :
    integer? s = (natural? s).map fun (n : Nat) => (n : Int) := by
  have hsign : ∀ sign rest, sign.isDigit = false → s = sign :: rest → False := by
    rintro sign rest hsign rfl
    rw [hdigits sign List.mem_cons_self] at hsign
    cases hsign
  rw [integer?.eq_3 s (fun rest => hsign '-' rest rfl) (fun rest => hsign '+' rest rfl)]
  cases natural? s <;> rfl

/-- An integer is read as it is shown, if it is not too long. -/
theorem integer_showInt (i : Int) :
    integer? (showInt i).toList =
      if (Nat.toDigits 10 i.natAbs).length ≤ maxDigits then some i else none := by
  unfold showInt
  split
  · next hneg =>
    have hi : -(i.natAbs : Int) = i := by omega
    have hminus : "-".toList ++ Nat.toDigits 10 i.natAbs = '-' :: Nat.toDigits 10 i.natAbs := rfl
    rw [String.toList_append, Nat.toList_repr, hminus, integer_negated, natural_toDigits,
      apply_ite (Option.map _), Option.map_some, hi, Option.map_none]
  · next hpos =>
    have hi : (i.natAbs : Int) = i := by omega
    rw [Nat.toList_repr, integer_of_isDigit (isNumeral_toDigits _).2.1, natural_toDigits,
      apply_ite (Option.map _), Option.map_some, hi, Option.map_none]

end Literal

namespace Json

/-- The whole number that a value is, or that its text reads as. -/
def Value.whole? : Value → Option Int
  | .int i => some i
  | .str s => integer? (trim s).toList
  | _ => none

theorem isBlank_showInt (i : Int) : ∀ c ∈ (showInt i).toList, isBlank c = false := by
  have hdigits : ∀ c ∈ (Nat.repr i.natAbs).toList, isBlank c = false := by
    rw [Nat.toList_repr]
    exact fun c hc => isBlank_digit ((Literal.isNumeral_toDigits _).2.1 c hc)
  have hminus : isBlank '-' = false := by decide
  unfold showInt
  split
  · rw [String.toList_append]
    exact List.forall_mem_cons.2 ⟨hminus, hdigits⟩
  · exact hdigits

/-- A double shows a point, an exponent, or a word. -/
theorem exists_mark (x : Decimal.Binary64) :
    ∃ c ∈ ['.', 'e', 'n'], c ∈ (shownForm.write x).toList := by
  unfold Decimal.Form.write
  split
  · exact ⟨'n', by decide, by decide⟩
  · dsimp only
    split
    · exact ⟨'n', by decide, by rw [String.toList_append]; exact List.mem_append_right _ (by decide)⟩
    · split
      · exact ⟨'.', by decide, by rw [String.toList_append]; exact List.mem_append_right _ (by decide)⟩
      · rw [String.toList_append, String.toList_ofList]
        refine (?_ : ∀ sign : List Char, ∃ c ∈ ['.', 'e', 'n'], c ∈ sign ++ _) _
        intro sign
        split
        · exact ⟨'.', by decide, List.mem_append_right _ (Decimal.point_mem_positional _ _)⟩
        · exact ⟨'e', by decide, List.mem_append_right _ (Decimal.exponent_mem_scientific _ _ _)⟩

/-- What is shown of a value that is neither an integer nor a text reads as no integer. -/
theorem integer_shown_eq_none {v : Value} (hint : ∀ i, v ≠ .int i) (hstr : ∀ s, v ≠ .str s) :
    integer? (trim v.shown).toList = none := by
  -- Each of the kinds shows one of these characters, which no integer has.
  suffices ∃ c ∈ ['N', 'F', 'T', '.', 'e', 'n', '[', '\x7b'], c ∈ v.shown.toList by
    obtain ⟨c, hc, hshown⟩ := this
    have hforeign : ∀ c ∈ ['N', 'F', 'T', '.', 'e', 'n', '[', '\x7b'],
        Literal.inInteger c = false ∧ isBlank c = false := by
      simp only [List.forall_mem_cons, List.not_mem_nil, false_implies, implies_true, and_true]
      refine ⟨?_, ?_, ?_, ?_, ?_, ?_, ?_, ?_⟩ <;> exact ⟨by decide, by decide⟩
    exact Literal.integer_eq_none hshown (hforeign c hc).1 (hforeign c hc).2
  cases v with
  | null => exact ⟨'N', by decide, by decide⟩
  | bool b =>
    cases b
    · exact ⟨'F', by decide, by decide⟩
    · exact ⟨'T', by decide, by decide⟩
  | int i => exact absurd rfl (hint i)
  | float x =>
    obtain ⟨c, hc, hshown⟩ := exists_mark x
    have hmarks : ['.', 'e', 'n'] ⊆ ['N', 'F', 'T', '.', 'e', 'n', '[', '\x7b'] := by decide
    exact ⟨c, hmarks hc, hshown⟩
  | str s => exact absurd rfl (hstr s)
  | arr items => exact ⟨'[', by decide, by simp [Value.shown, Value.quote]⟩
  | obj fields => exact ⟨'\x7b', by decide, by simp [Value.shown, Value.quote]⟩

/-- What the text of a value reads as is the whole number that the value stands for. -/
theorem whole_of_integer {v : Value} {i : Int} (hi : integer? (trim v.shown).toList = some i) :
    v.whole? = some i := by
  cases v with
  | int j =>
    change integer? (trim (showInt j)).toList = some i at hi
    rw [toList_trim, Literal.trimChars_eq_self (isBlank_showInt j)] at hi
    rw [Literal.integer_showInt] at hi
    split at hi
    · exact hi
    · cases hi
  | str s => exact hi
  | null | bool | float | arr | obj =>
    rw [integer_shown_eq_none (by simp) (by simp)] at hi
    cases hi

/-- The whole number that a value stands for is read from its text, unless it is very long. -/
theorem integer_of_whole {v : Value} {i : Int} (hi : v.whole? = some i)
    (hshort : (Nat.toDigits 10 i.natAbs).length ≤ maxDigits) :
    integer? (trim v.shown).toList = some i := by
  cases v with
  | int j =>
    cases hi
    change integer? (trim (showInt i)).toList = some i
    rw [toList_trim, Literal.trimChars_eq_self (isBlank_showInt i)]
    rw [Literal.integer_showInt, if_pos hshort]
  | str s => exact hi
  | null | bool | float | arr | obj => cases hi

end Json

end Scaffold
