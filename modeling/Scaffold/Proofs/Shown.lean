import Scaffold.Diagram.Document

/-!
# Shown values are not blank

Ids and names of a document may be any values, and are shown as text. A value that is no text never
shows as blanks alone, so an id that is not missing stays so when it has become a text, and so does
a name that is given.

Main statements: `shown_not_blank`, `shown_ne_empty`.
-/

namespace Scaffold

namespace Text

theorem isBlankText_append (s t : String) :
    isBlankText (s ++ t) = (isBlankText s && isBlankText t) := by
  rw [isBlankText, String.toList_append, List.all_append]
  rfl

/-- A text with a character that is no blank is not blank. -/
theorem not_blank_of_mem {s : String} {c : Char} (hc : c ∈ s.toList) (hink : isBlank c = false) :
    isBlankText s = false :=
  List.all_eq_false.2 ⟨c, hc, by simp [hink]⟩

theorem ne_empty_of_not_blank {s : String} (hs : isBlankText s = false) : s ≠ "" := by
  rintro rfl
  cases hs

theorem isBlank_digit {c : Char} (hc : c.isDigit = true) : isBlank c = false := by
  have hrange : 48 ≤ c.toNat ∧ c.toNat ≤ 57 := by
    simpa [Char.isDigit, UInt32.le_iff_toNat_le] using hc
  have houtside : ∀ r ∈ blankRanges, 57 < r.1 ∨ r.2 < 48 := by decide
  simp only [isBlank, List.any_eq_false, Bool.and_eq_true, decide_eq_true_eq]
  intro r hr
  have hr := houtside r hr
  omega

theorem showInt_not_blank (i : Int) : isBlankText (showInt i) = false := by
  have hrepr : isBlankText (Nat.repr i.natAbs) = false := by
    obtain ⟨c, hc⟩ := List.exists_mem_of_ne_nil _ (Nat.toDigits_ne_nil (n := i.natAbs) (b := 10))
    refine not_blank_of_mem (c := c) ?_ (isBlank_digit ?_)
    · rwa [Nat.toList_repr]
    · exact Nat.isDigit_of_mem_toDigits (by decide) (by decide) hc
  unfold showInt
  split
  · rw [isBlankText_append, hrepr, Bool.and_false]
  · exact hrepr

end Text

open Text

namespace Decimal

theorem point_mem_positional (digits : List Char) (point : Int) :
    '.' ∈ positional digits point := by
  unfold positional
  split
  · simp
  · split <;> simp

theorem exponent_mem_scientific (width : Nat) (digits : List Char) (exponent : Int) :
    'e' ∈ scientific width digits exponent := by
  unfold scientific
  simp

/-- A number is written with a point or an exponent, if it is not written as a word. -/
theorem Form.write_not_blank {form : Form} (hinfinity : isBlankText form.infinity = false)
    (hnan : isBlankText form.nan = false) (x : Binary64) : isBlankText (form.write x) = false := by
  unfold Form.write
  split
  · exact hnan
  · dsimp only
    split
    · rw [isBlankText_append, hinfinity, Bool.and_false]
    · split
      · rw [isBlankText_append, Bool.and_eq_false_iff]
        exact .inr (by decide)
      · rw [isBlankText_append, Bool.and_eq_false_iff]
        refine .inr ?_
        split
        · refine not_blank_of_mem (c := '.') ?_ (by decide)
          simpa using point_mem_positional _ _
        · refine not_blank_of_mem (c := 'e') ?_ (by decide)
          simpa using exponent_mem_scientific _ _ _

end Decimal

namespace Json

/-- What is shown of a value that is no text is not blank. -/
theorem shown_not_blank {v : Value} (hv : ∀ s, v ≠ .str s) : isBlankText v.shown = false := by
  cases v with
  | null => decide
  | bool b => cases b <;> decide
  | int i => exact showInt_not_blank i
  | float x => exact Decimal.Form.write_not_blank (by decide) (by decide) x
  | str s => exact absurd rfl (hv s)
  | arr items =>
    exact not_blank_of_mem (c := '[') (by simp [Value.shown, Value.quote]) (by decide)
  | obj fields =>
    exact not_blank_of_mem (c := '\x7b') (by simp [Value.shown, Value.quote]) (by decide)

/-- What is shown of a value that is given is not empty. -/
theorem shown_ne_empty {v : Value} (hv : v.isGiven = true) : v.shown ≠ "" := by
  cases v with
  | str s => exact of_decide_eq_true hv
  | _ => exact ne_empty_of_not_blank (shown_not_blank (by simp))

end Json

/-- What is shown of an id that is not missing is not blank. -/
theorem Document.shown_not_blank {v : Json.Value} (hv : isMissing v = false) :
    isBlankText v.shown = false := by
  cases v with
  | str s => exact hv
  | null => cases hv
  | _ => exact Json.shown_not_blank (by simp)

end Scaffold
