import Mathlib
import Scaffold.Java.Literal
import Scaffold.Proofs.WholeNumbers

/-!
# Literals of default values

A default value becomes a literal if its text reads as a number of the type, and every value becomes
a literal of type `String`. This module says what literals of Java are: besides `Literal.Whole` for
whole numbers these are `Literal.DecimalParts` for decimal numbers and `Literal.Spells` for what
stands between the quotes of a text. `JavaType.Denotes` relates them to the values they stand for.

Literals are made without a look at three things: whether a whole number is in the range of the
type, whether the digits of a decimal number are those of ASCII, and whether a text has more than one
line. `JavaType.Suits` says that a value has none of these flaws.

Main statement: `literal_denotes_iff`.
-/

namespace Scaffold

open Text

namespace Literal

/-! ## Decimal numbers -/

/-- A run of digits of any script. -/
def IsDigits (s : List Char) : Prop := s ≠ [] ∧ ∀ c ∈ s, isDigit c = true

/-- The number that a run of digits of any script stands for. -/
def digitsValue (s : List Char) : Nat := ofDigits 10 (s.filterMap digitValue?)

/-- The exponent of a decimal number. -/
structure Exponent where
  /-- The letter in front. -/
  mark : Char
  /-- The sign, or nothing. -/
  sign : List Char
  /-- The digits. -/
  digits : List Char

/-- An exponent has one of two letters, perhaps a sign, and digits. -/
def Exponent.Valid (e : Exponent) : Prop :=
  e.mark ∈ ['e', 'E'] ∧ e.sign ∈ [[], ['+'], ['-']] ∧ IsDigits e.digits

/-- An exponent as it is written. -/
def Exponent.text (e : Exponent) : List Char := e.mark :: (e.sign ++ e.digits)

/-- The power of ten that an exponent stands for. -/
def Exponent.value (e : Exponent) : Int :=
  if e.sign = ['-'] then -(digitsValue e.digits : Int) else digitsValue e.digits

/-- The parts of a decimal number. -/
structure DecimalParts where
  /-- Whether a minus sign stands in front. -/
  negative : Bool
  /-- The digits in front of the point. -/
  whole : List Char
  /-- The digits behind the point, if there is one. -/
  fraction : Option (List Char)
  /-- The exponent, if there is one. -/
  exponent : Option Exponent

namespace DecimalParts

variable (p : DecimalParts)

/-- Each part of a decimal number is well-formed. -/
def Valid : Prop :=
  IsDigits p.whole ∧ (∀ f ∈ p.fraction, IsDigits f) ∧ ∀ e ∈ p.exponent, e.Valid

/-- A decimal number as it is written. -/
def text : List Char :=
  (if p.negative then ['-'] else []) ++ (p.whole ++
    (p.fraction.elim [] ('.' :: ·) ++ p.exponent.elim [] Exponent.text))

/-- The number that the parts stand for. -/
def value : ℚ :=
  (if p.negative then -1 else 1) * digitsValue (p.whole ++ p.fraction.getD []) *
    10 ^ (p.exponent.elim 0 Exponent.value - ((p.fraction.getD []).length : Int))

/-- A decimal number with a fraction or an exponent, in ASCII: what Java reads as a double. -/
def IsDouble : Prop :=
  p.Valid ∧ (p.fraction.isSome ∨ p.exponent.isSome) ∧ ∀ c ∈ p.text, c.val < 0x80

end DecimalParts

/-- The rest behind the digits starts with no digit. -/
theorem afterDigits_eq_some {s rest : List Char} :
    afterDigits? s = some rest ↔
      (∃ digits, IsDigits digits ∧ s = digits ++ rest) ∧ ∀ c ∈ rest.head?, isDigit c = false := by
  constructor
  · intro h
    cases s with
    | nil => cases h
    | cons c tail =>
      rw [afterDigits?] at h
      split at h
      · next hc =>
        obtain rfl := Option.some.inj h
        refine ⟨⟨c :: tail.takeWhile isDigit, ⟨List.cons_ne_nil _ _, ?_⟩, ?_⟩, ?_⟩
        · exact List.forall_mem_cons.2 ⟨hc, fun x hx => List.mem_takeWhile_imp hx⟩
        · rw [List.cons_append, List.takeWhile_append_dropWhile]
        · intro x hx
          have hstop := List.head?_dropWhile_not isDigit tail
          rw [Option.mem_def.1 hx] at hstop
          simpa using hstop
      · cases h
  · rintro ⟨⟨digits, ⟨hne, hdigits⟩, rfl⟩, hrest⟩
    cases digits with
    | nil => exact absurd rfl hne
    | cons c tail =>
      obtain ⟨hc, htail⟩ := List.forall_mem_cons.1 hdigits
      have hstop : rest.dropWhile isDigit = rest := by
        cases rest with
        | nil => rfl
        | cons x others => exact List.dropWhile_cons_of_neg (by simp [hrest x rfl])
      rw [List.cons_append, afterDigits?, if_pos hc, List.dropWhile_append_of_pos htail, hstop]

/-- A run of digits alone has nothing behind it. -/
theorem afterDigits_eq_some_nil {s : List Char} : afterDigits? s = some [] ↔ IsDigits s := by
  rw [afterDigits_eq_some]
  simp

/-- A letter and digits, perhaps with a sign between them, are an exponent. -/
theorem isExponentPart_text {e : Exponent} (he : e.Valid) : isExponentPart e.text = true := by
  obtain ⟨mark, sign, digits⟩ := e
  obtain ⟨hletter, hsign, hdigits⟩ := he
  have hmark : (decide (mark = 'e') || decide (mark = 'E')) = true := by simpa using hletter
  have hafter : decide (afterDigits? digits = some []) = true :=
    decide_eq_true (afterDigits_eq_some_nil.2 hdigits)
  simp only [List.mem_cons, List.not_mem_nil, or_false] at hsign
  rcases hsign with rfl | rfl | rfl
  · have hfirst : ∀ sign rest, isDigit sign = false → digits = sign :: rest → False := by
      rintro sign rest hsign rfl
      rw [hdigits.2 sign List.mem_cons_self] at hsign
      cases hsign
    refine Bool.and_eq_true_iff.2 ⟨hmark, ?_⟩
    rw [List.nil_append]
    split
    · next rest h => exact (hfirst '+' _ (by decide) h).elim
    · next rest h => exact (hfirst '-' _ (by decide) h).elim
    · exact hafter
  · exact Bool.and_eq_true_iff.2 ⟨hmark, hafter⟩
  · exact Bool.and_eq_true_iff.2 ⟨hmark, hafter⟩

theorem isExponentPart_iff {s : List Char} :
    isExponentPart s = true ↔ s = [] ∨ ∃ e : Exponent, e.Valid ∧ e.text = s := by
  constructor
  · intro h
    match s with
    | [] => exact .inl rfl
    | mark :: rest =>
      refine .inr ?_
      unfold isExponentPart at h
      rw [Bool.and_eq_true] at h
      obtain ⟨hmark, hafter⟩ := h
      have hmark : mark ∈ ['e', 'E'] := by simpa using hmark
      have hdigits := afterDigits_eq_some_nil.1 (of_decide_eq_true hafter)
      split at hdigits
      · next digits => exact ⟨⟨mark, ['+'], digits⟩, ⟨hmark, by simp, hdigits⟩, rfl⟩
      · next digits => exact ⟨⟨mark, ['-'], digits⟩, ⟨hmark, by simp, hdigits⟩, rfl⟩
      · exact ⟨⟨mark, [], rest⟩, ⟨hmark, by simp, hdigits⟩, rfl⟩
  · rintro (rfl | ⟨e, he, rfl⟩)
    · rfl
    · exact isExponentPart_text he

/-- Whether a text is a decimal number without a sign. -/
def isUnsigned (s : List Char) : Bool :=
  match afterDigits? s with
  | none => false
  | some ('.' :: rest) => (afterDigits? rest).any isExponentPart
  | some rest => isExponentPart rest

theorem isDecimal_negative (s : List Char) : isDecimal ('-' :: s) = isUnsigned s := rfl

theorem isDecimal_of_ne {s : List Char} (hs : ∀ rest, s ≠ '-' :: rest) :
    isDecimal s = isUnsigned s := by
  unfold isDecimal
  split
  · next rest => exact absurd rfl (hs rest)
  · rfl

theorem isUnsigned_of_point {s rest : List Char} (hs : afterDigits? s = some ('.' :: rest)) :
    isUnsigned s = (afterDigits? rest).any isExponentPart := by
  simp only [isUnsigned, hs]

theorem isUnsigned_of_ne {s rest : List Char} (hs : afterDigits? s = some rest)
    (hrest : rest.head? ≠ some '.') : isUnsigned s = isExponentPart rest := by
  rw [isUnsigned, hs]
  split
  · next h => cases h
  · next h => exact absurd (by rw [Option.some.inj h]; rfl) hrest
  · next h => rw [Option.some.inj h]

/-- What stands behind the digits of a decimal number is an exponent or nothing, and no point. -/
theorem exponent_text {exponent : Option Exponent} (hexponent : ∀ e ∈ exponent, e.Valid) :
    isExponentPart (exponent.elim [] Exponent.text) = true ∧
      ∀ c ∈ (exponent.elim [] Exponent.text).head?, c ∈ ['e', 'E'] := by
  cases exponent with
  | none => exact ⟨rfl, by simp⟩
  | some e =>
    refine ⟨isExponentPart_text (hexponent e rfl), fun c hc => ?_⟩
    rw [← Option.some.inj hc]
    exact (hexponent e rfl).1

theorem isUnsigned_text {p : DecimalParts} (hp : p.Valid) (hsign : p.negative = false) :
    isUnsigned p.text = true := by
  obtain ⟨negative, whole, fraction, exponent⟩ := p
  obtain ⟨hwhole, hfraction, hexponent⟩ := hp
  obtain rfl : negative = false := hsign
  obtain ⟨hpart, hhead⟩ := exponent_text hexponent
  have hstop : ∀ c ∈ (exponent.elim [] Exponent.text).head?, isDigit c = false := by
    have hletters : isDigit 'e' = false ∧ isDigit 'E' = false := ⟨by decide, by decide⟩
    intro c hc
    rcases List.mem_pair.1 (hhead c hc) with rfl | rfl
    · exact hletters.1
    · exact hletters.2
  cases fraction with
  | none =>
    have hfront : afterDigits? (whole ++ exponent.elim [] Exponent.text) =
        some (exponent.elim [] Exponent.text) :=
      afterDigits_eq_some.2 ⟨⟨whole, hwhole, rfl⟩, hstop⟩
    refine (isUnsigned_of_ne hfront fun hpoint => ?_).trans hpart
    rcases List.mem_pair.1 (hhead '.' hpoint) with h | h <;> cases h
  | some f =>
    have hfront : afterDigits? (whole ++ '.' :: (f ++ exponent.elim [] Exponent.text)) =
        some ('.' :: (f ++ exponent.elim [] Exponent.text)) := by
      have hpoint : isDigit '.' = false := by decide
      exact afterDigits_eq_some.2 ⟨⟨whole, hwhole, rfl⟩, by simpa using hpoint⟩
    have hback : afterDigits? (f ++ exponent.elim [] Exponent.text) =
        some (exponent.elim [] Exponent.text) :=
      afterDigits_eq_some.2 ⟨⟨f, hfraction f rfl, rfl⟩, hstop⟩
    refine (isUnsigned_of_point hfront).trans ?_
    rw [hback]
    exact hpart

/-- A text is a decimal number without a sign if it can be divided into the parts of one. -/
theorem isUnsigned_iff {s : List Char} :
    isUnsigned s = true ↔ ∃ p : DecimalParts, p.Valid ∧ p.negative = false ∧ p.text = s := by
  constructor
  · intro h
    unfold isUnsigned at h
    split at h
    · cases h
    · next rest hfront =>
      obtain ⟨⟨whole, hwhole, rfl⟩, -⟩ := afterDigits_eq_some.1 hfront
      rw [Option.any_eq_true] at h
      obtain ⟨last, hlast, hpart⟩ := h
      obtain ⟨⟨fraction, hfraction, rfl⟩, -⟩ := afterDigits_eq_some.1 hlast
      rcases isExponentPart_iff.1 hpart with rfl | ⟨e, he, rfl⟩
      · exact ⟨⟨false, whole, some fraction, none⟩,
          ⟨hwhole, by simpa using hfraction, by simp⟩, rfl, rfl⟩
      · exact ⟨⟨false, whole, some fraction, some e⟩,
          ⟨hwhole, by simpa using hfraction, by simpa using he⟩, rfl, rfl⟩
    · next rest _ hfront =>
      obtain ⟨⟨whole, hwhole, rfl⟩, -⟩ := afterDigits_eq_some.1 hfront
      rcases isExponentPart_iff.1 h with rfl | ⟨e, he, rfl⟩
      · exact ⟨⟨false, whole, none, none⟩, ⟨hwhole, by simp, by simp⟩, rfl, rfl⟩
      · exact ⟨⟨false, whole, none, some e⟩, ⟨hwhole, by simp, by simpa using he⟩, rfl, rfl⟩
  · rintro ⟨p, hp, hsign, rfl⟩
    exact isUnsigned_text hp hsign

/-- A text is a decimal number if it can be divided into the parts of one. -/
theorem isDecimal_iff {s : List Char} :
    isDecimal s = true ↔ ∃ p : DecimalParts, p.Valid ∧ p.text = s := by
  have hnegated : ∀ rest, isUnsigned rest = true ↔
      ∃ p : DecimalParts, p.Valid ∧ p.negative = true ∧ p.text = '-' :: rest := by
    intro rest
    rw [isUnsigned_iff]
    constructor
    · rintro ⟨p, hp, hsign, rfl⟩
      exact ⟨{ p with negative := true }, hp, rfl, by simp [DecimalParts.text, hsign]⟩
    · rintro ⟨p, hp, hsign, htext⟩
      refine ⟨{ p with negative := false }, hp, rfl, ?_⟩
      rw [DecimalParts.text, if_pos hsign] at htext
      exact (List.cons.inj htext).2
  have hdigit : ∀ p : DecimalParts, p.Valid → p.negative = false → ∀ rest, p.text ≠ '-' :: rest := by
    rintro ⟨negative, whole, fraction, exponent⟩ ⟨⟨hne, hdigits⟩, -⟩ rfl rest htext
    cases whole with
    | nil => exact hne rfl
    | cons c others =>
      obtain rfl : c = '-' := (List.cons.inj htext).1
      have hminus := hdigits '-' List.mem_cons_self
      revert hminus
      decide
  by_cases hs : ∃ rest, s = '-' :: rest
  · obtain ⟨rest, rfl⟩ := hs
    rw [isDecimal_negative, hnegated]
    constructor
    · exact fun ⟨p, hp, _, htext⟩ => ⟨p, hp, htext⟩
    · rintro ⟨p, hp, htext⟩
      cases hsign : p.negative with
      | false => exact absurd htext (hdigit p hp hsign rest)
      | true => exact ⟨p, hp, hsign, htext⟩
  · have hs : ∀ rest, s ≠ '-' :: rest := fun rest h => hs ⟨rest, h⟩
    rw [isDecimal_of_ne hs, isUnsigned_iff]
    constructor
    · exact fun ⟨p, hp, _, htext⟩ => ⟨p, hp, htext⟩
    · rintro ⟨p, hp, htext⟩
      cases hsign : p.negative with
      | false => exact ⟨p, hp, hsign, htext⟩
      | true =>
        rw [DecimalParts.text, if_pos hsign] at htext
        exact absurd htext.symm (hs _)

/-- The parts of a number with a fraction of zero in place of none. -/
def DecimalParts.withFraction (p : DecimalParts) : DecimalParts := { p with fraction := some ['0'] }

theorem DecimalParts.valid_withFraction {p : DecimalParts} (hp : p.Valid) :
    p.withFraction.Valid := by
  have hzero : IsDigits ['0'] :=
    ⟨List.cons_ne_nil _ _, List.forall_mem_singleton.2 (isDigit_of_isDigit (by decide))⟩
  exact ⟨hp.1, by simpa [withFraction] using hzero, hp.2.2⟩

/-- A fraction of zero behind a number without fraction and exponent is a point and a zero. -/
theorem DecimalParts.text_withFraction {p : DecimalParts} (hfraction : p.fraction = none)
    (hexponent : p.exponent = none) : p.withFraction.text = p.text ++ ".0".toList := by
  simp [text, withFraction, hfraction, hexponent]

theorem digitsValue_append_zero (s : List Char) :
    digitsValue (s ++ ['0']) = digitsValue s * 10 := by
  have hzero : List.filterMap digitValue? ['0'] = [0] :=
    List.filterMap_cons_some (digitValue_of_isDigit (by decide))
  rw [digitsValue, List.filterMap_append, hzero, ofDigits, List.foldl_append]
  rfl

/-- A fraction of zero leaves the number as it is. -/
theorem DecimalParts.value_withFraction {p : DecimalParts} (hfraction : p.fraction = none) :
    p.withFraction.value = p.value := by
  have hten : (10 : ℚ) ≠ 0 := by norm_num
  have hshift : ∀ e : Int, (10 : ℚ) * 10 ^ (e - 1) = 10 ^ e := by
    intro e
    rw [zpow_sub₀ hten, zpow_one]
    field_simp
  obtain ⟨negative, whole, fraction, exponent⟩ := p
  obtain rfl : fraction = none := hfraction
  change (if negative then -1 else 1) * (digitsValue (whole ++ ['0']) : ℚ) *
      10 ^ (exponent.elim 0 Exponent.value - 1) =
    (if negative then -1 else 1) * digitsValue (whole ++ []) *
      10 ^ (exponent.elim 0 Exponent.value - 0)
  rw [digitsValue_append_zero, List.append_nil, sub_zero,
    ← hshift (exponent.elim 0 Exponent.value), Nat.cast_mul]
  push_cast
  ring

/-- Whether a character can only stand in a fraction or an exponent. -/
def isMark (c : Char) : Bool := c = '.' || c = 'e' || c = 'E'

/-- A decimal number has a mark if it has a fraction or an exponent. -/
theorem any_isMark_iff {p : DecimalParts} (hp : p.Valid) :
    p.text.any isMark = true ↔ p.fraction.isSome ∨ p.exponent.isSome := by
  obtain ⟨negative, whole, fraction, exponent⟩ := p
  constructor
  · intro h
    obtain ⟨c, hc, hmark⟩ := List.any_eq_true.1 h
    rcases List.mem_append.1 hc with hc | hc
    · have hsign : ('-' : Char) ∈ (if negative then ['-'] else []) → isMark '-' = false :=
        fun _ => by decide
      split at hc
      · rw [List.mem_singleton.1 hc] at hmark
        cases hmark
      · cases hc
    · rcases List.mem_append.1 hc with hc | hc
      · -- The digits in front of the point are no marks.
        have hdigit := hp.1.2 c hc
        have hmarks : ∀ c ∈ ['.', 'e', 'E'], isDigit c = false := by
          simp only [List.forall_mem_cons, List.not_mem_nil, false_implies, implies_true, and_true]
          exact ⟨by decide, by decide, by decide⟩
        have hc : c ∈ ['.', 'e', 'E'] := by simpa [isMark, or_assoc] using hmark
        rw [hmarks c hc] at hdigit
        cases hdigit
      · cases fraction with
        | some f => exact .inl rfl
        | none =>
          cases exponent with
          | some e => exact .inr rfl
          | none => cases hc
  · rintro (h | h)
    · obtain ⟨f, rfl⟩ := Option.isSome_iff_exists.1 h
      exact List.any_eq_true.2 ⟨'.', by simp [DecimalParts.text], by decide⟩
    · obtain ⟨e, rfl⟩ := Option.isSome_iff_exists.1 h
      have hmark : isMark e.mark = true := by
        rcases List.mem_pair.1 (hp.2.2 e rfl).1 with h | h <;> rw [h] <;> decide
      exact List.any_eq_true.2 ⟨e.mark, by simp [DecimalParts.text, Exponent.text], hmark⟩

/-- A literal of a decimal number has the parts of the number, with a fraction of zero if there is
neither a fraction nor an exponent. -/
theorem decimal_eq_some {s text : String} (h : decimal? s = some text) :
    ∃ q : DecimalParts, q.Valid ∧ q.text = s.toList ∧
      (text = s ∧ (q.fraction.isSome ∨ q.exponent.isSome) ∨
        text = s ++ ".0" ∧ q.fraction = none ∧ q.exponent = none) := by
  unfold decimal? at h
  split at h
  · cases h
  · next hdecimal =>
    obtain ⟨q, hq, htext⟩ := isDecimal_iff.1 (by simpa using hdecimal)
    have hmarks := any_isMark_iff hq
    rw [htext] at hmarks
    refine ⟨q, hq, htext, ?_⟩
    split at h
    · next hmark => exact .inl ⟨(Option.some.inj h).symm, hmarks.1 hmark⟩
    · next hmark =>
      have hnone := mt hmarks.2 hmark
      rw [not_or, Option.not_isSome_iff_eq_none, Option.not_isSome_iff_eq_none] at hnone
      exact .inr ⟨(Option.some.inj h).symm, hnone⟩

/-! ## Texts -/

/-- What may follow a backslash in a text, with the character that the two stand for. -/
def escapes : List (Char × Char) :=
  [('b', '\x08'), ('s', ' '), ('t', '\t'), ('n', '\n'), ('f', '\x0c'), ('r', '\r'), ('"', '"'),
    ('\'', '\''), ('\\', '\\')]

/-- What stands between the quotes of a text on one line, with the text that it stands for. Escapes
by number are not used. -/
inductive Spells : List Char → List Char → Prop where
  /-- The empty text. -/
  | nil : Spells [] []
  /-- A character that stands for itself. -/
  | plain {c : Char} {body s : List Char} (hc : c ∉ ['"', '\\', '\n', '\r'])
      (hs : Spells body s) : Spells (c :: body) (c :: s)
  /-- A backslash and the name of a character. -/
  | escaped {name c : Char} {body s : List Char} (hc : (name, c) ∈ escapes)
      (hs : Spells body s) : Spells ('\\' :: name :: body) (c :: s)

/-- Escaping spells a text without line breaks. -/
theorem spells_flatMap {s : List Char} (hs : ∀ c ∈ s, c ≠ '\n' ∧ c ≠ '\r') :
    Spells (s.flatMap escapedChar) s := by
  induction s with
  | nil => exact .nil
  | cons c rest ih =>
    obtain ⟨hc, hrest⟩ := List.forall_mem_cons.1 hs
    have hspells := ih hrest
    rw [List.flatMap_cons]
    by_cases hspecial : c = '\\' ∨ c = '"'
    · rw [escapedChar, if_pos hspecial]
      refine .escaped ?_ hspells
      rcases hspecial with rfl | rfl <;> decide
    · rw [escapedChar, if_neg hspecial]
      refine .plain ?_ hspells
      simp only [List.mem_cons, List.not_mem_nil, or_false]
      tauto

/-- What stands between the quotes has no line breaks. -/
theorem Spells.one_line {body s : List Char} (h : Spells body s) :
    ∀ c ∈ body, c ≠ '\n' ∧ c ≠ '\r' := by
  induction h with
  | nil => simp
  | plain hc _ ih =>
    refine List.forall_mem_cons.2 ⟨?_, ih⟩
    simp only [List.mem_cons, List.not_mem_nil, or_false] at hc
    tauto
  | @escaped name c body s hc _ ih =>
    have hnames : ∀ e ∈ escapes, e.1 ≠ '\n' ∧ e.1 ≠ '\r' := by decide
    exact List.forall_mem_cons.2 ⟨by decide, List.forall_mem_cons.2 ⟨hnames _ hc, ih⟩⟩

theorem mem_flatMap_escapedChar {s : List Char} {c : Char} (hc : c ∈ s) :
    c ∈ s.flatMap escapedChar := by
  refine List.mem_flatMap.2 ⟨c, hc, ?_⟩
  unfold escapedChar
  split <;> simp

end Literal

/-! ## Literals of a type -/

namespace JavaType

open Literal

/-- Whether a text is a literal of a type and stands for a value. -/
def Denotes (t : JavaType) (text : String) (v : Json.Value) : Prop :=
  match t with
  | .string => ∃ body, text.toList = '"' :: (body ++ ['"']) ∧ Spells body v.shown.toList
  | .integer => ∃ i, Whole text.toList i ∧ InRange 31 i ∧ v.whole? = some i
  | .long =>
    ∃ digits i, text.toList = digits ++ ['L'] ∧ Whole digits i ∧ InRange 63 i ∧ v.whole? = some i
  | .double =>
    ∃ p q : DecimalParts, p.text = text.toList ∧ p.IsDouble ∧
      q.text = (trim v.shown).toList ∧ q.Valid ∧ p.value = q.value
  | _ => False

/-- Whether a value has none of the flaws that are not looked for: a text has one line, a whole
number is in the range of the type, and a decimal number is written in ASCII. -/
def Suits (t : JavaType) (v : Json.Value) : Prop :=
  match t with
  | .string => ∀ c ∈ v.shown.toList, c ≠ '\n' ∧ c ≠ '\r'
  | .integer => ∀ i, v.whole? = some i → InRange 31 i
  | .long => ∀ i, v.whole? = some i → InRange 63 i
  | .double => ∀ c ∈ (trim v.shown).toList, c.val < 0x80
  | _ => True

theorem literal_integer (v : Json.Value) :
    literal .integer v = (integer? (trim v.shown).toList).map showInt := rfl

theorem literal_long (v : Json.Value) :
    literal .long v = (integer? (trim v.shown).toList).map fun i => showInt i ++ "L" := rfl

theorem literal_double (v : Json.Value) :
    literal .double v = Literal.decimal? (trim v.shown) := rfl

theorem denotes_string_iff (v : Json.Value) :
    Denotes .string (Literal.text v.shown) v ↔ Suits .string v := by
  constructor
  · rintro ⟨body, htext, hspells⟩ c hc
    rw [Literal.text, String.toList_ofList, List.cons_append] at htext
    obtain ⟨-, hbody⟩ := List.cons.inj htext
    rw [List.append_cancel_right hbody.symm] at hspells
    exact hspells.one_line c (mem_flatMap_escapedChar hc)
  · intro hv
    exact ⟨_, by rw [Literal.text, String.toList_ofList]; rfl, spells_flatMap hv⟩

/-- Numbers of up to 64 bits are short enough to be read. -/
theorem length_toDigits_of_inRange {bits : Nat} {i : Int} (hbits : bits ≤ 63) (hi : InRange bits i) :
    (Nat.toDigits 10 i.natAbs).length ≤ maxDigits := by
  have hpow : (2 : Int) ^ bits ≤ 2 ^ 63 := pow_le_pow_right₀ (by norm_num) hbits
  obtain ⟨hlow, hhigh⟩ := hi
  have hsmall : i.natAbs < 10 ^ 20 := by omega
  have hlength : (Nat.toDigits 10 i.natAbs).length ≤ 20 :=
    (Nat.length_toDigits_le_iff (by decide) (by decide)).2 hsmall
  exact hlength.trans (by decide)

theorem whole_eq_of_integer {v : Json.Value} {i j : Int}
    (hi : integer? (trim v.shown).toList = some i) (hj : v.whole? = some j) : j = i := by
  rw [Json.whole_of_integer hi] at hj
  exact (Option.some.inj hj).symm

theorem denotes_integer_iff {v : Json.Value} {i : Int}
    (hi : integer? (trim v.shown).toList = some i) :
    Denotes .integer (showInt i) v ↔ Suits .integer v := by
  constructor
  · rintro ⟨j, -, hrange, hj⟩ k hk
    rwa [whole_eq_of_integer hi hk, ← whole_eq_of_integer hi hj]
  · intro hv
    exact ⟨i, whole_showInt i, hv i (Json.whole_of_integer hi), Json.whole_of_integer hi⟩

theorem denotes_long_iff {v : Json.Value} {i : Int}
    (hi : integer? (trim v.shown).toList = some i) :
    Denotes .long (showInt i ++ "L") v ↔ Suits .long v := by
  constructor
  · rintro ⟨-, j, -, -, hrange, hj⟩ k hk
    rwa [whole_eq_of_integer hi hk, ← whole_eq_of_integer hi hj]
  · intro hv
    exact ⟨(showInt i).toList, i, String.toList_append, whole_showInt i,
      hv i (Json.whole_of_integer hi), Json.whole_of_integer hi⟩

/-- A value whose text is read as no integer is no integer in the range of a type. -/
theorem not_inRange_of_none {v : Json.Value} (hv : integer? (trim v.shown).toList = none)
    {bits : Nat} (hbits : bits ≤ 63) {i : Int} (hi : v.whole? = some i) : ¬InRange bits i := by
  intro hrange
  rw [Json.integer_of_whole hi (length_toDigits_of_inRange hbits hrange)] at hv
  cases hv

theorem denotes_double_iff {v : Json.Value} {text : String}
    (h : Literal.decimal? (trim v.shown) = some text) :
    Denotes .double text v ↔ Suits .double v := by
  obtain ⟨q, hq, hshown, hform⟩ := decimal_eq_some h
  constructor
  · rintro ⟨p, -, htext, ⟨-, -, hascii⟩, -⟩ c hc
    refine hascii c ?_
    rw [htext]
    rcases hform with ⟨rfl, -⟩ | ⟨rfl, -⟩
    · exact hc
    · rw [String.toList_append]
      exact List.mem_append_left _ hc
  · intro hv
    have hascii : ∀ c ∈ q.text, c.val < 0x80 := by rwa [hshown]
    rcases hform with ⟨rfl, hmark⟩ | ⟨rfl, hfraction, hexponent⟩
    · exact ⟨q, q, hshown, ⟨hq, hmark, hascii⟩, hshown, hq, rfl⟩
    · have htext := DecimalParts.text_withFraction hfraction hexponent
      refine ⟨q.withFraction, q, ?_, ⟨DecimalParts.valid_withFraction hq, .inl rfl, ?_⟩, hshown, hq,
        DecimalParts.value_withFraction hfraction⟩
      · rw [htext, hshown, String.toList_append]
      · rw [htext]
        intro c hc
        have hzero : ∀ c ∈ ".0".toList, c.val < 0x80 :=
          List.forall_mem_cons.2 ⟨by decide, List.forall_mem_singleton.2 (by decide)⟩
        exact (List.mem_append.1 hc).elim (hascii c) (hzero c)

/-- A literal of a type stands for its value on one condition: the text has one line, the whole
number is in the range of the type, the decimal number is written in ASCII. Where there is no
literal, no text would be one. -/
theorem literal_denotes_iff {t : JavaType} (ht : t ∈ [.string, .integer, .long, .double])
    (v : Json.Value) :
    (∀ text, t.literal v = some text → (t.Denotes text v ↔ t.Suits v)) ∧
      (t.literal v = none → ∀ text, ¬t.Denotes text v) := by
  simp only [List.mem_cons, List.not_mem_nil, or_false] at ht
  rcases ht with rfl | rfl | rfl | rfl
  · refine ⟨fun text htext => ?_, fun h => by cases h⟩
    rw [← Option.some.inj htext]
    exact denotes_string_iff v
  · refine ⟨fun text htext => ?_, ?_⟩
    · rw [literal_integer] at htext
      obtain ⟨i, hi, rfl⟩ := Option.map_eq_some_iff.1 htext
      exact denotes_integer_iff hi
    · rintro h text ⟨i, -, hrange, hi⟩
      rw [literal_integer, Option.map_eq_none_iff] at h
      exact not_inRange_of_none h (by decide) hi hrange
  · refine ⟨fun text htext => ?_, ?_⟩
    · rw [literal_long] at htext
      obtain ⟨i, hi, rfl⟩ := Option.map_eq_some_iff.1 htext
      exact denotes_long_iff hi
    · rintro h text ⟨-, i, -, -, hrange, hi⟩
      rw [literal_long, Option.map_eq_none_iff] at h
      exact not_inRange_of_none h (by decide) hi hrange
  · refine ⟨fun text htext => denotes_double_iff htext, ?_⟩
    rintro h text ⟨-, q, -, -, hshown, hq, -⟩
    have hdecimal := isDecimal_iff.2 ⟨q, hq, hshown⟩
    rw [literal_double, Literal.decimal?, hdecimal, Bool.not_true, if_neg (by decide)] at h
    split at h <;> cases h

/-- An age with blanks around it is written as a number, and a word is not. -/
theorem literal_denotes_age :
    literal .integer (.str " 018 ") = some "18" ∧ Denotes .integer "18" (.str " 018 ") ∧
      ∀ text, ¬Denotes .double text (.str "adult") := by
  have hliteral : literal .integer (.str " 018 ") = some "18" := by decide
  have hsuits : Suits .integer (.str " 018 ") := by
    intro i hi
    have hwhole : Json.Value.whole? (.str " 018 ") = some 18 := by decide
    rw [← Option.some.inj (hwhole.symm.trans hi)]
    exact ⟨by decide, by decide⟩
  exact ⟨hliteral, ((literal_denotes_iff (by decide) (.str " 018 ")).1 _ hliteral).2 hsuits,
    (literal_denotes_iff (by decide) (.str "adult")).2 (by decide)⟩

/-- The number behind the greatest one of a type, digits of another script and a text of two lines
have literals that do not stand for them. -/
theorem not_denotes_overflow :
    (literal .integer (.int 2147483648) = some "2147483648" ∧
        ¬Denotes .integer "2147483648" (.int 2147483648)) ∧
      (literal .long (.int 9223372036854775808) = some "9223372036854775808L" ∧
        ¬Denotes .long "9223372036854775808L" (.int 9223372036854775808)) ∧
      (literal .double (.str "٣") = some "٣.0" ∧ ¬Denotes .double "٣.0" (.str "٣")) ∧
      literal .string (.str "a\nb") = some "\"a\nb\"" ∧
        ¬Denotes .string "\"a\nb\"" (.str "a\nb") := by
  have hinteger : ¬InRange 31 2147483648 := fun h => absurd h.2 (by decide)
  have hlong : ¬InRange 63 9223372036854775808 := fun h => absurd h.2 (by decide)
  refine ⟨⟨by decide, fun h => ?_⟩, ⟨by decide, fun h => ?_⟩, ⟨by decide, fun h => ?_⟩, by decide,
    fun h => ?_⟩
  · have hread : integer? (trim (Json.Value.int 2147483648).shown).toList = some 2147483648 := by
      decide
    exact hinteger ((denotes_integer_iff hread).1 h _ rfl)
  · have hread : integer? (trim (Json.Value.int 9223372036854775808).shown).toList =
        some 9223372036854775808 := by decide
    exact hlong ((denotes_long_iff hread).1 h _ rfl)
  · have hascii := (denotes_double_iff (by decide)).1 h '٣' (by decide)
    revert hascii
    decide
  · exact ((denotes_string_iff (.str "a\nb")).1 h '\n' (by decide)).1 rfl

end JavaType

end Scaffold
