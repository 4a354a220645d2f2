import Scaffold.Diagram.Shorthand
import Scaffold.Proofs.Text

/-!
# What a shorthand is read as

`Spells` says how a name and a type are written as a shorthand: with blanks around both of them, and
if the type is `String` also without it. The name and the type have no blanks at their ends, and the
name holds no colon, so that the first colon of the text is the one between them: `Suits`. Reading
accepts exactly these texts: `parseChars_eq_some_iff`.

The type may hold colons and blanks of its own. A missing type is read as one that can be written,
so what has been read can be written with its type, and is then read as the same again.

Main statement: `parse_spelled`.
-/

namespace Scaffold.Shorthand

open Text

/-- What a shorthand can be read as. -/
structure Suits (name type : List Char) : Prop where
  /-- The name is not empty. -/
  name_ne : name ≠ []
  /-- The name is in front of the first colon. -/
  colon : ':' ∉ name
  /-- The name has no blanks at its ends. -/
  name_trimmed : IsTrimmed name
  /-- The type is not empty. -/
  type_ne : type ≠ []
  /-- The type has no blanks at its ends. -/
  type_trimmed : IsTrimmed type

instance (name type : List Char) : Decidable (Suits name type) :=
  decidable_of_iff
    (name ≠ [] ∧ ':' ∉ name ∧ IsTrimmed name ∧ type ≠ [] ∧ IsTrimmed type)
    ⟨fun h => ⟨h.1, h.2.1, h.2.2.1, h.2.2.2.1, h.2.2.2.2⟩,
      fun h => ⟨h.name_ne, h.colon, h.name_trimmed, h.type_ne, h.type_trimmed⟩⟩

/-- How a name and a type are written as a shorthand. -/
inductive Spells (name type : List Char) : List Char → Prop where
  /-- A name, a colon and a type, with blanks around the name and the type. -/
  | typed {w₀ w₁ w₂ w₃ : List Char} (h₀ : w₀.all isBlank = true) (h₁ : w₁.all isBlank = true)
      (h₂ : w₂.all isBlank = true) (h₃ : w₃.all isBlank = true) :
      Spells name type (w₀ ++ name ++ w₁ ++ ':' :: (w₂ ++ type ++ w₃))
  /-- A name and a colon, which is not followed by a type. -/
  | untyped {w₀ w₁ w₂ : List Char} (h₀ : w₀.all isBlank = true) (h₁ : w₁.all isBlank = true)
      (h₂ : w₂.all isBlank = true) (htype : type = "String".toList) :
      Spells name type (w₀ ++ name ++ w₁ ++ ':' :: w₂)
  /-- A name alone. -/
  | bare {w₀ w₁ : List Char} (h₀ : w₀.all isBlank = true) (h₁ : w₁.all isBlank = true)
      (htype : type = "String".toList) : Spells name type (w₀ ++ name ++ w₁)

/-! ## The two halves -/

variable {s a name type w w' : List Char}

theorem halves_of_notMem (ha : ':' ∉ a) : halves a = (a, []) := by
  have hall : ∀ c ∈ a, (decide (c ≠ ':')) = true := fun c hc =>
    decide_eq_true fun h => ha (h ▸ hc)
  rw [halves, List.takeWhile_eq_self_iff.2 hall, List.dropWhile_eq_nil_iff.2 hall]
  rfl

theorem halves_append (ha : ':' ∉ a) (b : List Char) : halves (a ++ ':' :: b) = (a, b) := by
  have hall : ∀ c ∈ a, (decide (c ≠ ':')) = true := fun c hc =>
    decide_eq_true fun h => ha (h ▸ hc)
  rw [halves, List.takeWhile_append_of_pos hall, List.dropWhile_append_of_pos hall]
  simp

theorem halves_cases (s : List Char) :
    ':' ∉ s ∧ halves s = (s, []) ∨ ∃ a b, ':' ∉ a ∧ s = a ++ ':' :: b ∧ halves s = (a, b) := by
  by_cases hs : ':' ∈ s
  · obtain ⟨a, b, rfl, ha⟩ := List.eq_append_cons_of_mem hs
    exact .inr ⟨a, b, ha, rfl, halves_append ha b⟩
  · exact .inl ⟨hs, halves_of_notMem hs⟩

/-- There is no colon among blanks and in a name. -/
theorem Suits.notMem (h : Suits name type) (hw : w.all isBlank = true)
    (hw' : w'.all isBlank = true) : ':' ∉ w ++ name ++ w' := by
  have hblank : ∀ {l : List Char}, l.all isBlank = true → ':' ∉ l := fun hl hmem =>
    absurd (List.all_eq_true.1 hl _ hmem) (by decide)
  simp only [List.mem_append, not_or]
  exact ⟨⟨hblank hw, h.colon⟩, hblank hw'⟩

/-! ## Reading -/

/-- The type that the text behind the colon stands for. -/
def readType (s : List Char) : List Char :=
  if trimChars s = [] then "String".toList else trimChars s

theorem readType_of_blank (hw : w.all isBlank = true) : readType w = "String".toList :=
  if_pos (trimChars_eq_nil_iff.2 hw)

theorem readType_of_ne (hs : trimChars s ≠ []) : readType s = trimChars s := if_neg hs

theorem readType_sound (s : List Char) : readType s ≠ [] ∧ IsTrimmed (readType s) := by
  by_cases hs : trimChars s = []
  · rw [readType_of_blank (trimChars_eq_nil_iff.1 hs)]
    decide
  · rw [readType_of_ne hs]
    exact ⟨hs, isTrimmed_trimChars s⟩

theorem parseChars_eq_some :
    parseChars s = some (name, type) ↔
      name ≠ [] ∧ trimChars (halves s).1 = name ∧ readType (halves s).2 = type := by
  rw [parseChars]
  split
  · next hblank =>
    refine iff_of_false nofun ?_
    rintro ⟨hne, rfl, -⟩
    exact hne hblank
  · next hink =>
    rw [Option.some.injEq, Prod.mk.injEq, ← readType]
    constructor
    · rintro ⟨rfl, rfl⟩
      exact ⟨hink, rfl, rfl⟩
    · rintro ⟨-, rfl, rfl⟩
      exact ⟨rfl, rfl⟩

/-- What is written is read. -/
theorem Spells.parseChars_eq (hspells : Spells name type s) (h : Suits name type) :
    parseChars s = some (name, type) := by
  refine parseChars_eq_some.2 ⟨h.name_ne, ?_⟩
  cases hspells with
  | typed h₀ h₁ h₂ h₃ =>
    have htype := trimChars_between h.type_trimmed h₂ h₃
    rw [halves_append (h.notMem h₀ h₁), readType_of_ne (by rw [htype]; exact h.type_ne)]
    exact ⟨trimChars_between h.name_trimmed h₀ h₁, htype⟩
  | untyped h₀ h₁ h₂ htype =>
    rw [halves_append (h.notMem h₀ h₁), readType_of_blank h₂]
    exact ⟨trimChars_between h.name_trimmed h₀ h₁, htype.symm⟩
  | bare h₀ h₁ htype =>
    rw [halves_of_notMem (h.notMem h₀ h₁), readType_of_blank rfl]
    exact ⟨trimChars_between h.name_trimmed h₀ h₁, htype.symm⟩

/-- What is read was written. -/
theorem spells_of_parseChars (hs : parseChars s = some (name, type)) :
    Suits name type ∧ Spells name type s := by
  obtain ⟨hne, hname, rfl⟩ := parseChars_eq_some.1 hs
  obtain ⟨htrimmed, w₀, w₁, h₀, h₁, hfront⟩ := trimChars_eq_iff.1 hname
  have hsuits : ':' ∉ (halves s).1 → Suits name (readType (halves s).2) := fun hcolon =>
    { name_ne := hne
      colon := fun hmem => hcolon (by rw [hfront]; simp [hmem])
      name_trimmed := htrimmed
      type_ne := (readType_sound _).1
      type_trimmed := (readType_sound _).2 }
  rcases halves_cases s with ⟨hcolon, hhalves⟩ | ⟨a, b, hcolon, rfl, hhalves⟩
  · rw [hhalves] at hsuits hfront ⊢
    refine ⟨hsuits hcolon, ?_⟩
    dsimp only at hfront ⊢
    rw [hfront]
    exact .bare h₀ h₁ (readType_of_blank rfl)
  · rw [hhalves] at hsuits hfront ⊢
    refine ⟨hsuits hcolon, ?_⟩
    subst hfront
    by_cases htype : trimChars b = []
    · have hb := trimChars_eq_nil_iff.1 htype
      exact .untyped h₀ h₁ hb (readType_of_blank hb)
    · obtain ⟨-, w₂, w₃, h₂, h₃, hback⟩ := trimChars_eq_iff.1 (readType_of_ne htype).symm
      nth_rewrite 2 [hback]
      exact .typed h₀ h₁ h₂ h₃

/-- A text is read exactly if it is a written shorthand, as what it was written for. -/
theorem parseChars_eq_some_iff :
    parseChars s = some (name, type) ↔ Suits name type ∧ Spells name type s :=
  ⟨spells_of_parseChars, fun h => h.2.parseChars_eq h.1⟩

theorem parse_eq_some_iff {s name type : String} :
    parse s = some (name, type) ↔
      Suits name.toList type.toList ∧ Spells name.toList type.toList s.toList := by
  rw [← parseChars_eq_some_iff, parse, Option.map_eq_some_iff]
  constructor
  · rintro ⟨⟨name', type'⟩, hparse, heq⟩
    obtain ⟨rfl, rfl⟩ := Prod.mk.inj heq
    rw [String.toList_ofList, String.toList_ofList, hparse]
  · intro hparse
    exact ⟨_, hparse, by simp⟩

/-- A text is refused exactly if it is blank in front of the first colon. All others are read as a
name and a type that are read again however they are written, with any blanks between and behind
them. -/
theorem parse_spelled (text : String) :
    (parse text = none ↔ (text.toList.takeWhile (· ≠ ':')).all isBlank = true) ∧
      (∀ name type, parse text = some (name, type) → Suits name.toList type.toList) ∧
      ∀ name type : String, Suits name.toList type.toList →
        ∀ w₁ w₂ w₃ : String, isBlankText w₁ = true → isBlankText w₂ = true →
          isBlankText w₃ = true →
            parse (name ++ w₁ ++ ":" ++ w₂ ++ type ++ w₃) = some (name, type) := by
  refine ⟨?_, ?_, ?_⟩
  · rw [parse_eq_none_iff, trimChars_eq_nil_iff]
  · intro name type hparse
    exact (parse_eq_some_iff.1 hparse).1
  · intro name type hsuits w₁ w₂ w₃ h₁ h₂ h₃
    refine parse_eq_some_iff.2 ⟨hsuits, ?_⟩
    have hspells : Spells name.toList type.toList
        ([] ++ name.toList ++ w₁.toList ++ ':' :: (w₂.toList ++ type.toList ++ w₃.toList)) :=
      .typed rfl h₁ h₂ h₃
    simpa using hspells

/-- A name with a blank in it and a type with a colon in it, read and written again. -/
theorem parse_spelled_unitPrice :
    parse " unit price\u3000:Map<a:b>\n" = some ("unit price", "Map<a:b>") ∧
      Suits "unit price".toList "Map<a:b>".toList ∧ isBlankText "\u00a0" = true ∧
      isBlankText "\t " = true ∧ isBlankText "" = true ∧
      parse ("unit price" ++ "\u00a0" ++ ":" ++ "\t " ++ "Map<a:b>" ++ "") =
        some ("unit price", "Map<a:b>") := by
  have hread : parse " unit price\u3000:Map<a:b>\n" = some ("unit price", "Map<a:b>") := by decide
  obtain ⟨-, hsuits, hwritten⟩ := parse_spelled " unit price\u3000:Map<a:b>\n"
  have hfirst : isBlankText "\u00a0" = true := by decide
  have hsecond : isBlankText "\t " = true := by decide
  have hnone : isBlankText "" = true := by decide
  have hsuits := hsuits _ _ hread
  exact ⟨hread, hsuits, hfirst, hsecond, hnone, hwritten _ _ hsuits _ _ _ hfirst hsecond hnone⟩

end Scaffold.Shorthand
