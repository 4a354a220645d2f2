import Mathlib
import Scaffold.Naming
import Scaffold.Proofs.Naming
import Scaffold.Proofs.Text

/-!
# Names of tables and columns

On names of ASCII letters and digits the conversion to table and column names puts an underscore in
front of every capital letter but one that the name starts with, and changes nothing but the case of
letters: `snakeChars_cons`.

On names of classes as they usually are, `IsTypeName`, the conversion is injective and compatible
with writing two names as one: `snakeCase_inj` and `snakeCase_append`. On all names of letters and
digits it forgets the case of the first character, as the conversion to field names does. The
underscores of a column name tell where the capital letters of the field name are, so both names of
an attribute give the other: `camelChars_snakeChars` and `snakeChars_camelChars`.

Main statement: `columns_shared_iff`.
-/

namespace Scaffold

open Text

namespace Naming

/-! ## Table names -/

/-- A name as classes usually have it: a capital letter of ASCII in front, and nothing but letters
and digits of ASCII. -/
def IsTypeName (s : List Char) : Prop :=
  s.all Char.isAlphanum = true ∧ s.head?.any Char.isUpper = true

instance (s : List Char) : Decidable (IsTypeName s) :=
  inferInstanceAs (Decidable (s.all Char.isAlphanum = true ∧ s.head?.any Char.isUpper = true))

theorem IsTypeName.isAlphanum {s : List Char} (hs : IsTypeName s) :
    ∀ c ∈ s, c.isAlphanum = true := List.all_eq_true.1 hs.1

/-- A character of a table name: in lower case, and with an underscore in front if it was a capital
letter. -/
def snakeChar (c : Char) : List Char := if c.isUpper then ['_', c.toLower] else [c.toLower]

theorem val_lt_of_isAlphanum {c : Char} (hc : c.isAlphanum = true) : c.val < 0x80 := by
  simp only [Char.isAlphanum, Char.isAlpha, Char.isUpper, Char.isLower, Char.isDigit,
    Bool.or_eq_true, Bool.and_eq_true, decide_eq_true_eq] at hc
  rcases hc with ((hc | hc) | hc) <;> exact Nat.lt_of_le_of_lt hc.2 (by decide)

theorem toLower_ne_underscore {c : Char} (hc : c.isAlphanum = true) : c.toLower ≠ '_' := by
  intro h
  by_cases hup : c.isUpper = true
  · have hsmall := Char.isLower_toLower_eq_isAlpha c
    rw [h, Char.isAlpha, hup, Bool.true_or] at hsmall
    cases hsmall
  · rw [Char.toLower_eq_of_not_isUpper hup] at h
    rw [h] at hc
    cases hc

/-- ASCII characters are put into lower case one by one. -/
theorem lower_ascii {s : List Char} (hs : ∀ c ∈ s, c.val < 0x80) :
    lower s = s.map Char.toLower := by
  suffices ∀ before, lowerAfter before s = s.map Char.toLower from this []
  induction s with
  | nil => exact fun _ => rfl
  | cons c rest ih =>
    intro before
    obtain ⟨hc, hrest⟩ := List.forall_mem_cons.1 hs
    have hsigma : c ≠ 'Σ' := by
      rintro rfl
      revert hc
      decide
    rw [lowerAfter, if_neg hsigma, lowerChar_of_ascii hc, ih hrest]
    rfl

theorem lower_markCapitals {s : List Char} (hs : ∀ c ∈ s, c.isAlphanum = true) :
    lower (markCapitals s) = s.flatMap snakeChar := by
  have hunderscore : '_'.val < 0x80 ∧ '_'.toLower = '_' := ⟨by decide, by decide⟩
  have hascii : ∀ c ∈ markCapitals s, c.val < 0x80 := by
    intro c hc
    obtain ⟨x, hx, hc⟩ := List.mem_flatMap.1 hc
    have hxc := val_lt_of_isAlphanum (hs x hx)
    split at hc
    · rcases List.mem_pair.1 hc with rfl | rfl
      · exact hunderscore.1
      · exact hxc
    · rwa [List.mem_singleton.1 hc]
  rw [lower_ascii hascii, markCapitals, List.map_flatMap]
  refine List.flatMap_congr fun c _ => ?_
  rw [snakeChar]
  split
  · rw [List.map_cons, List.map_singleton, hunderscore.2]
  · rw [List.map_singleton]

theorem halveUnderscores_cons {c : Char} (hc : c ≠ '_') (l : List Char) :
    halveUnderscores (c :: l) = c :: halveUnderscores l := by
  rw [halveUnderscores]
  exact fun rest hc' _ => hc hc'

/-- There are no two underscores in a row. -/
theorem halveUnderscores_flatMap {s : List Char} (hs : ∀ c ∈ s, c.isAlphanum = true) :
    halveUnderscores (s.flatMap snakeChar) = s.flatMap snakeChar := by
  induction s with
  | nil => rfl
  | cons c rest ih =>
    obtain ⟨hc, hrest⟩ := List.forall_mem_cons.1 hs
    have hsmall := toLower_ne_underscore hc
    rw [List.flatMap_cons, snakeChar]
    split
    · have hmark : halveUnderscores ('_' :: c.toLower :: rest.flatMap snakeChar) =
          '_' :: halveUnderscores (c.toLower :: rest.flatMap snakeChar) := by
        rw [halveUnderscores]
        exact fun rest _ hx => hsmall (List.cons.inj hx).1
      rw [List.cons_append, List.cons_append, List.nil_append, hmark, halveUnderscores_cons hsmall,
        ih hrest]
    · rw [List.cons_append, List.nil_append, halveUnderscores_cons hsmall, ih hrest]

/-- The table name of letters and digits: an underscore in front of a first capital letter is left
out. -/
theorem snakeChars_cons {c : Char} {rest : List Char}
    (hs : ∀ x ∈ c :: rest, x.isAlphanum = true) :
    snakeChars (c :: rest) = c.toLower :: rest.flatMap snakeChar := by
  obtain ⟨hc, hrest⟩ := List.forall_mem_cons.1 hs
  have hsmall := toLower_ne_underscore hc
  have hdrop : ((c :: rest).flatMap snakeChar).dropWhile (· = '_') =
      c.toLower :: rest.flatMap snakeChar := by
    rw [List.flatMap_cons, snakeChar]
    split
    · rw [List.cons_append, List.dropWhile_cons_of_pos (by decide), List.cons_append,
        List.dropWhile_cons_of_neg (by simpa using hsmall), List.nil_append]
    · rw [List.cons_append, List.dropWhile_cons_of_neg (by simpa using hsmall), List.nil_append]
  rw [snakeChars, lower_markCapitals hs, hdrop, halveUnderscores_cons hsmall,
    halveUnderscores_flatMap hrest]

/-- The table name of a usual name: the underscore in front of the first capital letter is left
out. -/
theorem snakeChars_eq {s : List Char} (hs : IsTypeName s) :
    '_' :: snakeChars s = s.flatMap snakeChar := by
  have hchars := hs.isAlphanum
  obtain ⟨-, hup⟩ := hs
  cases s with
  | nil => cases hup
  | cons c rest =>
    have hup : c.isUpper = true := hup
    rw [snakeChars_cons hchars, List.flatMap_cons, snakeChar, if_pos hup]
    rfl

/-- Undoes `snakeChar` on all characters. -/
def unsnake : List Char → List Char
  | '_' :: c :: rest => c.toUpper :: unsnake rest
  | c :: rest => c :: unsnake rest
  | [] => []

theorem unsnake_flatMap {s : List Char} (hs : ∀ c ∈ s, c.isAlphanum = true) :
    unsnake (s.flatMap snakeChar) = s := by
  induction s with
  | nil => rfl
  | cons c rest ih =>
    obtain ⟨hc, hrest⟩ := List.forall_mem_cons.1 hs
    rw [List.flatMap_cons, snakeChar]
    split
    · next hup =>
      rw [List.cons_append, List.cons_append, List.nil_append, unsnake, ih hrest,
        Char.toUpper_toLower_eq_toUpper,
        Char.toUpper_eq_of_not_isLower (Char.not_isLower_of_isUpper hup)]
    · next hup =>
      have hsmall := toLower_ne_underscore hc
      rw [Char.toLower_eq_of_not_isUpper hup] at hsmall ⊢
      rw [List.cons_append, List.nil_append, unsnake, ih hrest]
      exact fun x _ hx _ => hsmall hx

/-- Usual names have different table names. -/
theorem snakeCase_inj {a b : String} (ha : IsTypeName a.toList) (hb : IsTypeName b.toList)
    (h : snakeCase a = snakeCase b) : a = b := by
  have hchars := congrArg String.toList h
  rw [toList_snakeCase, toList_snakeCase] at hchars
  have hmarked : '_' :: snakeChars a.toList = '_' :: snakeChars b.toList := by rw [hchars]
  rw [snakeChars_eq ha, snakeChars_eq hb] at hmarked
  rw [← String.toList_inj, ← unsnake_flatMap ha.isAlphanum, hmarked,
    unsnake_flatMap hb.isAlphanum]

theorem IsTypeName.append {a b : List Char} (ha : IsTypeName a) (hb : IsTypeName b) :
    IsTypeName (a ++ b) := by
  obtain ⟨hchars, hup⟩ := ha
  refine ⟨by rw [List.all_append, hchars, hb.1, Bool.and_self], ?_⟩
  cases a with
  | nil => cases hup
  | cons c rest => exact hup

/-- The table name of two names that are written as one. -/
theorem snakeCase_append {a b : String} (ha : IsTypeName a.toList) (hb : IsTypeName b.toList) :
    snakeCase (a ++ b) = snakeCase a ++ "_" ++ snakeCase b := by
  have hjoined : IsTypeName (a ++ b).toList := by
    rw [String.toList_append]
    exact ha.append hb
  have hchars := snakeChars_eq hjoined
  rw [String.toList_append, List.flatMap_append, ← snakeChars_eq ha, ← snakeChars_eq hb,
    List.cons_append, ← String.toList_append] at hchars
  rw [← String.toList_inj, String.toList_append, String.toList_append, toList_snakeCase,
    toList_snakeCase, toList_snakeCase, (List.cons.inj hchars).2, List.append_assoc]
  rfl

/-! ## Field names -/

theorem isAlphanum_toLower {c : Char} (hc : c.isAlphanum = true) : c.toLower.isAlphanum = true := by
  by_cases hup : c.isUpper = true
  · have halpha : c.isAlpha = true := by rw [Char.isAlpha, hup, Bool.true_or]
    rw [Char.isAlphanum, Char.isAlpha_toLower_eq_isAlpha, halpha, Bool.true_or]
  · rwa [Char.toLower_eq_of_not_isUpper hup]

theorem lower_small {s : List Char} (hs : ∀ c ∈ s, c.val < 0x80 ∧ c.isUpper = false) :
    lower s = s := by
  rw [lower_ascii fun c hc => (hs c hc).1]
  conv_rhs => rw [← List.map_id s]
  exact List.map_congr_left fun c hc => Char.toLower_eq_of_not_isUpper (by simp [(hs c hc).2])

/-- The words of a name of letters and digits: what is in front of its capital letters, and then a
word in lower case for each of them. -/
structure Words (s word : List Char) (words : List (List Char)) : Prop where
  /-- The words stand between the underscores of the table name. -/
  split : splitOn '_' (s.flatMap snakeChar) = word :: words
  /-- The first word has no capital letter. -/
  small : ∀ c ∈ word, c.val < 0x80 ∧ c.isUpper = false
  /-- The other words have at least the letter that was a capital one. -/
  ne_nil : ∀ w ∈ words, w ≠ []
  /-- With their capital letters, the words are the name. -/
  titles : word ++ words.flatMap titleWord = s

theorem exists_words {s : List Char} (hs : ∀ c ∈ s, c.isAlphanum = true) :
    ∃ word words, Words s word words := by
  induction s with
  | nil => exact ⟨[], [], rfl, by simp, by simp, rfl⟩
  | cons c rest ih =>
    obtain ⟨hc, hrest⟩ := List.forall_mem_cons.1 hs
    obtain ⟨word, words, h⟩ := ih hrest
    have hsplit := splitOn_cons_of_ne (toLower_ne_underscore hc) h.split
    have hascii := val_lt_of_isAlphanum hc
    by_cases hup : c.isUpper = true
    · -- The letter starts a word of its own, in front of which no word is left.
      have hcapital : upperChar c.toLower = [c] := by
        rw [upperChar_of_ascii (toLower_val_lt hascii), Char.toUpper_toLower_eq_toUpper,
          Char.toUpper_eq_of_not_isLower (Char.not_isLower_of_isUpper hup)]
      refine ⟨[], (c.toLower :: word) :: words, ?_, by simp, ?_, ?_⟩
      · rw [List.flatMap_cons, snakeChar, if_pos hup, ← hsplit]
        exact splitOn_cons List.not_mem_nil _
      · exact List.forall_mem_cons.2 ⟨List.cons_ne_nil _ _, h.ne_nil⟩
      · rw [List.nil_append, List.flatMap_cons, titleWord, hcapital, lower_small h.small,
          List.append_assoc, h.titles, List.singleton_append]
    · have hsame := Char.toLower_eq_of_not_isUpper hup
      rw [hsame] at hsplit
      refine ⟨c :: word, words, ?_, ?_, h.ne_nil, ?_⟩
      · rwa [List.flatMap_cons, snakeChar, if_neg hup, hsame, List.singleton_append]
      · exact List.forall_mem_cons.2 ⟨⟨hascii, by simpa using hup⟩, h.small⟩
      · rw [List.cons_append, h.titles]

/-- The field name of letters and digits: only the first character is changed. -/
theorem camelChars_cons {c : Char} {rest : List Char}
    (hs : ∀ x ∈ c :: rest, x.isAlphanum = true) : camelChars (c :: rest) = c.toLower :: rest := by
  have hunder : '_' ∉ c :: rest := fun hmem => absurd (hs _ hmem) (by decide)
  have hc : ∀ x ∈ [c], x.val < 0x80 :=
    List.forall_mem_singleton.2 (val_lt_of_isAlphanum (hs c List.mem_cons_self))
  rw [camelChars, if_neg hunder, lower_ascii hc, List.map_singleton, List.singleton_append]

/-- The field name of a column is the field name of its attribute. -/
theorem camelChars_snakeChars {s : List Char} (hs : ∀ c ∈ s, c.isAlphanum = true) :
    camelChars (snakeChars s) = camelChars s := by
  cases s with
  | nil => rfl
  | cons c rest =>
    obtain ⟨hc, hrest⟩ := List.forall_mem_cons.1 hs
    obtain ⟨word, words, h⟩ := exists_words hrest
    have hsplit := splitOn_cons_of_ne (toLower_ne_underscore hc) h.split
    have hsmall : ∀ x ∈ c.toLower :: word, x.val < 0x80 ∧ x.isUpper = false :=
      List.forall_mem_cons.2 ⟨⟨toLower_val_lt (val_lt_of_isAlphanum hc),
        Char.isUpper_toLower_eq_false c⟩, h.small⟩
    rw [snakeChars_cons hs, camelChars_cons hs]
    by_cases hunder : '_' ∈ c.toLower :: rest.flatMap snakeChar
    · have hall : ∀ w ∈ (c.toLower :: word) :: words, (!w.isEmpty) = true :=
        List.forall_mem_cons.2 ⟨rfl, fun w hw => by simpa using h.ne_nil w hw⟩
      rw [camelChars, if_pos hunder, hsplit, List.filter_eq_self.2 hall]
      dsimp only
      rw [lower_small hsmall, List.cons_append, h.titles]
    · -- Without capital letters there is only the first word, which is the whole name.
      rw [splitOn_of_notMem hunder] at hsplit
      obtain ⟨hword, rfl⟩ := List.cons.inj hsplit
      have htitles := h.titles
      rw [List.flatMap_nil, List.append_nil] at htitles
      subst htitles
      have hfirst : ∀ x ∈ [c.toLower], x.val < 0x80 ∧ x.isUpper = false :=
        List.forall_mem_singleton.2 (hsmall _ List.mem_cons_self)
      rw [hword] at hunder ⊢
      rw [camelChars, if_neg hunder, lower_small hfirst, List.singleton_append]

/-- The column name of a field is the column name of its attribute. -/
theorem snakeChars_camelChars {s : List Char} (hs : ∀ c ∈ s, c.isAlphanum = true) :
    snakeChars (camelChars s) = snakeChars s := by
  cases s with
  | nil => rfl
  | cons c rest =>
    obtain ⟨hc, hrest⟩ := List.forall_mem_cons.1 hs
    have hlower : ∀ x ∈ c.toLower :: rest, x.isAlphanum = true :=
      List.forall_mem_cons.2 ⟨isAlphanum_toLower hc, hrest⟩
    rw [camelChars_cons hs, snakeChars_cons hlower, snakeChars_cons hs,
      Char.toLower_toLower_eq_toLower]

theorem camelCase_snakeCase {a : String} (ha : ∀ c ∈ a.toList, c.isAlphanum = true) :
    camelCase (snakeCase a) = camelCase a := by
  rw [camelCase, toList_snakeCase, camelChars_snakeChars ha, camelCase]

theorem snakeCase_camelCase {a : String} (ha : ∀ c ∈ a.toList, c.isAlphanum = true) :
    snakeCase (camelCase a) = snakeCase a := by
  rw [snakeCase, toList_camelCase, snakeChars_camelChars ha, snakeCase]

/-- The column name of a name of letters and digits gives the field name of the name, so two such
names share a column exactly if they share a field. -/
theorem columns_shared_iff {a b : String} (ha : a.toList.all Char.isAlphanum = true)
    (hb : b.toList.all Char.isAlphanum = true) :
    camelCase (snakeCase a) = camelCase a ∧
      (snakeCase a = snakeCase b ↔ camelCase a = camelCase b) := by
  have ha := List.all_eq_true.1 ha
  have hb := List.all_eq_true.1 hb
  refine ⟨camelCase_snakeCase ha, fun hcolumn => ?_, fun hfield => ?_⟩
  · rw [← camelCase_snakeCase ha, hcolumn, camelCase_snakeCase hb]
  · rw [← snakeCase_camelCase ha, hfield, snakeCase_camelCase hb]

/-- A name of several capital letters and digits, and its field name. -/
theorem columns_shared_isoCode :
    "ISO2Code".toList.all Char.isAlphanum = true ∧ "iSO2Code".toList.all Char.isAlphanum = true ∧
      snakeCase "ISO2Code" = "i_s_o2_code" ∧ camelCase (snakeCase "ISO2Code") = "iSO2Code" ∧
      snakeCase "ISO2Code" = snakeCase "iSO2Code" := by
  have ha : "ISO2Code".toList.all Char.isAlphanum = true := by decide
  have hb : "iSO2Code".toList.all Char.isAlphanum = true := by decide
  obtain ⟨hfield, hshared⟩ := columns_shared_iff ha hb
  have hcamel : camelCase "ISO2Code" = camelCase "iSO2Code" := by decide
  have hname : camelCase "ISO2Code" = "iSO2Code" := by decide
  exact ⟨ha, hb, by decide, hfield.trans hname, hshared.2 hcamel⟩

end Naming

end Scaffold
