import Mathlib
import Scaffold.Naming
import Scaffold.Proofs.Text

/-!
# Names of fields

Two fields have different getters unless they differ only in the case of their first character. The
fields that a diagram with names of ASCII characters asks for start with no capital letter
(`startsSmall_camelCase`, `startsSmall_collectionField`), and on such texts `capitalize` is
injective: `capitalize_inj`.

On all names, no field name is empty (`camelCase_ne_empty`), and the name of a reference and that of
a key do not make the name `Id` together (`capitalize_append_ne_id`).
-/

namespace Scaffold.Naming

open Text

/-- Whether a text consists of ASCII characters. -/
def isAscii (s : String) : Bool := s.toList.all (·.val < 0x80)

/-- The first character of a list, if there is one, is an ASCII character and no capital letter. -/
def StartsSmall (s : List Char) : Prop :=
  ∀ c rest, s = c :: rest → c.val < 0x80 ∧ c.isUpper = false

theorem val_lt_of_isAscii {s : String} (h : isAscii s = true) : ∀ c ∈ s.toList, c.val < 0x80 := by
  simpa [isAscii] using h

theorem startsSmall_nil : StartsSmall [] := by
  intro c rest h
  cases h

theorem startsSmall_cons {c : Char} {rest : List Char} (hc : c.val < 0x80)
    (hup : c.isUpper = false) : StartsSmall (c :: rest) := by
  intro c' rest' h
  cases h
  exact ⟨hc, hup⟩

theorem StartsSmall.append {s : List Char} (hs : StartsSmall s) (hne : s ≠ []) (t : List Char) :
    StartsSmall (s ++ t) := by
  cases s with
  | nil => exact absurd rfl hne
  | cons c rest =>
    obtain ⟨hc, hup⟩ := hs c rest rfl
    exact startsSmall_cons hc hup

/-! ## Names that are not empty -/

theorem mem_of_lookup {α β : Type} [BEq α] [LawfulBEq α] {l : List (α × β)} {a : α} {b : β}
    (h : l.lookup a = some b) : (a, b) ∈ l := by
  obtain ⟨before, after, rfl, -⟩ := List.lookup_eq_some_iff.1 h
  exact List.mem_append_right _ List.mem_cons_self

theorem mapCase_ne_nil {runs : List CaseRun} {expansions : List (Nat × List Nat)}
    (hne : ∀ p ∈ expansions, p.2 ≠ []) (c : Char) : mapCase runs expansions c ≠ [] := by
  unfold mapCase
  split
  · next image himage =>
    exact fun hnil => hne _ (mem_of_lookup himage) (List.map_eq_nil_iff.1 hnil)
  · exact List.cons_ne_nil _ _

theorem upperChar_ne_nil (c : Char) : upperChar c ≠ [] := by
  unfold upperChar
  split
  · exact List.cons_ne_nil _ _
  · exact mapCase_ne_nil (by decide +kernel) c

theorem lowerChar_ne_nil (c : Char) : lowerChar c ≠ [] := by
  unfold lowerChar
  split
  · exact List.cons_ne_nil _ _
  · exact mapCase_ne_nil (by decide +kernel) c

theorem lower_ne_nil {s : List Char} (hs : s ≠ []) : lower s ≠ [] := by
  cases s with
  | nil => exact absurd rfl hs
  | cons c rest =>
    rw [lower, lowerAfter]
    split
    · exact List.cons_ne_nil _ _
    · exact List.append_ne_nil_of_left_ne_nil (lowerChar_ne_nil c) _

/-- A name that is not empty gives a field name that is not empty. -/
theorem camelCase_ne_empty {s : String} (hs : s ≠ "") : camelCase s ≠ "" := by
  have hchars : s.toList ≠ [] := by simpa using hs
  suffices camelChars s.toList ≠ [] by simpa [← String.toList_inj] using this
  unfold camelChars
  split
  · split
    · exact hchars
    · next head rest hwords =>
      have hhead : head ∈ (splitOn '_' s.toList).filter (!·.isEmpty) :=
        hwords ▸ List.mem_cons_self
      have hne : head ≠ [] := by simpa using (List.mem_filter.1 hhead).2
      exact List.append_ne_nil_of_left_ne_nil (lower_ne_nil hne) _
  · cases hs : s.toList with
    | nil => exact absurd hs hchars
    | cons c rest =>
      exact List.append_ne_nil_of_left_ne_nil (lower_ne_nil (List.cons_ne_nil c [])) _

/-! ## Capitals -/

theorem toLower_val_lt {c : Char} (hc : c.val < 0x80) : c.toLower.val < 0x80 := by
  simp only [Char.toLower]
  split <;> grind [UInt32.toNat_add]

/-- A text in lower case starts with no capital letter, if it starts with an ASCII character. -/
theorem startsSmall_lower {c : Char} {rest : List Char} (hc : c.val < 0x80) :
    StartsSmall (lower (c :: rest)) := by
  have hsigma : c ≠ 'Σ' := by
    rintro rfl
    revert hc
    decide
  rw [lower, lowerAfter, if_neg hsigma, lowerChar_of_ascii hc]
  exact startsSmall_cons (toLower_val_lt hc) (Char.isUpper_toLower_eq_false c)

/-- Texts that start with no capital letter are told apart after capitalization. -/
theorem capitalizeChars_inj {s t : List Char} (hs : StartsSmall s) (ht : StartsSmall t)
    (h : capitalizeChars s = capitalizeChars t) : s = t := by
  cases s with
  | nil =>
    cases t with
    | nil => rfl
    | cons b t =>
      rw [capitalizeChars, capitalizeChars, upperChar_of_ascii (ht b t rfl).1] at h
      cases h
  | cons a s =>
    obtain ⟨ha, haUp⟩ := hs a s rfl
    cases t with
    | nil =>
      rw [capitalizeChars, capitalizeChars, upperChar_of_ascii ha] at h
      cases h
    | cons b t =>
      obtain ⟨hb, hbUp⟩ := ht b t rfl
      rw [capitalizeChars, capitalizeChars, upperChar_of_ascii ha, upperChar_of_ascii hb,
        List.singleton_append, List.singleton_append, List.cons.injEq] at h
      obtain ⟨hhead, rfl⟩ := h
      have hlow := congrArg Char.toLower hhead
      rw [Char.toLower_toUpper_eq_toLower, Char.toLower_toUpper_eq_toLower,
        Char.toLower_eq_of_not_isUpper (by simp [haUp]),
        Char.toLower_eq_of_not_isUpper (by simp [hbUp])] at hlow
      rw [hlow]

theorem capitalize_inj {s t : String} (hs : StartsSmall s.toList) (ht : StartsSmall t.toList)
    (h : capitalize s = capitalize t) : s = t := by
  have hchars := congrArg String.toList h
  rw [toList_capitalize, toList_capitalize] at hchars
  exact String.toList_inj.1 (capitalizeChars_inj hs ht hchars)

theorem eq_of_ofNat_eq_d {n : Nat} (h : Char.ofNat n = 'd') : n = 100 := by
  have hnat := congrArg Char.toNat h
  by_cases hvalid : n.isValidChar
  · rw [Char.toNat_ofNat, if_pos hvalid] at hnat
    exact hnat
  · rw [Char.toNat_ofNat, if_neg hvalid] at hnat
    cases hnat

/-- No character has the small `d` as its capital. -/
theorem upperChar_ne_d (c : Char) : upperChar c ≠ ['d'] := by
  unfold upperChar
  split
  · intro h
    have hsmall := Char.isLower_toUpper_eq_false c
    rw [List.singleton_inj.1 h] at hsmall
    revert hsmall
    decide
  · next hascii =>
    unfold mapCase
    split
    · next image himage =>
      have hnone : ∀ p ∈ upperExpansions, p.2.map Char.ofNat ≠ ['d'] := by decide +kernel
      exact hnone _ (mem_of_lookup himage)
    · cases hrun : upperRuns.findSome? (·.image? c.toNat) with
      | none =>
        rintro h
        obtain rfl : c = 'd' := by simpa [hrun] using h
        exact hascii (by decide)
      | some n =>
        intro h
        obtain ⟨r, hr, himage⟩ := List.exists_of_findSome?_eq_some hrun
        have hn : n = 100 := eq_of_ofNat_eq_d (by simpa [hrun] using h)
        have hfar : ∀ r ∈ upperRuns, ¬((r.first : Int) ≤ 100 - r.offset ∧
            100 - r.offset ≤ r.last) := by decide +kernel
        unfold CaseRun.image? at himage
        split at himage
        · have hc := Option.some.inj himage
          have := hfar r hr
          omega
        · cases himage

/-- The name of a reference and that of a key do not make the name `Id` together. -/
theorem capitalize_append_ne_id {s t : String} (hs : s ≠ "") (ht : t ≠ "") :
    capitalize (s ++ capitalize t) ≠ "Id" := by
  intro h
  have hchars := congrArg String.toList h
  rw [toList_capitalize, String.toList_append, toList_capitalize] at hchars
  cases hsl : s.toList with
  | nil => exact hs (String.toList_eq_nil_iff.1 hsl)
  | cons a s' =>
    cases htl : t.toList with
    | nil => exact ht (String.toList_eq_nil_iff.1 htl)
    | cons b t' =>
      rw [hsl, htl, List.cons_append, capitalizeChars, capitalizeChars] at hchars
      -- Each of the two capitals has at least one of the two characters.
      cases hb : upperChar b with
      | nil => exact upperChar_ne_nil b hb
      | cons y ys =>
        cases ha : upperChar a with
        | nil => exact upperChar_ne_nil a ha
        | cons x xs =>
          have hd := upperChar_ne_d b
          rw [hb] at hd
          rw [ha, hb] at hchars
          have hlen := congrArg List.length hchars
          have hempty : xs = [] ∧ s' = [] ∧ ys = [] ∧ t' = [] := by
            simp only [← List.length_eq_zero_iff]
            simp at hlen
            omega
          obtain ⟨rfl, rfl, rfl, rfl⟩ := hempty
          obtain ⟨-, rfl⟩ : x = 'I' ∧ y = 'd' := by simpa using hchars
          exact hd rfl

/-! ## Field names -/

theorem mem_of_mem_splitOn {sep : Char} {l piece : List Char} {c : Char}
    (hpiece : piece ∈ splitOn sep l) (hc : c ∈ piece) : c ∈ l := by
  rw [← joinWith_splitOn sep l]
  exact subset_joinWith hpiece hc

/-- If all pieces between separators are empty, the list starts with a separator. -/
theorem head_of_splitOn_empty {sep c : Char} {rest : List Char}
    (h : (splitOn sep (c :: rest)).filter (!·.isEmpty) = []) : c = sep := by
  by_contra hne
  cases hrest : splitOn sep rest with
  | nil => exact absurd hrest (splitOn_ne_nil sep rest)
  | cons first others =>
    rw [splitOn_cons_of_ne hne hrest] at h
    simp at h

/-- A field name that is made from ASCII characters starts with no capital letter. -/
theorem startsSmall_camelChars {s : List Char} (hs : ∀ c ∈ s, c.val < 0x80) :
    StartsSmall (camelChars s) := by
  unfold camelChars
  split
  · split
    · next hunder hwords =>
      cases s with
      | nil => exact startsSmall_nil
      | cons c rest =>
        rw [head_of_splitOn_empty hwords]
        exact startsSmall_cons (by decide) (by decide)
    · next head rest hwords =>
      have hmem : head ∈ (splitOn '_' s).filter (!·.isEmpty) := hwords ▸ List.mem_cons_self
      obtain ⟨hpiece, hnonempty⟩ := List.mem_filter.1 hmem
      cases head with
      | nil => cases hnonempty
      | cons c chars =>
        have hc : c.val < 0x80 := hs c (mem_of_mem_splitOn hpiece List.mem_cons_self)
        exact (startsSmall_lower hc).append (lower_ne_nil (List.cons_ne_nil _ _)) _
  · cases s with
    | nil => exact startsSmall_nil
    | cons c rest =>
      have hc : c.val < 0x80 := hs c List.mem_cons_self
      exact (startsSmall_lower hc).append (lower_ne_nil (List.cons_ne_nil _ _)) _

theorem startsSmall_camelCase {s : String} (hs : isAscii s = true) :
    StartsSmall (camelCase s).toList := by
  rw [toList_camelCase]
  exact startsSmall_camelChars (val_lt_of_isAscii hs)

/-- A plural keeps the first character, which is the last of the name that is given from its end. -/
theorem getLast?_pluralFromEnd (s : List Char) : (pluralFromEnd s).getLast? = s.getLast? := by
  unfold pluralFromEnd
  split
  · rfl
  · split <;> simp
  · simp
  · simp
  · split <;> simp

theorem startsSmall_pluralize {s : String} (hs : StartsSmall s.toList) :
    StartsSmall (pluralize s).toList := by
  have hhead : (pluralize s).toList.head? = s.toList.head? := by
    rw [pluralize, String.toList_ofList, List.head?_reverse, getLast?_pluralFromEnd,
      List.getLast?_reverse]
  intro c rest h
  rw [h, List.head?_cons] at hhead
  obtain ⟨rest', hrest⟩ := List.head?_eq_some_iff.1 hhead.symm
  exact hs c rest' hrest

/-- The field of a collection of classes with a name made of ASCII characters starts with no capital
letter. -/
theorem startsSmall_collectionField {s : String} (hs : isAscii s = true) :
    StartsSmall (collectionField s).toList :=
  startsSmall_pluralize (startsSmall_camelCase hs)

/-- Fields that start with no capital letter have different getters. -/
theorem getter_inj {s t : String} (hs : StartsSmall s.toList) (ht : StartsSmall t.toList)
    (h : getter s = getter t) : s = t :=
  capitalize_inj hs ht ((String.append_right_inj _).1 h)

/-- Fields that start with no capital letter have different setters. -/
theorem setter_inj {s t : String} (hs : StartsSmall s.toList) (ht : StartsSmall t.toList)
    (h : setter s = setter t) : s = t :=
  capitalize_inj hs ht ((String.append_right_inj _).1 h)

end Scaffold.Naming
