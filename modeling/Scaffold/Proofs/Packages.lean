import Mathlib
import Scaffold.Java.Package
import Scaffold.Proofs.Text

/-!
# The grammar of package names

A package name is one or more segments with dots between them, and a segment is an identifier of
ASCII: `PackageName` and `Segment`. The check of names takes exactly these texts and, as one newline
character behind a name does not count, every package name with a newline character at its end.

So the check takes texts that are no package names, and these are all the texts that it takes
wrongly: what does not end with a newline character is taken exactly if it is a package name.

Main statements: `isPackage_iff_packageName`, `isPackage_iff_of_last`.
-/

namespace Scaffold.Java

open Text

/-! ## The grammar -/

/-- The letters of ASCII. -/
def IsLetter (c : Char) : Prop := 'a' ≤ c ∧ c ≤ 'z' ∨ 'A' ≤ c ∧ c ≤ 'Z'

/-- The digits of ASCII. -/
def IsDigit (c : Char) : Prop := '0' ≤ c ∧ c ≤ '9'

/-- A letter or an underscore, and behind it letters, digits and underscores. -/
def Segment (s : List Char) : Prop :=
  ∃ first rest, s = first :: rest ∧ (IsLetter first ∨ first = '_') ∧
    ∀ c ∈ rest, IsLetter c ∨ IsDigit c ∨ c = '_'

/-- One or more segments with a dot between neighbours. -/
def PackageName (s : List Char) : Prop :=
  ∃ segments : List (List Char), segments ≠ [] ∧ (∀ segment ∈ segments, Segment segment) ∧
    s = joinWith '.' segments

variable {s : List Char} {c : Char}

/-! ## Segments -/

theorem isAlpha_iff : c.isAlpha = true ↔ IsLetter c := by
  simp [Char.isAlpha, Char.isUpper, Char.isLower, IsLetter, Char.le_def, or_comm]

theorem startsSegment_iff : startsSegment c = true ↔ IsLetter c ∨ c = '_' := by
  simp [startsSegment, isAlpha_iff]

theorem inSegment_iff : inSegment c = true ↔ IsLetter c ∨ IsDigit c ∨ c = '_' := by
  simp [inSegment, Char.isAlphanum, isAlpha_iff, Char.isDigit, IsDigit, Char.le_def, or_assoc]

theorem isSegment_iff : isSegment s = true ↔ Segment s := by
  cases s with
  | nil =>
    refine iff_of_false Bool.false_ne_true ?_
    rintro ⟨first, rest, hs, -⟩
    cases hs
  | cons first rest =>
    rw [isSegment, Bool.and_eq_true, List.all_eq_true, startsSegment_iff]
    simp only [inSegment_iff]
    constructor
    · rintro ⟨hfirst, hrest⟩
      exact ⟨first, rest, rfl, hfirst, hrest⟩
    · rintro ⟨first', rest', hs, hfirst, hrest⟩
      obtain ⟨rfl, rfl⟩ := List.cons.inj hs
      exact ⟨hfirst, hrest⟩

theorem Segment.inSegment (hs : Segment s) (hc : c ∈ s) : inSegment c = true := by
  obtain ⟨first, rest, rfl, hfirst, hrest⟩ := hs
  rw [inSegment_iff]
  rcases List.mem_cons.1 hc with rfl | hc
  · exact hfirst.imp_right .inr
  · exact hrest c hc

/-! ## Names -/

theorem PackageName.inName (hs : PackageName s) (hc : c ∈ s) : c = '.' ∨ inSegment c = true := by
  obtain ⟨segments, -, hsegments, rfl⟩ := hs
  obtain hdot | ⟨segment, hsegment, hc⟩ := mem_joinWith hc
  · exact .inl hdot
  · exact .inr ((hsegments segment hsegment).inSegment hc)

/-- The pieces between the dots decide whether a text is a package name. -/
theorem packageName_iff_splitOn :
    PackageName s ↔ ∀ segment ∈ splitOn '.' s, isSegment segment = true := by
  simp only [isSegment_iff]
  constructor
  · rintro ⟨segments, hne, hsegments, rfl⟩
    rwa [splitOn_joinWith hne]
    intro segment hsegment hdot
    exact absurd ((hsegments segment hsegment).inSegment hdot) (by decide)
  · intro hsegments
    exact ⟨splitOn '.' s, splitOn_ne_nil '.' s, hsegments, (joinWith_splitOn '.' s).symm⟩

/-- Without its final newline character a text is a package name exactly if it is one as a whole or
up to a newline character behind it. -/
theorem packageName_dropFinalNewline :
    PackageName (dropFinalNewline s) ↔
      PackageName s ∨ ∃ name, PackageName name ∧ s = name ++ ['\n'] := by
  unfold dropFinalNewline
  split
  · next hlast =>
    obtain ⟨front, rfl⟩ := List.getLast?_eq_some_iff.1 hlast
    rw [List.dropLast_concat]
    constructor
    · intro hfront
      exact .inr ⟨front, hfront, rfl⟩
    · rintro (hs | ⟨name, hname, hs⟩)
      · exact absurd (hs.inName List.mem_concat_self) (by decide)
      · rwa [List.append_cancel_right hs]
  · next hlast =>
    constructor
    · exact .inl
    · rintro (hs | ⟨name, -, rfl⟩)
      · exact hs
      · exact absurd List.getLast?_concat hlast

/-- Texts that do not end with a newline character are taken as they are. -/
theorem isPackage_iff_of_last {s : String} (hs : s.toList.getLast? ≠ some '\n') :
    isPackage s = true ↔ PackageName s.toList := by
  rw [isPackage_iff, ← packageName_iff_splitOn, dropFinalNewline, if_neg hs]

/-- The texts that are taken for package names are the package names and those with one newline
character behind them. -/
theorem isPackage_iff_packageName (s : String) :
    isPackage s = true ↔
      PackageName s.toList ∨ ∃ name : String, PackageName name.toList ∧ s = name ++ "\n" := by
  have hnewline : "\n".toList = ['\n'] := by decide
  rw [isPackage_iff, ← packageName_iff_splitOn, packageName_dropFinalNewline]
  refine or_congr_right ⟨?_, ?_⟩
  · rintro ⟨name, hname, hs⟩
    refine ⟨String.ofList name, by rwa [String.toList_ofList], ?_⟩
    rw [← String.toList_inj, String.toList_append, String.toList_ofList, hnewline, hs]
  · rintro ⟨name, hname, rfl⟩
    exact ⟨name.toList, hname, by rw [String.toList_append, hnewline]⟩

/-- A package name with a newline character behind it is taken, but is no package name. -/
theorem not_packageName_newline :
    isPackage "com.example\n" = true ∧ ¬PackageName "com.example\n".toList := by
  refine ⟨by decide, fun hname => ?_⟩
  exact absurd (hname.inName (c := '\n') (by decide)) (by decide)

end Scaffold.Java
