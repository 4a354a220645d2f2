/-!
# Ordered texts

`ordered` lists the members of a list of texts once each, in increasing order by code point.

Main statements: `mem_ordered` (no member is lost or added) and `pairwise_ordered` (the result is
strictly increasing).
-/

namespace Scaffold.Text

/-- Puts a text at its place in an increasing list, unless it is there already. -/
def insertOrdered (s : String) : List String → List String
  | [] => [s]
  | t :: rest =>
    if s < t then s :: t :: rest else if s = t then t :: rest else t :: insertOrdered s rest

/-- The members of a list, once each and in increasing order. -/
def ordered (l : List String) : List String := l.foldr insertOrdered []

theorem mem_insertOrdered {s x : String} {l : List String} :
    x ∈ insertOrdered s l ↔ x = s ∨ x ∈ l := by
  induction l with
  | nil => simp [insertOrdered]
  | cons t rest ih =>
    simp only [insertOrdered]
    split
    · simp
    · split
      · next h => simp [h]
      · simp [ih]; grind

theorem mem_ordered {x : String} {l : List String} : x ∈ ordered l ↔ x ∈ l := by
  induction l with
  | nil => simp [ordered]
  | cons s rest ih =>
    have : ordered (s :: rest) = insertOrdered s (ordered rest) := rfl
    simp [this, mem_insertOrdered, ih]

theorem pairwise_insertOrdered {s : String} {l : List String} (h : l.Pairwise (· < ·)) :
    (insertOrdered s l).Pairwise (· < ·) := by
  induction l with
  | nil => simp [insertOrdered]
  | cons t rest ih =>
    obtain ⟨ht, hrest⟩ := List.pairwise_cons.1 h
    simp only [insertOrdered]
    split
    · next hs =>
      refine List.pairwise_cons.2 ⟨fun x hx => ?_, h⟩
      rcases List.mem_cons.1 hx with rfl | hx
      · exact hs
      · exact String.lt_trans hs (ht x hx)
    · split
      · exact h
      · next hs hne =>
        refine List.pairwise_cons.2 ⟨fun x hx => ?_, ih hrest⟩
        rcases mem_insertOrdered.1 hx with rfl | hx
        · exact Std.lt_of_le_of_ne (String.not_lt.1 hs) (Ne.symm hne)
        · exact ht x hx

theorem pairwise_ordered (l : List String) : (ordered l).Pairwise (· < ·) := by
  induction l with
  | nil => simp [ordered]
  | cons s rest ih => exact pairwise_insertOrdered ih

end Scaffold.Text
