/-!
# Separated text

`splitOn` cuts a list at every occurrence of a separator and `joinWith` puts the pieces together
again, with the same separator between neighbours. The string functions `lines` and `joinLines`
are the two at the newline character.

Main statements: `joinWith_splitOn` (joining undoes splitting) and `splitOn_ne_nil` (there is
always at least one piece).
-/

namespace Scaffold.Text

/-- The pieces of a list between the occurrences of a separator, empty pieces included. -/
def splitOn {α : Type} [DecidableEq α] (sep : α) : List α → List (List α)
  | [] => [[]]
  | c :: rest =>
    match splitOn sep rest with
    | [] => [[c]]
    | piece :: pieces => if c = sep then [] :: piece :: pieces else (c :: piece) :: pieces

/-- The pieces one after the other, with a separator between neighbours. -/
def joinWith {α : Type} (sep : α) : List (List α) → List α
  | [] => []
  | [piece] => piece
  | piece :: pieces => piece ++ sep :: joinWith sep pieces

theorem splitOn_ne_nil {α : Type} [DecidableEq α] (sep : α) (l : List α) :
    splitOn sep l ≠ [] := by
  cases l with
  | nil => simp [splitOn]
  | cons c rest =>
    simp only [splitOn]
    split
    · simp
    · split <;> simp

theorem joinWith_splitOn {α : Type} [DecidableEq α] (sep : α) (l : List α) :
    joinWith sep (splitOn sep l) = l := by
  induction l with
  | nil => rfl
  | cons c rest ih =>
    simp only [splitOn]
    split
    · next h => exact absurd h (splitOn_ne_nil sep rest)
    · next piece pieces h =>
      rw [h] at ih
      split
      · next hc => simp [joinWith, ih, hc]
      · cases pieces with
        | nil => simpa [joinWith] using ih
        | cons q qs => simpa [joinWith] using ih

/-- The lines of a text: what stands between its newline characters. -/
def lines (s : String) : List String := (splitOn '\n' s.toList).map String.ofList

/-- The texts one after the other, with a newline character between neighbours. -/
def joinLines (ls : List String) : String :=
  String.ofList (joinWith '\n' (ls.map String.toList))

/-- The texts one after the other, with a separator between neighbours. -/
def joinTexts (sep : String) : List String → String
  | [] => ""
  | [s] => s
  | s :: rest => s ++ sep ++ joinTexts sep rest

/-- Without a separator, texts are put together part by part. -/
theorem joinTexts_append (texts texts' : List String) :
    joinTexts "" (texts ++ texts') = joinTexts "" texts ++ joinTexts "" texts' := by
  have hcons : ∀ s l, joinTexts "" (s :: l) = s ++ joinTexts "" l := by
    intro s l
    cases l <;> simp [joinTexts]
  induction texts with
  | nil => simp [joinTexts]
  | cons s rest ih => rw [List.cons_append, hcons, hcons, ih, String.append_assoc]

end Scaffold.Text
