import Scaffold.Diagram.Document

/-!
# What is beyond the reader's reach

A text that is no document is refused for its form, with two exceptions: the reader gives up at an
integer with too many digits and at containers that are nested too deeply. `Within` says of the
outcome of a reader that it leaves an end of its text, and that it gives up only if there is a
reason in the text. It has a rule for each way in which readers are put together.

Main statement: `exceeds_of_readChars`.
-/

namespace Scaffold.Json

open Scaffold.Text

/-- The number of opening brackets in a text. -/
def openings (s : List Char) : Nat := s.countP fun c => c = '[' || c = openBrace

/-- On a text in which so many containers may be nested, a reader leaves an end of it. It gives up
only at an integer with too many digits, or if there are more opening brackets. -/
def Within {α : Type} (depth : Nat) (s : List Char) : Except Stop (α × List Char) → Prop
  | .ok r => r.2 <:+ s
  | .error (.fault _ _) => True
  | .error (.hugeInteger digits) => maxDigits < digits ∧ digits ≤ s.length
  | .error (.tooDeep _) => depth < openings s

namespace Within

variable {α β : Type} {depth : Nat} {s s' : List Char} {x : Except Stop (α × List Char)}

/-! ## Rules -/

theorem mono (hx : Within depth s x) (hs : s <:+ s') : Within depth s' x := by
  match x, hx with
  | .ok r, hx => exact hx.trans hs
  | .error (.fault _ _), _ => trivial
  | .error (.hugeInteger _), hx => exact ⟨hx.1, Nat.le_trans hx.2 hs.length_le⟩
  | .error (.tooDeep _), hx => exact Nat.lt_of_lt_of_le hx hs.sublist.countP_le

/-- Behind an opening bracket one container less may be nested, and there has to be one. -/
theorem enter {c : Char} (hc : c = '[' ∨ c = openBrace) {container : String}
    (hx : depth ≠ 0 → Within (depth - 1) s x) :
    Within depth (c :: s) (if depth = 0 then .error (.tooDeep container) else x) := by
  have hopenings : openings (c :: s) = openings s + 1 := by
    rw [openings, List.countP_cons_of_pos (by simpa using hc), openings]
  by_cases hdepth : depth = 0
  · -- the reader gives up here, and the bracket itself is one too many
    rw [if_pos hdepth]
    calc depth = 0 := hdepth
      _ < openings s + 1 := Nat.succ_pos _
      _ = openings (c :: s) := hopenings.symm
  · rw [if_neg hdepth]
    match x, hx hdepth with
    | .ok r, hx => exact hx.trans (List.suffix_cons c s)
    | .error (.fault _ _), _ => trivial
    | .error (.hugeInteger _), hx => exact ⟨hx.1, Nat.le_succ_of_le hx.2⟩
    | .error (.tooDeep _), hx =>
      calc depth = depth - 1 + 1 := (Nat.sub_one_add_one hdepth).symm
        _ < openings s + 1 := Nat.succ_lt_succ hx
        _ = openings (c :: s) := hopenings.symm

theorem map (hx : Within depth s x) (f : α → β) :
    Within depth s (x.map fun r => (f r.1, r.2)) := by
  match x, hx with
  | .ok r, hx => exact hx
  | .error (.fault _ _), _ => trivial
  | .error (.hugeInteger _), hx => exact hx
  | .error (.tooDeep _), hx => exact hx

theorem bind (hx : Within depth s x) {f : α × List Char → Except Stop (β × List Char)}
    (hf : ∀ r, r.2 <:+ s → Within depth r.2 (f r)) : Within depth s (x >>= f) := by
  match x, hx with
  | .ok r, hx => exact (hf r hx).mono hx
  | .error (.fault _ _), _ => trivial
  | .error (.hugeInteger _), hx => exact hx
  | .error (.tooDeep _), hx => exact hx

end Within

/-! ## Texts and numbers -/

variable {depth : Nat}

theorem skipSpace_suffix (s : List Char) : skipSpace s <:+ s := List.dropWhile_suffix _

theorem suffix_of_skipSpace {c : Char} {s rest : List Char} (hs : skipSpace s = c :: rest) :
    rest <:+ s := (List.suffix_cons c rest).trans (hs ▸ skipSpace_suffix s)

theorem within_readParts (opening s : List Char) : Within depth s (readParts opening s) := by
  fun_induction readParts opening s with
  | case1 | case3 | case4 | case5 | case7 | case8 | case10 => trivial
  | case2 rest => exact List.suffix_cons _ _
  | case6 a b c d rest n _ _ ih =>
    exact (ih.map _).mono (List.suffix_append ['\\', 'u', a, b, c, d] rest)
  | case9 c rest _ _ x _ ih => exact (ih.map _).mono (List.suffix_append ['\\', c] rest)
  | case11 c rest _ _ _ _ _ _ ih => exact (ih.map _).mono (List.suffix_cons c rest)

theorem within_readText (s : List Char) : Within depth s (readText s) := by
  cases s with
  | nil => trivial
  | cons quote rest =>
    exact ((within_readParts (quote :: rest) rest).map fun parts =>
      String.ofList (ofParts parts)).mono (List.suffix_cons _ _)

/-- The digits in front of the point are cut off. -/
theorem readWhole_append (s : List Char) : (readWhole s).1 ++ (readWhole s).2 = s := by
  unfold readWhole
  split
  · rfl
  · exact List.takeWhile_append_dropWhile

theorem readFraction_suffix (s : List Char) : (readFraction s).2 <:+ s := by
  unfold readFraction
  split
  · split
    · exact List.suffix_rfl
    · exact (List.dropWhile_suffix _).trans (List.suffix_cons _ _)
  · exact List.suffix_rfl

theorem readExponent_suffix (s : List Char) : (readExponent s).2 <:+ s := by
  unfold readExponent
  split
  · next e rest =>
    split
    · split
      next negative digits hsign =>
      have hdigits : digits <:+ rest := by
        split at hsign <;> cases hsign
        · exact List.suffix_cons _ _
        · exact List.suffix_cons _ _
        · exact List.suffix_rfl
      split
      · exact List.suffix_rfl
      · exact ((List.dropWhile_suffix _).trans hdigits).trans (List.suffix_cons _ _)
    · exact List.suffix_rfl
  · exact List.suffix_rfl

theorem within_readNumber (s : List Char) : Within depth s (readNumber s) := by
  unfold readNumber
  split
  next negative body hbody =>
  have hstart : body <:+ s := by
    split at hbody <;> cases hbody
    · exact List.suffix_cons _ _
    · exact List.suffix_rfl
  have hwhole : (readWhole body).1.length ≤ s.length := by
    have hprefix : (readWhole body).1 <+: body := ⟨_, readWhole_append body⟩
    exact Nat.le_trans hprefix.length_le hstart.length_le
  have hrest : (readExponent (readFraction (readWhole body).2).2).2 <:+ s :=
    (readExponent_suffix _).trans <| (readFraction_suffix _).trans <|
      List.IsSuffix.trans ⟨_, readWhole_append body⟩ hstart
  dsimp only
  split
  · trivial
  · split
    · split
      · next hdigits => exact ⟨hdigits, hwhole⟩
      · exact hrest
    · exact hrest

/-- Words and numbers leave what stands behind them. -/
theorem within_readScalar (s : List Char) : Within depth s (readScalar s) := by
  unfold readScalar
  split
  · exact List.suffix_append ['n', 'u', 'l', 'l'] _
  · exact List.suffix_append ['t', 'r', 'u', 'e'] _
  · exact List.suffix_append ['f', 'a', 'l', 's', 'e'] _
  · exact List.suffix_append ['N', 'a', 'N'] _
  · exact List.suffix_append ['I', 'n', 'f', 'i', 'n', 'i', 't', 'y'] _
  · exact List.suffix_append ['-', 'I', 'n', 'f', 'i', 'n', 'i', 't', 'y'] _
  · exact within_readNumber _

/-! ## Documents -/

/-- With so much fuel, values, items and fields are read as far as they reach. -/
structure Fuelled (fuel : Nat) : Prop where
  /-- Values. -/
  value : ∀ depth s, Within depth s (readValue fuel depth s)
  /-- Items of arrays. -/
  items : ∀ depth s, Within depth s (readItems fuel depth s)
  /-- Fields of objects. -/
  fields : ∀ depth fields s, Within depth s (readFields fuel depth fields s)

namespace Fuelled

variable {fuel : Nat}

theorem readValue_succ (hfuel : Fuelled fuel) (depth : Nat) (s : List Char) :
    Within depth s (readValue (fuel + 1) depth s) := by
  unfold readValue
  split
  · exact (within_readText _).map _
  · refine .enter (.inl rfl) fun _ => ?_
    split
    · next hs => exact suffix_of_skipSpace hs
    · exact ((hfuel.items _ _).map _).mono (skipSpace_suffix _)
  · split
    · next hc =>
      refine .enter (.inr hc) fun _ => ?_
      split
      · trivial
      · next hs =>
        split
        · exact suffix_of_skipSpace hs
        · exact ((hfuel.fields _ _ _).map _).mono (hs ▸ skipSpace_suffix _)
    · exact within_readScalar _
  · trivial

theorem readItems_succ (hfuel : Fuelled fuel) (depth : Nat) (s : List Char) :
    Within depth s (readItems (fuel + 1) depth s) := by
  rw [readItems]
  refine (hfuel.value depth s).bind fun r _ => ?_
  dsimp only
  split
  · next hs => exact suffix_of_skipSpace hs
  · next rest hs =>
    -- what follows a comma is an end of the text, so it has no more brackets than all of it
    have hitems : Within depth rest (readItems fuel depth (skipSpace rest)) :=
      (hfuel.items _ _).mono (skipSpace_suffix _)
    refine Within.mono (hitems.bind fun _ _ => ?_) (suffix_of_skipSpace hs)
    exact List.suffix_rfl
  · trivial

theorem readFields_succ (hfuel : Fuelled fuel) (depth : Nat) (fields : Fields) (s : List Char) :
    Within depth s (readFields (fuel + 1) depth fields s) := by
  unfold readFields
  split
  · refine (within_readText _).bind fun key _ => ?_
    dsimp only
    split
    · next rest hs =>
      have hvalue : Within depth rest (readValue fuel depth (skipSpace rest)) :=
        (hfuel.value _ _).mono (skipSpace_suffix _)
      refine Within.mono (hvalue.bind fun value _ => ?_) (suffix_of_skipSpace hs)
      split
      · next hs =>
        exact (hfuel.fields _ _ _).mono ((skipSpace_suffix _).trans (suffix_of_skipSpace hs))
      · next hs =>
        split
        · exact suffix_of_skipSpace hs
        · trivial
      · trivial
    · trivial
  · trivial

end Fuelled

/-- Reading stays within its reach with any fuel: one more unit is one more call. -/
theorem fuelled (fuel : Nat) : Fuelled fuel := by
  induction fuel with
  | zero => exact ⟨fun _ _ => trivial, fun _ _ => trivial, fun _ _ _ => trivial⟩
  | succ fuel ih => exact ⟨ih.readValue_succ, ih.readItems_succ, ih.readFields_succ⟩

/-- Why a text is beyond the reader's reach: an integer of it has more digits than are read, or it
has more opening brackets than containers may be nested. -/
def Exceeds (s : List Char) : ReadError → Prop
  | .hugeInteger digits => maxDigits < digits ∧ digits ≤ s.length
  | .tooDeep _ => maxDepth < openings s
  | _ => False

/-- If a text is refused, then for its form or because it is beyond the reader's reach. -/
theorem exceeds_of_readChars {s : List Char} {e : ReadError} (hread : Value.readChars s = .error e)
    (hform : e.isOfForm = false) : Exceeds s e := by
  have hwithin : Within maxDepth s (readValue (2 * s.length + 2) maxDepth (skipSpace s)) :=
    ((fuelled _).value _ _).mono (skipSpace_suffix s)
  unfold Value.readChars readDocument at hread
  cases hvalue : readValue (2 * s.length + 2) maxDepth (skipSpace s) with
  | ok r =>
    -- what stands behind a document is at fault itself
    simp only [hvalue, bind, Except.bind] at hread
    cases hrest : skipSpace r.2 with
    | nil =>
      rw [hrest] at hread
      cases hread
    | cons c rest =>
      rw [hrest] at hread
      cases hread
      cases hform
  | error stop =>
    rw [hvalue] at hread hwithin
    cases stop with
    | fault fault rest =>
      cases hread
      cases hform
    | hugeInteger digits =>
      cases hread
      exact hwithin
    | tooDeep container =>
      cases hread
      exact hwithin

end Scaffold.Json
