import Mathlib.Data.List.Induction
import Scaffold.Proofs.Ingestion
import Scaffold.Proofs.Naming

/-!
# What documents are decoded to

A document may come as an object that is decoded already. An object that a text is decoded to
(`Source.Decoded`) holds no integer with more digits than are read, so all of it can be shown. Other
objects may hold longer integers. `Yields` says that what a reader reads has a property; it has a
rule for each way in which readers are put together.

A text of the model is a sequence of characters and holds no surrogates. Where a document has a
surrogate that is not paired, the reader puts the replacement character, which says less than the
document does: such a surrogate cannot be encoded, neither for a digest nor for the output. Nor are
containers shown that are nested beyond what the stack of calls holds. Statements that would not
hold of such documents are made of plain ones (`Source.Plain`), which rules out both.

Main statements: `Source.Decoded.showable` and `showable_default_of_parse`.
-/

namespace Scaffold

open Json Document

/-! ## Numbers -/

theorem Decimal.tenTo_succ (n : Nat) : tenTo (n + 1) = tenTo n * 10 := Nat.pow_succ ..

theorem Decimal.tenTo_le {m n : Nat} (h : m ≤ n) : tenTo m ≤ tenTo n :=
  Nat.pow_le_pow_right (by decide) h

/-- A number is less than the power of ten with an exponent for each of its digits. -/
theorem Text.ofDigits_lt {digits : List Nat} (hdigits : ∀ d ∈ digits, d < 10) :
    ofDigits 10 digits < Decimal.tenTo digits.length := by
  induction digits using List.reverseRecOn with
  | nil => exact Nat.one_pos
  | append_singleton rest d ih =>
    have hrest := ih fun d hd => hdigits d (List.mem_append_left _ hd)
    have hd := hdigits d (List.mem_append_right _ List.mem_cons_self)
    calc ofDigits 10 (rest ++ [d]) = ofDigits 10 rest * 10 + d := by simp [ofDigits]
      _ < (ofDigits 10 rest + 1) * 10 := by omega
      _ ≤ Decimal.tenTo rest.length * 10 := Nat.mul_le_mul_right _ hrest
      _ = Decimal.tenTo (rest ++ [d]).length := by
        rw [List.length_append, List.length_singleton, Decimal.tenTo_succ]

namespace Json

/-- A number of at most so many digits is less than the power of ten. -/
theorem asciiNumber_lt {digits : List Char} {n : Nat}
    (hdigits : ∀ c ∈ digits, isAsciiDigit c = true) (hn : digits.length ≤ n) :
    asciiNumber digits < Decimal.tenTo n := by
  have hvalues : ∀ d ∈ digits.map fun c => c.toNat - 0x30, d < 10 := by
    intro d hd
    obtain ⟨c, hc, rfl⟩ := List.mem_map.1 hd
    have hrange : '0' ≤ c ∧ c ≤ '9' := by simpa [isAsciiDigit] using hdigits c hc
    have hlast : c.toNat ≤ '9'.toNat := hrange.2
    have hnine : '9'.toNat = 57 := rfl
    omega
  calc asciiNumber digits < Decimal.tenTo digits.length := by
        simpa [asciiNumber] using Text.ofDigits_lt hvalues
    _ ≤ Decimal.tenTo n := Decimal.tenTo_le hn

theorem isAsciiDigit_of_mem_readWhole {s : List Char} :
    ∀ c ∈ (readWhole s).1, isAsciiDigit c = true := by
  unfold readWhole
  split
  · simp [isAsciiDigit]
  · exact fun c hc => List.mem_takeWhile_imp hc

/-! ## Readers -/

/-- What a reader reads, if it reads something, has a property. -/
def Yields {α : Type} (p : α → Prop) (x : Except Stop (α × List Char)) : Prop :=
  ∀ r, x = .ok r → p r.1

namespace Yields

variable {α β : Type} {p : α → Prop} {q : β → Prop} {x : Except Stop (α × List Char)}

theorem ok {r : α × List Char} (hr : p r.1) : Yields p (.ok r) := by
  rintro _ ⟨⟩
  exact hr

theorem error (e : Stop) : Yields p (.error e : Except Stop (α × List Char)) := nofun

theorem map (hx : Yields p x) {f : α → β} (hf : ∀ a, p a → q (f a)) :
    Yields q (x.map fun r => (f r.1, r.2)) := by
  intro r hr
  obtain ⟨r', hr', rfl⟩ := Except.map_eq_ok.1 hr
  exact hf _ (hx r' hr')

theorem bind (hx : Yields p x) {f : α × List Char → Except Stop (β × List Char)}
    (hf : ∀ r, p r.1 → Yields q (f r)) : Yields q (x >>= f) := by
  intro r hr
  obtain ⟨r', hr', hr⟩ := Except.bind_eq_ok.1 hr
  exact hf r' (hx r' hr') r hr

end Yields

/-- A value can be shown. -/
def Showable (v : Value) : Prop := v.isShowable = true

theorem showable_arr {items : List Value} : Showable (.arr items) ↔ ∀ v ∈ items, Showable v :=
  Value.areShowable_iff

theorem showable_obj {fields : Fields} : Showable (.obj fields) ↔ ∀ f ∈ fields, Showable f.2 :=
  Value.haveShowable_iff

theorem Showable.put {fields : Fields} (hfields : Showable (.obj fields)) (key : String)
    {v : Value} (hv : Showable v) : Showable (.obj (Fields.put key v fields)) := by
  rw [showable_obj] at hfields ⊢
  induction fields with
  | nil => simpa [Fields.put] using hv
  | cons f rest ih =>
    obtain ⟨hfirst, hrest⟩ := List.forall_mem_cons.1 hfields
    rw [Fields.put]
    split
    · exact List.forall_mem_cons.2 ⟨hv, hrest⟩
    · exact List.forall_mem_cons.2 ⟨hfirst, ih hrest⟩

/-- Integers with too many digits are not read. -/
theorem yields_readNumber (s : List Char) : Yields Showable (readNumber s) := by
  unfold readNumber
  split
  next negative body _ =>
  dsimp only
  split
  · exact .error _
  · split
    · split
      · exact .error _
      · next hshort =>
        refine .ok (Value.isShowable_int.2 ?_)
        have habs : ∀ n : Nat, (if negative then -(n : Int) else n).natAbs = n := by
          intro n
          split <;> simp
        rw [habs]
        exact asciiNumber_lt isAsciiDigit_of_mem_readWhole (Nat.le_of_not_lt hshort)
    · exact .ok (Value.isShowable_float _)

theorem yields_readScalar (s : List Char) : Yields Showable (readScalar s) := by
  unfold readScalar
  split
  iterate 6 exact .ok rfl
  exact yields_readNumber _

/-- With so much fuel, values, items and fields that are read can be shown. -/
structure YieldsShowable (fuel : Nat) : Prop where
  /-- Values. -/
  value : ∀ depth s, Yields Showable (readValue fuel depth s)
  /-- Items of arrays. -/
  items : ∀ depth s, Yields (fun items => Showable (.arr items)) (readItems fuel depth s)
  /-- Fields of objects, if those that were read before can be shown. -/
  fields : ∀ depth fields s, Showable (.obj fields) →
    Yields (fun fields => Showable (.obj fields)) (readFields fuel depth fields s)

namespace YieldsShowable

variable {fuel : Nat}

theorem readValue_succ (hfuel : YieldsShowable fuel) (depth : Nat) (s : List Char) :
    Yields Showable (readValue (fuel + 1) depth s) := by
  have hnone : Showable (.obj []) := showable_obj.2 nofun
  unfold readValue
  split
  · exact Yields.map (p := fun _ => True) (fun _ _ => trivial) fun s _ => Value.isShowable_str s
  · split
    · exact .error _
    · split
      · exact .ok rfl
      · exact (hfuel.items _ _).map fun _ hitems => hitems
  · split
    · split
      · exact .error _
      · split
        · exact .error _
        · split
          · exact .ok hnone
          · exact (hfuel.fields _ _ _ hnone).map fun _ hfields => hfields
    · exact yields_readScalar _
  · exact .error _

theorem readItems_succ (hfuel : YieldsShowable fuel) (depth : Nat) (s : List Char) :
    Yields (fun items => Showable (.arr items)) (readItems (fuel + 1) depth s) := by
  rw [readItems]
  refine (hfuel.value depth s).bind fun r hitem => ?_
  dsimp only
  split
  · exact .ok (showable_arr.2 (List.forall_mem_singleton.2 hitem))
  · refine (hfuel.items _ _).bind fun r' hitems => .ok (showable_arr.2 ?_)
    exact List.forall_mem_cons.2 ⟨hitem, showable_arr.1 hitems⟩
  · exact .error _

theorem readFields_succ (hfuel : YieldsShowable fuel) (depth : Nat) (fields : Fields)
    (s : List Char) (hfields : Showable (.obj fields)) :
    Yields (fun fields => Showable (.obj fields)) (readFields (fuel + 1) depth fields s) := by
  unfold readFields
  split
  · refine Yields.bind (p := fun _ => True) (fun _ _ => trivial) fun key _ => ?_
    dsimp only
    split
    · refine (hfuel.value _ _).bind fun value hvalue => ?_
      have hput := hfields.put key.1 hvalue
      split
      · exact hfuel.fields _ _ _ hput
      · split
        · exact .ok hput
        · exact .error _
      · exact .error _
    · exact .error _
  · exact .error _

end YieldsShowable

/-- Whatever the fuel is, what is read can be shown: one more unit is one more call. -/
theorem yieldsShowable (fuel : Nat) : YieldsShowable fuel := by
  induction fuel with
  | zero => exact ⟨fun _ _ => .error _, fun _ _ => .error _, fun _ _ _ _ => .error _⟩
  | succ fuel ih => exact ⟨ih.readValue_succ, ih.readItems_succ, ih.readFields_succ⟩

theorem showable_of_readChars {s : List Char} {v : Value} (hread : Value.readChars s = .ok v) :
    Showable v := by
  have hdocument : readDocument s = .ok v := by
    unfold Value.readChars at hread
    split at hread
    · next hdocument => rwa [Except.ok.inj hread] at hdocument
    all_goals cases hread
  obtain ⟨r, hvalue, hrest⟩ := Except.bind_eq_ok.1 hdocument
  dsimp only at hrest
  split at hrest
  · cases hrest
    exact (yieldsShowable _).value _ _ r hvalue
  · cases hrest

/-- What is read from a text can be shown. -/
theorem showable_of_read {s : String} {v : Value} (hread : Value.read s = .ok v) : Showable v := by
  unfold Value.read at hread
  split at hread
  · cases hread
  · exact showable_of_readChars hread

/-- What is read from bytes can be shown. -/
theorem showable_of_readBytes {b : Text.Bytes} {v : Value} (hread : Value.readBytes b = .ok v) :
    Showable v := by
  unfold Value.readBytes at hread
  dsimp only at hread
  split at hread
  · exact showable_of_readChars hread
  · cases hread

end Json

/-! ## Parts of a document -/

open Record

namespace Document

theorem showable_valueOf {fields : Fields} (hfields : Showable (.obj fields)) (key : String) :
    Showable (valueOf fields key) := by
  unfold valueOf
  cases hvalue : Fields.get? fields key with
  | none => rfl
  | some v => exact showable_obj.1 hfields _ (Naming.mem_of_lookup hvalue)

theorem showable_of_container {fields : Fields} {key : String} {items : List Value}
    (hfields : Showable (.obj fields)) (hitems : container fields key = .ok items) :
    ∀ v ∈ items, Showable v := by
  have hvalue := showable_valueOf hfields key
  unfold container at hitems
  split at hitems
  · cases hitems
    nofun
  · next entries hentries =>
    cases hitems
    rw [hentries] at hvalue
    exact List.forall_mem_map.2 (showable_obj.1 hvalue)
  · next items' harray =>
    cases hitems
    rw [harray] at hvalue
    exact showable_arr.1 hvalue
  · cases hitems

/-- A document is a text, bytes, or an object that some text is decoded to. -/
inductive Source.Decoded : Source → Prop where
  /-- A text. -/
  | text (s : String) : Decoded (.text s)
  /-- Bytes. -/
  | bytes (b : Text.Bytes) : Decoded (.bytes b)
  /-- An object that a text is decoded to. -/
  | object {s : String} {fields : Fields} (hread : Value.read s = .ok (.obj fields)) :
    Decoded (.object fields)

/-- All of a decoded document can be shown. -/
theorem Source.Decoded.showable {source : Source} (hsource : source.Decoded) {fields : Fields}
    (hfields : source.fields = .ok fields) : Showable (.obj fields) := by
  have hread : ∀ x, Source.fields.ofRead x = .ok fields → x = .ok (.obj fields) := by
    intro x hx
    unfold Source.fields.ofRead at hx
    split at hx
    · cases hx
      rfl
    · cases hx
    · cases hx
  cases hsource with
  | text s => exact showable_of_read (hread _ hfields)
  | bytes b => exact showable_of_readBytes (hread _ hfields)
  | object hs =>
    obtain rfl := Except.ok.inj hfields
    exact showable_of_read hs

end Document

/-- How many containers may be nested in a plain value. Values that are nested more deeply than the
stack of calls can hold are not shown. -/
def maxShownDepth : Nat := 400

mutual

/-- Whether a value is plain: no text in it holds the replacement character, and no more than so
many containers are nested. -/
def Json.Value.isPlain : Value → Nat → Bool
  | .null, _ => true
  | .bool _, _ => true
  | .int _, _ => true
  | .float _, _ => true
  | .str s, _ => s.toList.all (· ≠ Text.replacement)
  | .arr items, depth => depth ≠ 0 && Json.Value.arePlain items (depth - 1)
  | .obj fields, depth => depth ≠ 0 && Json.Value.havePlain fields (depth - 1)

/-- Whether all items of an array are plain. -/
def Json.Value.arePlain : List Value → Nat → Bool
  | [], _ => true
  | v :: rest, depth => v.isPlain depth && Json.Value.arePlain rest depth

/-- Whether the keys and values of all fields of an object are plain. -/
def Json.Value.havePlain : List (String × Value) → Nat → Bool
  | [], _ => true
  | (key, v) :: rest, depth =>
    key.toList.all (· ≠ Text.replacement) && v.isPlain depth && Json.Value.havePlain rest depth

end

/-- A document has no surrogate that is not paired, for which the reader puts the replacement
character, and no containers that are nested too deeply to be shown. -/
def Document.Source.Plain (source : Source) : Prop :=
  (source.fields.toOption.all fun fields => (Value.obj fields).isPlain maxShownDepth) = true

end Scaffold
