import Scaffold.Decimal.Binary64

/-!
# JSON values

A `Value` is a decoded JSON document. Integers and doubles are different values, as they are in
the text, and an object is the list of its fields in the order of first appearance, with one
entry per key (`put`). Equality is decidable and structural.

Main statements: `keys_put` (writing a key adds it at the end or leaves the order alone) and
`get?_put_self` (what was written last is read).
-/

namespace Scaffold.Json

open Scaffold.Decimal

/-- A JSON value. -/
inductive Value where
  /-- The literal `null`. -/
  | null
  /-- The literals `true` and `false`. -/
  | bool (b : Bool)
  /-- A number written without fraction and exponent. -/
  | int (i : Int)
  /-- A number written with a fraction or an exponent, and the literals for infinity and NaN. -/
  | float (x : Binary64)
  /-- A text. -/
  | str (s : String)
  /-- An array. -/
  | arr (items : List Value)
  /-- An object, its keys pairwise distinct and in order of first appearance. -/
  | obj (fields : List (String × Value))
  deriving Inhabited

/-- The fields of an object. -/
abbrev Fields := List (String × Value)

/-! ## Equality -/

mutual

/-- Whether two values are the same. -/
def Value.same : Value → Value → Bool
  | .null, .null => true
  | .bool a, .bool b => a = b
  | .int a, .int b => a = b
  | .float a, .float b => a = b
  | .str a, .str b => a = b
  | .arr a, .arr b => Value.sameItems a b
  | .obj a, .obj b => Value.sameFields a b
  | _, _ => false

/-- Whether two lists hold the same values. -/
def Value.sameItems : List Value → List Value → Bool
  | [], [] => true
  | a :: as, b :: bs => Value.same a b && Value.sameItems as bs
  | _, _ => false

/-- Whether two field lists hold the same keys and values. -/
def Value.sameFields : List (String × Value) → List (String × Value) → Bool
  | [], [] => true
  | (k, a) :: as, (l, b) :: bs => k = l && (Value.same a b && Value.sameFields as bs)
  | _, _ => false

end

mutual

theorem Value.same_iff : ∀ a b : Value, Value.same a b = true ↔ a = b
  | .null, b => by cases b <;> simp [Value.same]
  | .bool _, b => by cases b <;> simp [Value.same]
  | .int _, b => by cases b <;> simp [Value.same]
  | .float _, b => by cases b <;> simp [Value.same]
  | .str _, b => by cases b <;> simp [Value.same]
  | .arr as, b => by cases b <;> simp [Value.same, Value.sameItems_iff as]
  | .obj as, b => by cases b <;> simp [Value.same, Value.sameFields_iff as]

theorem Value.sameItems_iff : ∀ as bs : List Value, Value.sameItems as bs = true ↔ as = bs
  | [], bs => by cases bs <;> simp [Value.sameItems]
  | a :: as, bs => by
    cases bs <;> simp [Value.sameItems, Value.same_iff a, Value.sameItems_iff as]

theorem Value.sameFields_iff :
    ∀ as bs : List (String × Value), Value.sameFields as bs = true ↔ as = bs
  | [], bs => by cases bs <;> simp [Value.sameFields]
  | (k, a) :: as, bs => by
    cases bs with
    | nil => simp [Value.sameFields]
    | cons b bs =>
      simp [Value.sameFields, Value.same_iff a, Value.sameFields_iff as, Prod.ext_iff, and_assoc]

end

instance : DecidableEq Value := fun a b => decidable_of_iff _ (Value.same_iff a b)

/-! ## Fields -/

/-- The value of a key. -/
def Fields.get? (fields : Fields) (key : String) : Option Value := fields.lookup key

/-- Gives a key a value: in place if the key is there, and at the end otherwise. -/
def Fields.put (key : String) (value : Value) : Fields → Fields
  | [] => [(key, value)]
  | (k, v) :: rest => if k = key then (key, value) :: rest else (k, v) :: Fields.put key value rest

/-- The keys, in order. -/
def Fields.keys (fields : Fields) : List String := fields.map (·.1)

theorem Fields.keys_put (key : String) (value : Value) (fields : Fields) :
    (Fields.put key value fields).keys =
      if key ∈ fields.keys then fields.keys else fields.keys ++ [key] := by
  induction fields with
  | nil => simp [Fields.put, Fields.keys]
  | cons f rest ih =>
    obtain ⟨k, v⟩ := f
    simp only [Fields.put]
    split
    · next h => simp [Fields.keys, h]
    · next h =>
      simp only [Fields.keys, List.map_cons, List.mem_cons] at ih ⊢
      rw [ih]
      by_cases hk : key ∈ rest.map (·.1)
      · simp [hk]
      · simp [hk, Ne.symm h]

theorem Fields.get?_put_self (key : String) (value : Value) (fields : Fields) :
    (Fields.put key value fields).get? key = some value := by
  induction fields with
  | nil => simp [Fields.put, Fields.get?]
  | cons f rest ih =>
    obtain ⟨k, v⟩ := f
    simp only [Fields.put]
    split
    · simp [Fields.get?]
    · next h =>
      have : (key == k) = false := by simp [Ne.symm h]
      simpa [Fields.get?, List.lookup_cons, this] using ih

/-! ## Truth -/

/-- Whether a value counts as given: `null`, `false`, zeros and everything empty do not. -/
def Value.isGiven : Value → Bool
  | .null => false
  | .bool b => b
  | .int i => i ≠ 0
  | .float x => !x.isZero
  | .str s => s ≠ ""
  | .arr items => !items.isEmpty
  | .obj fields => !fields.isEmpty

end Scaffold.Json
