import Scaffold.Decimal.Shortest
import Scaffold.Json.Value
import Scaffold.Text.Numeral
import Scaffold.Text.Quoted
import Scaffold.Text.Split

/-!
# Values as text

How a value is shown in names, labels and messages. A text is shown as it is when it stands alone
(`shown`) and between quotes inside arrays and objects (`quote`); all other values look the same
either way. Doubles are shown in their shortest decimal, `True`, `False` and `None` stand for the
literals.

An integer with more digits than are read is not shown either. `shown` and `quote` say what a value
looks like if it can be shown (`isShowable`), and whoever shows a value that may be an integer asks
for that first. There is no limit to the depth to which containers are shown; documents that are
nested deeply are excluded where that matters (`Document.Source.Plain`).
-/

namespace Scaffold.Json

open Scaffold.Decimal Scaffold.Text

/-- Doubles in names and messages: positional from `0.0001` up to 16 digits before the point. -/
def shownForm : Form := { infinity := "inf", nan := "nan" }

mutual

/-- A value as it is shown inside another value. -/
def Value.quote : Value → String
  | .null => "None"
  | .bool true => "True"
  | .bool false => "False"
  | .int i => showInt i
  | .float x => shownForm.write x
  | .str s => quoted s
  | .arr items => "[" ++ joinTexts ", " (Value.quoteItems items) ++ "]"
  | .obj fields => "\x7b" ++ joinTexts ", " (Value.quoteFields fields) ++ "\x7d"

/-- The items of an array as they are shown. -/
def Value.quoteItems : List Value → List String
  | [] => []
  | v :: rest => v.quote :: Value.quoteItems rest

/-- The fields of an object as they are shown. -/
def Value.quoteFields : List (String × Value) → List String
  | [] => []
  | (k, v) :: rest => (quoted k ++ ": " ++ v.quote) :: Value.quoteFields rest

end

/-- A value as it is shown when it stands alone. -/
def Value.shown : Value → String
  | .str s => s
  | v => v.quote

/-! ## Values that cannot be shown -/

mutual

/-- Whether a value can be shown: no integer in it has too many digits. -/
def Value.isShowable : Value → Bool
  | .null => true
  | .bool _ => true
  | .int i => i.natAbs < tenTo maxDigits
  | .float _ => true
  | .str _ => true
  | .arr items => Value.areShowable items
  | .obj fields => Value.haveShowable fields

/-- Whether all items of an array can be shown. -/
def Value.areShowable : List Value → Bool
  | [] => true
  | v :: rest => v.isShowable && Value.areShowable rest

/-- Whether the values of all fields of an object can be shown. -/
def Value.haveShowable : List (String × Value) → Bool
  | [] => true
  | (_, v) :: rest => v.isShowable && Value.haveShowable rest

end

/-- The wording of the error for a value that cannot be shown. -/
def unshowableMessage : String :=
  s!"Exceeds the limit ({maxDigits} digits) for integer string conversion; " ++
    "use sys.set_int_max_str_digits() to increase the limit"

theorem Value.areShowable_iff {items : List Value} :
    Value.areShowable items = true ↔ ∀ v ∈ items, v.isShowable = true := by
  induction items with
  | nil => simp [Value.areShowable]
  | cons v rest ih => simp [Value.areShowable, ih]

theorem Value.haveShowable_iff {fields : List (String × Value)} :
    Value.haveShowable fields = true ↔ ∀ f ∈ fields, f.2.isShowable = true := by
  induction fields with
  | nil => simp [Value.haveShowable]
  | cons f rest ih => simp [Value.haveShowable, ih]

@[simp] theorem Value.isShowable_str (s : String) : (Value.str s).isShowable = true := rfl

@[simp] theorem Value.isShowable_float (x : Binary64) : (Value.float x).isShowable = true := rfl

theorem Value.isShowable_int {i : Int} :
    (Value.int i).isShowable = true ↔ i.natAbs < tenTo maxDigits := by
  rw [Value.isShowable, decide_eq_true_eq]

/-- The least integer with one digit too many. -/
def overlong : Int := tenTo maxDigits

theorem Value.isShowable_overlong : (Value.int overlong).isShowable = false := by
  rw [Bool.eq_false_iff, Ne, Value.isShowable_int, overlong, Int.natAbs_natCast]
  exact Nat.lt_irrefl _

/-! ## Kinds -/

/-- The kinds of values. -/
inductive Kind where
  /-- The kind of `null`. -/
  | null
  /-- The kind of the truth values. -/
  | bool
  /-- The kind of the integers. -/
  | int
  /-- The kind of the doubles. -/
  | float
  /-- The kind of the texts. -/
  | str
  /-- The kind of the arrays. -/
  | arr
  /-- The kind of the objects. -/
  | obj
  deriving DecidableEq

/-- The kind of a value. -/
def Value.kind : Value → Kind
  | .null => .null
  | .bool _ => .bool
  | .int _ => .int
  | .float _ => .float
  | .str _ => .str
  | .arr _ => .arr
  | .obj _ => .obj

/-- The word for a kind in messages. -/
def Kind.word : Kind → String
  | .null => "NoneType"
  | .bool => "bool"
  | .int => "int"
  | .float => "float"
  | .str => "str"
  | .arr => "list"
  | .obj => "dict"

end Scaffold.Json
