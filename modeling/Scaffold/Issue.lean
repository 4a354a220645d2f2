/-!
# Issues with the fields of a record

A record that is read from loosely typed data can be wrong in several fields at once. `Checked`
is the outcome of reading: a value, or every issue that was found, each with the path to the
place that it is about. Reading two parts (`Checked.both`) keeps the issues of both, those of the
first part in front. A part that has to be iterated and cannot ends the reading at once.

Main statement: `issues_both` (reading two parts finds the issues of the first, then those of the
second).
-/

namespace Scaffold

/-- A step of a path into a record. -/
inductive PathStep where
  /-- Into a field. -/
  | field (name : String)
  /-- Into an item of an array. -/
  | item (index : Nat)
  deriving DecidableEq

/-- What is wrong with a part of a record. -/
inductive IssueKind where
  /-- A required field is missing. -/
  | missing
  /-- The part should be a text. -/
  | text
  /-- The part should be a truth value. -/
  | truth
  /-- The text or number stands for no truth value. -/
  | truthWord
  /-- The part should be an array. -/
  | array
  /-- The part should be an object from which a record of the given name can be read. -/
  | record (name : String)
  /-- The part should be an integer. -/
  | integer
  /-- The text stands for no integer. -/
  | integerText
  /-- The integer is beyond what is read. -/
  | hugeInteger
  /-- The number is no integer. -/
  | fraction
  /-- The number is not finite. -/
  | infinite
  /-- The integer is negative. -/
  | negative
  /-- The part should be a path. -/
  | path
  /-- The part breaks a rule of its own. -/
  | rule (detail : String)
  deriving DecidableEq

/-- The short name of a kind of issue. -/
def IssueKind.code : IssueKind → String
  | .missing => "missing"
  | .text => "string_type"
  | .truth => "bool_type"
  | .truthWord => "bool_parsing"
  | .array => "tuple_type"
  | .record _ => "model_type"
  | .integer => "int_type"
  | .integerText => "int_parsing"
  | .hugeInteger => "int_parsing_size"
  | .fraction => "int_from_float"
  | .infinite => "finite_number"
  | .negative => "greater_than_equal"
  | .path => "path_type"
  | .rule _ => "value_error"

/-- The wording of a kind of issue. -/
def IssueKind.message : IssueKind → String
  | .missing => "Field required"
  | .text => "Input should be a valid string"
  | .truth => "Input should be a valid boolean"
  | .truthWord => "Input should be a valid boolean, unable to interpret input"
  | .array => "Input should be a valid tuple"
  | .record name => s!"Input should be a valid dictionary or instance of {name}"
  | .integer => "Input should be a valid integer"
  | .integerText => "Input should be a valid integer, unable to parse string as an integer"
  | .hugeInteger => "Unable to parse input string as an integer, exceeded maximum size"
  | .fraction => "Input should be a valid integer, got a number with a fractional part"
  | .infinite => "Input should be a finite number"
  | .negative => "Input should be greater than or equal to 0"
  | .path => "Input is not a valid path for <class 'pathlib.Path'>"
  | .rule detail => s!"Value error, {detail}"

/-- An issue and the path to the part that has it. -/
structure Issue where
  /-- The steps from the record to the part. -/
  path : List PathStep
  /-- What is wrong. -/
  kind : IssueKind
  deriving DecidableEq

/-- The outcome of reading a record or a part of one. -/
inductive Checked (α : Type) where
  /-- The part was read. -/
  | valid (value : α)
  /-- The part has issues. -/
  | invalid (issues : List Issue)
  /-- A part of the given kind had to be iterated. -/
  | notIterable (kind : String)

namespace Checked

variable {α β γ : Type}

/-- The outcome with one issue at the part itself. -/
def issue (kind : IssueKind) : Checked α := .invalid [⟨[], kind⟩]

/-- The issues of an outcome. -/
def issues : Checked α → List Issue
  | .invalid is => is
  | _ => []

/-- Applies a function to what was read. -/
def map (f : α → β) : Checked α → Checked β
  | .valid a => .valid (f a)
  | .invalid is => .invalid is
  | .notIterable k => .notIterable k

/-- Reads two parts: the issues of the first come before those of the second. -/
def both : Checked (α → β) → Checked α → Checked β
  | .notIterable k, _ => .notIterable k
  | _, .notIterable k => .notIterable k
  | .valid f, .valid a => .valid (f a)
  | .valid _, .invalid js => .invalid js
  | .invalid is, .valid _ => .invalid is
  | .invalid is, .invalid js => .invalid (is ++ js)

instance : Functor Checked where
  map f x := x.map f

instance : Applicative Checked where
  pure := .valid
  seq f x := f.both (x ())

/-- Checks what was read once more. -/
def andThen (x : Checked α) (f : α → Checked β) : Checked β :=
  match x with
  | .valid a => f a
  | .invalid is => .invalid is
  | .notIterable k => .notIterable k

/-- Puts a step in front of the path of every issue. -/
def under (step : PathStep) : Checked α → Checked α
  | .invalid is => .invalid (is.map fun i => { i with path := step :: i.path })
  | x => x

/-- Reads the items of a list, each under its index. -/
def items (read : α → Checked β) (start : Nat) : List α → Checked (List β)
  | [] => .valid []
  | a :: rest =>
    (((read a).under (.item start)).map fun b bs => b :: bs).both (items read (start + 1) rest)

theorem issues_both {f : Checked (α → β)} {x : Checked α} (hf : ∀ k, f ≠ .notIterable k)
    (hx : ∀ k, x ≠ .notIterable k) : (f.both x).issues = f.issues ++ x.issues := by
  cases f <;> cases x <;> simp_all [both, issues]

end Checked

end Scaffold
