import Scaffold.Backend.Output
import Scaffold.Diagram.Load
import Scaffold.Log.Setup

/-!
# Consoles

A console is what a command works on: the file tree, and what it has said on the output and on the
error output so far. A command ends by itself, with an exit code, or by a fault that it does not
handle.

Main statement: `withoutEscapes_eq_self` (a text without escape characters is said as it is).
-/

namespace Scaffold.Command

/-- A file tree, and what was said. -/
structure Console where
  /-- The file tree. -/
  tree : Files.Tree
  /-- The texts on the output, each ended by a newline character. -/
  said : List String := []
  /-- The texts on the error output. -/
  complaints : List String := []

/-- What a command does not handle. -/
inductive Fault where
  /-- The log cannot be set up. -/
  | log (error : Log.SetupError)
  /-- The diagram file cannot be read. -/
  | load (error : LoadError)
  /-- A column length is too long to be read, or an integer to be shown. -/
  | hugeLength (error : Constraint.HugeLength)
  /-- A file cannot be written. -/
  | output (error : Files.Failure)
  /-- A foreign key of an association table references no class. -/
  | aimlessKey (table : String)

/-- The wording of a fault. -/
def Fault.message : Fault → String
  | .log e => e.message
  | .load e => e.message
  | .hugeLength e => e.message
  | .output e => e.message
  | .aimlessKey table => s!"association table {table} has a foreign key that references nothing"

/-- How a command ends early. -/
inductive Stop where
  /-- With an exit code. -/
  | exit (code : Nat)
  /-- By a fault. -/
  | fault (f : Fault)

/-- A computation on a console that may end early. What was said before stays. -/
abbrev Run := ExceptT Stop (StateM Console)

/-! ## Saying something -/

/-- The text behind a control sequence of a terminal, of which the first two characters are
read. -/
def behindSequence? (s : List Char) : Option (List Char) :=
  match s.dropWhile fun c => c.isDigit || c = ';' || c = '?' with
  | c :: rest => if c.isAlpha then some rest else none
  | [] => none

theorem length_lt_of_behindSequence? {s after : List Char} (h : behindSequence? s = some after) :
    after.length < s.length := by
  unfold behindSequence? at h
  split at h
  · next c rest hs =>
    split at h
    · obtain rfl := Option.some.inj h
      have := (List.dropWhile_sublist (l := s) fun c => c.isDigit || c = ';' || c = '?').length_le
      simp only [hs, List.length_cons] at this
      omega
    · cases h
  · cases h

/-- The text without the control sequences of terminals. -/
def withoutEscapes (s : List Char) : List Char :=
  match s with
  | [] => []
  | '\x1b' :: '[' :: rest =>
    match _h : behindSequence? rest with
    | some after => withoutEscapes after
    | none => '\x1b' :: withoutEscapes ('[' :: rest)
  | c :: rest => c :: withoutEscapes rest
termination_by s.length
decreasing_by
  · have := length_lt_of_behindSequence? (by assumption)
    simp only [List.length_cons]
    omega
  · simp
  · simp

theorem withoutEscapes_eq_self {s : List Char} (h : '\x1b' ∉ s) : withoutEscapes s = s := by
  fun_induction withoutEscapes s <;> simp_all

/-- A text as it is said. -/
def spoken (s : String) : String := String.ofList (withoutEscapes s.toList)

/-- Says something on the output. -/
def say (s : String) : Run Unit := modify fun c => { c with said := c.said ++ [spoken s] }

/-- Says something on the error output. -/
def complain (s : String) : Run Unit :=
  modify fun c => { c with complaints := c.complaints ++ [spoken s] }

/-- Complains and ends. -/
def refuse {α : Type} (message : String) : Run α := do
  complain s!"Error: {message}"
  throw (.exit 1)

/-- Ends by a fault. -/
def fail {α : Type} (f : Fault) : Run α := throw (.fault f)

/-- Does something with the tree. What was done before a failure stays. -/
def filing {α : Type} (x : Filing α) : Run α := do
  let (result, tree) := x.run.run (← get).tree
  modify fun c => { c with tree }
  match result with
  | .ok a => return a
  | .error e => fail (.output e)

end Scaffold.Command
