import Scaffold.Analysis.Context
import Scaffold.Java.Code

/-!
# Code that calls accessors

The statements of a generated class call accessors of other generated classes. In such statements
the calls stay what they are until they are written out: a line consists of texts and of the names
of accessors that are called, and `Statements.calls` lists the latter. `Statements.written` is the
code as plain lines.

Main statements: `calls_code` (a call adds itself to those of its receiver and its argument),
`calls_append` and `calls_braced` (putting code together adds no call), and `written_braced` (code
in braces is written as the code in it, in braces).
-/

namespace Scaffold

open Java Text

/-- A part of a line. -/
inductive Piece where
  /-- Text. -/
  | text (s : String)
  /-- The name of an accessor that is called. -/
  | method (call : AccessorCall)
  deriving DecidableEq

/-- The text of a part of a line. -/
def Piece.written : Piece → String
  | .text s => s
  | .method call => call.method

/-- The accessor that a part of a line calls. -/
def Piece.call? : Piece → Option AccessorCall
  | .text _ => none
  | .method call => some call

/-! ## Lines -/

/-- A line of code in which accessors may be called. -/
structure Line where
  /-- The parts of the line. -/
  pieces : List Piece
  deriving DecidableEq

namespace Line

/-- A line of text. -/
def text (s : String) : Line := ⟨[.text s]⟩

instance : Coe String Line := ⟨text⟩

instance : Append Line := ⟨fun l l' => ⟨l.pieces ++ l'.pieces⟩⟩

/-- The text of a line. -/
def written (l : Line) : String := joinTexts "" (l.pieces.map Piece.written)

/-- The accessors that a line calls, in order. -/
def calls (l : Line) : List AccessorCall := l.pieces.filterMap Piece.call?

@[simp] theorem written_text (s : String) : (text s).written = s := rfl

@[simp] theorem written_append (l l' : Line) : (l ++ l').written = l.written ++ l'.written := by
  change joinTexts "" (List.map _ (l.pieces ++ l'.pieces)) = _
  rw [List.map_append, joinTexts_append]
  rfl

@[simp] theorem calls_text (s : String) : (text s).calls = [] := rfl

@[simp] theorem calls_append (l l' : Line) : (l ++ l').calls = l.calls ++ l'.calls :=
  List.filterMap_append

end Line

/-- The name of the accessor that is called. -/
def AccessorCall.name (call : AccessorCall) : Line := ⟨[.method call]⟩

@[simp] theorem AccessorCall.calls_name (call : AccessorCall) : call.name.calls = [call] := rfl

/-- The code of a call. -/
def AccessorCall.code (call : AccessorCall) (receiver : Line) (argument : Line := Line.text "") :
    Line :=
  receiver ++ "." ++ call.name ++ "(" ++ argument ++ ")"

@[simp] theorem AccessorCall.calls_code (call : AccessorCall) (receiver argument : Line) :
    (call.code receiver argument).calls = receiver.calls ++ call :: argument.calls := by
  simp [code]

/-! ## Statements -/

/-- Code in which accessors may be called. -/
abbrev Statements := List Line

namespace Statements

/-- The code as plain lines. -/
def written (code : Statements) : Lines := code.map Line.written

/-- The accessors that are called, in order. -/
def calls (code : Statements) : List AccessorCall := code.flatMap Line.calls

/-- A line at a level; an empty line stays empty. -/
def indent (level : Nat) (l : Line) : Line := if l.written = "" then l else pad level ++ l

/-- Code at a level. -/
def indented (level : Nat) (code : Statements) : Statements := code.map (indent level)

/-- Code between braces, the opening one at the end of a line. -/
def braced (head : Line) (body : Statements) : Statements :=
  (head ++ " \x7b") :: (indented 1 body ++ [Line.text "\x7d"])

@[simp] theorem written_nil : written [] = [] := rfl

@[simp] theorem written_cons (l : Line) (code : Statements) :
    written (l :: code) = l.written :: written code := rfl

@[simp] theorem written_append (code code' : Statements) :
    written (code ++ code') = written code ++ written code' :=
  List.map_append

theorem written_indent (level : Nat) (l : Line) :
    (indent level l).written = Java.indent level l.written := by
  unfold indent Java.indent
  split
  · next hempty => exact hempty
  · exact Line.written_append _ l

theorem written_braced (head : Line) (body : Statements) :
    written (braced head body) = Java.braced head.written (written body) := by
  have hbody : written (indented 1 body) = Java.indented 1 (written body) := by
    simp only [written, indented, Java.indented, List.map_map, Function.comp_def, written_indent]
  simp only [braced, Java.braced, written_cons, written_append, hbody, Line.written_append,
    Line.written_text, written_nil]

@[simp] theorem calls_nil : calls [] = [] := rfl

@[simp] theorem calls_cons (l : Line) (code : Statements) :
    calls (l :: code) = l.calls ++ calls code := rfl

@[simp] theorem calls_append (code code' : Statements) :
    calls (code ++ code') = calls code ++ calls code' :=
  List.flatMap_append

@[simp] theorem calls_indent (level : Nat) (l : Line) : (indent level l).calls = l.calls := by
  unfold indent
  split <;> simp

@[simp] theorem calls_indented (level : Nat) (code : Statements) :
    calls (indented level code) = calls code := by
  simp [calls, indented, List.flatMap_map]

@[simp] theorem calls_braced (head : Line) (body : Statements) :
    calls (braced head body) = head.calls ++ calls body := by
  simp [braced]

theorem calls_flatMap {α : Type} (l : List α) (code : α → Statements) :
    calls (l.flatMap code) = l.flatMap fun a => calls (code a) := by
  simp [calls, List.flatMap_assoc]

end Statements

end Scaffold
