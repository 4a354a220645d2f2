import Scaffold.Backend.Artifact

/-!
# Code with its types

To say which types a generated file uses, its code is written with the types told apart from the
rest: a `TypedLine` consists of fixed texts, of words that depend on the diagram, and of types; a
`TypedCode` is put together from such lines as `Java.Lines` are from plain ones. `written` is the
code as plain lines.

`TypedCode.AllTypes P` says that every type in the code satisfies `P`. No type of values that has to
be imported can hide in a fixed text, because it says too that these have no name of one in them.

Main statements: `written_braced` and `written_each` (code is put together as plain lines are),
`allTypes_braced` and `allTypes_each` (the types in it are those in its parts), and
`TypedFile.artifact_eq` (a file whose code is written like the body of another is the same artifact).
-/

namespace Scaffold

open Java

/-! ## Types -/

/-- A type that is used in code. -/
inductive TypeUse where
  /-- A type of values. -/
  | value (type : JavaType)
  /-- The generated class of a name, in a group. -/
  | generated (group : Group) (name : String)
  deriving DecidableEq

/-- The type as it is written. -/
def TypeUse.written : TypeUse → String
  | .value type => type.name
  | .generated _ name => name

/-- Whether a text has the name of no type of values in it that has to be imported. -/
def isPlain (s : String) : Bool :=
  JavaType.all.all fun t => t.import?.isNone || !Constraint.occursIn t.name.toList s.toList

theorem occursIn_eq_false_of_prefix {s s' l : List Char} (hstart : s <+: s')
    (hs : Constraint.occursIn s l = false) : Constraint.occursIn s' l = false := by
  induction l with
  | nil =>
    cases s' with
    | nil =>
      rw [List.prefix_nil.1 hstart] at hs
      exact hs
    | cons c s' => rfl
  | cons c rest ih =>
    rw [Constraint.occursIn, Bool.or_eq_false_iff] at hs ⊢
    refine ⟨Bool.eq_false_iff.2 fun hhere => Bool.eq_false_iff.1 hs.1 ?_, ih hs.2⟩
    exact List.isPrefixOf_iff_prefix.2 (hstart.trans (List.isPrefixOf_iff_prefix.1 hhere))

/-- A text that is given by its characters has the name of no imported type in it if it has two of
the names not; the third one continues the first. Decoding a text is slow, but the characters of a
fixed one are there by `rfl`: this is what a discharger has to try. -/
theorem isPlain_of_chars {s : String} {l : List Char} (hs : s = String.ofList l)
    (hdate : Constraint.occursIn ['L', 'o', 'c', 'a', 'l', 'D', 'a', 't', 'e'] l = false)
    (hdecimal : Constraint.occursIn ['B', 'i', 'g', 'D', 'e', 'c', 'i', 'm', 'a', 'l'] l = false) :
    isPlain s = true := by
  have hnames :
      JavaType.localDate.name.toList = ['L', 'o', 'c', 'a', 'l', 'D', 'a', 't', 'e'] ∧
      JavaType.bigDecimal.name.toList = ['B', 'i', 'g', 'D', 'e', 'c', 'i', 'm', 'a', 'l'] ∧
      JavaType.localDate.name.toList <+: JavaType.localDateTime.name.toList := by decide
  obtain ⟨hdateName, hdecimalName, hstart⟩ := hnames
  rw [← hdateName] at hdate
  rw [← hdecimalName] at hdecimal
  have htime := occursIn_eq_false_of_prefix hstart hdate
  refine List.all_eq_true.2 fun t _ => ?_
  rw [hs, String.toList_ofList]
  cases t <;> simp [JavaType.import?, hdate, hdecimal, htime]

/-! ## Lines -/

/-- A line of code with its types. -/
inductive TypedLine where
  /-- A text that is the same for all diagrams. -/
  | text (s : String)
  /-- A text that depends on the diagram and is no type: the name of a field or a method, the
  expression for a value, or what stands in an annotation, a literal or a comment. -/
  | word (s : String)
  /-- A type. -/
  | type (use : TypeUse)
  /-- Two parts, one after the other. -/
  | append (l l' : TypedLine)

namespace TypedLine

instance : Coe String TypedLine := ⟨text⟩

instance : Append TypedLine := ⟨append⟩

/-- The line as a text. -/
def written : TypedLine → String
  | text s => s
  | word s => s
  | type use => use.written
  | append l l' => l.written ++ l'.written

/-- Every type in the line satisfies `P`, and no fixed text has the name of an imported type in
it. -/
def AllTypes (P : TypeUse → Prop) : TypedLine → Prop
  | text s => isPlain s = true
  | word _ => True
  | type use => P use
  | append l l' => l.AllTypes P ∧ l'.AllTypes P

@[simp] theorem written_text (s : String) : (text s).written = s := rfl

@[simp] theorem written_word (s : String) : (word s).written = s := rfl

@[simp] theorem written_type (use : TypeUse) : (type use).written = use.written := rfl

@[simp] theorem written_append (l l' : TypedLine) :
    (l ++ l').written = l.written ++ l'.written := rfl

variable (P : TypeUse → Prop)

@[simp] theorem allTypes_text (s : String) : (text s).AllTypes P ↔ isPlain s = true := .rfl

@[simp] theorem allTypes_word (s : String) : (word s).AllTypes P := trivial

@[simp] theorem allTypes_type (use : TypeUse) : (type use).AllTypes P ↔ P use := .rfl

@[simp] theorem allTypes_append (l l' : TypedLine) :
    (l ++ l').AllTypes P ↔ l.AllTypes P ∧ l'.AllTypes P := .rfl

end TypedLine

/-- A type of values in a line. -/
def JavaType.use (t : JavaType) : TypedLine := .type (.value t)

/-- The generated class of a name in a line. -/
def Group.use (g : Group) (name : String) : TypedLine := .type (.generated g name)

/-- The entity of a class in a line. -/
def ClassNode.entityUse (c : ClassNode) : TypedLine := Group.entities.use c.name

/-- The transfer object of a class in a line. -/
def ClassNode.dtoUse (c : ClassNode) : TypedLine := Group.dto.use (Naming.dtoName c.name)

/-- The mapper of a class in a line. -/
def ClassNode.mapperUse (c : ClassNode) : TypedLine := Group.mappers.use (c.name ++ "Mapper")

/-- The repository of a class in a line. -/
def ClassNode.repositoryUse (c : ClassNode) : TypedLine :=
  Group.repositories.use (c.name ++ "Repository")

/-- The service of a class in a line. -/
def ClassNode.serviceUse (c : ClassNode) : TypedLine := Group.services.use (c.name ++ "Service")

/-- The name of a type that ends in a text may be written with what follows it. -/
theorem append_suffix {suffix rest whole : String} (hwhole : suffix ++ rest = whole)
    (start name : String) : start ++ (name ++ suffix) ++ rest = start ++ name ++ whole := by
  simp only [← hwhole, String.append_assoc]

section
variable (P : TypeUse → Prop)

@[simp] theorem JavaType.allTypes_use (t : JavaType) : t.use.AllTypes P ↔ P (.value t) := .rfl

@[simp] theorem Group.allTypes_use (g : Group) (name : String) :
    (g.use name).AllTypes P ↔ P (.generated g name) := .rfl

@[simp] theorem ClassNode.allTypes_entityUse (c : ClassNode) :
    c.entityUse.AllTypes P ↔ P (.generated .entities c.name) := .rfl

@[simp] theorem ClassNode.allTypes_dtoUse (c : ClassNode) :
    c.dtoUse.AllTypes P ↔ P (.generated .dto (Naming.dtoName c.name)) := .rfl

end

/-- The type of lists of a type. -/
def TypedLine.list (element : TypedLine) : TypedLine := "List<" ++ element ++ ">"

@[simp] theorem TypedLine.allTypes_list {P : TypeUse → Prop} {element : TypedLine} :
    element.list.AllTypes P ↔ element.AllTypes P := by
  have hbrackets : isPlain "List<" = true ∧ isPlain ">" = true := by decide
  simp [TypedLine.list, hbrackets]

/-! ## Calls -/

theorem Statements.written_indented (level : Nat) (code : Statements) :
    (Statements.indented level code).written = Java.indented level code.written := by
  simp only [Statements.written, Statements.indented, Java.indented, List.map_map,
    Function.comp_def, Statements.written_indent]

theorem Statements.written_flatMap {α : Type} (l : List α) (code : α → Statements) :
    Statements.written (l.flatMap code) = l.flatMap fun a => (code a).written := List.map_flatMap

theorem AccessorCall.written_code (call : AccessorCall) (receiver argument : Line) :
    (call.code receiver argument).written =
      receiver.written ++ "." ++ call.method ++ "(" ++ argument.written ++ ")" := by
  have hname : call.name.written = call.method := rfl
  simp only [AccessorCall.code, Line.written_append, Line.written_text, hname]

/-- The call of an accessor. -/
def TypedLine.call (call : AccessorCall) (receiver : TypedLine) (argument : TypedLine := text "") :
    TypedLine :=
  receiver ++ "." ++ word call.method ++ "(" ++ argument ++ ")"

@[simp] theorem TypedLine.allTypes_call {P : TypeUse → Prop} {call : AccessorCall}
    {receiver argument : TypedLine} :
    (TypedLine.call call receiver argument).AllTypes P ↔
      receiver.AllTypes P ∧ argument.AllTypes P := by
  have hpunctuation : isPlain "." = true ∧ isPlain "(" = true ∧ isPlain ")" = true := by decide
  simp [TypedLine.call, hpunctuation]

/-! ## Lists of parts -/

/-- Some parts of a line with a fixed text between neighbours. -/
def TypedLine.joined (separator : String) : List TypedLine → TypedLine
  | [] => text ""
  | [l] => l
  | l :: rest => l ++ separator ++ joined separator rest

theorem TypedLine.written_joined (separator : String) (l : List TypedLine) :
    (joined separator l).written = Text.joinTexts separator (l.map written) := by
  induction l with
  | nil => rfl
  | cons a rest ih =>
    cases rest with
    | nil => rfl
    | cons b rest => exact congrArg ((a.written ++ separator) ++ ·) ih

theorem TypedLine.allTypes_joined {P : TypeUse → Prop} {separator : String} {l : List TypedLine}
    (hseparator : isPlain separator = true) (hl : ∀ a ∈ l, a.AllTypes P) :
    (joined separator l).AllTypes P := by
  induction l with
  | nil =>
    have hempty : isPlain "" = true := by decide
    exact hempty
  | cons a rest ih =>
    obtain ⟨ha, hrest⟩ := List.forall_mem_cons.1 hl
    cases rest with
    | nil => exact ha
    | cons b rest => exact ⟨⟨ha, hseparator⟩, ih hrest⟩

/-! ## Code -/

/-- Code with its types. -/
inductive TypedCode where
  /-- Some lines. -/
  | lines (l : List TypedLine)
  /-- Code after other code. -/
  | append (code code' : TypedCode)
  /-- Code at a level. -/
  | indented (level : Nat) (code : TypedCode)
  /-- Code that is written with a margin and put at a level. -/
  | template (margin level : Nat) (code : TypedCode)

namespace TypedCode

instance : Append TypedCode := ⟨append⟩

/-- The code as plain lines. -/
def written : TypedCode → Lines
  | lines l => l.map TypedLine.written
  | append code code' => code.written ++ code'.written
  | indented level code => Java.indented level code.written
  | template margin level code => Java.template margin level code.written

/-- Every type in the code satisfies `P`, and no fixed text has the name of an imported type in
it. -/
def AllTypes (P : TypeUse → Prop) : TypedCode → Prop
  | lines l => ∀ line ∈ l, line.AllTypes P
  | append code code' => code.AllTypes P ∧ code'.AllTypes P
  | indented _ code => code.AllTypes P
  | template _ _ code => code.AllTypes P

/-- Code between braces, the opening one at the end of a line. -/
def braced (head : TypedLine) (body : TypedCode) : TypedCode :=
  lines [head ++ " \x7b"] ++ indented 1 body ++ lines ["\x7d"]

/-- Code for each member of a list. -/
def each {α : Type} (l : List α) (code : α → TypedCode) : TypedCode :=
  l.foldr (fun a rest => code a ++ rest) (lines [])

/-- Lines without types. -/
def words (l : Lines) : TypedCode := lines (l.map .word)

variable {α : Type}

@[simp] theorem written_lines (l : List TypedLine) :
    (lines l).written = l.map TypedLine.written := rfl

@[simp] theorem written_append (code code' : TypedCode) :
    (code ++ code').written = code.written ++ code'.written := rfl

@[simp] theorem written_indented (level : Nat) (code : TypedCode) :
    (indented level code).written = Java.indented level code.written := rfl

@[simp] theorem written_template (margin level : Nat) (code : TypedCode) :
    (template margin level code).written = Java.template margin level code.written := rfl

@[simp] theorem written_braced (head : TypedLine) (body : TypedCode) :
    (braced head body).written = Java.braced head.written body.written := rfl

@[simp] theorem written_each (l : List α) (code : α → TypedCode) :
    (each l code).written = l.flatMap fun a => (code a).written := by
  induction l with
  | nil => rfl
  | cons a rest ih =>
    rw [List.flatMap_cons, ← ih]
    rfl

@[simp] theorem written_words (l : Lines) : (words l).written = l := by
  rw [words, written_lines, List.map_map]
  exact List.map_id l

variable (P : TypeUse → Prop)

@[simp] theorem allTypes_lines (l : List TypedLine) :
    (lines l).AllTypes P ↔ ∀ line ∈ l, line.AllTypes P := .rfl

@[simp] theorem allTypes_append (code code' : TypedCode) :
    (code ++ code').AllTypes P ↔ code.AllTypes P ∧ code'.AllTypes P := .rfl

@[simp] theorem allTypes_indented (level : Nat) (code : TypedCode) :
    (indented level code).AllTypes P ↔ code.AllTypes P := .rfl

@[simp] theorem allTypes_template (margin level : Nat) (code : TypedCode) :
    (template margin level code).AllTypes P ↔ code.AllTypes P := .rfl

@[simp] theorem allTypes_braced (head : TypedLine) (body : TypedCode) :
    (braced head body).AllTypes P ↔ head.AllTypes P ∧ body.AllTypes P := by
  have hbraces : isPlain " \x7b" = true ∧ isPlain "\x7d" = true := by decide
  simp [braced, hbraces]

@[simp] theorem allTypes_each (l : List α) (code : α → TypedCode) :
    (each l code).AllTypes P ↔ ∀ a ∈ l, (code a).AllTypes P := by
  induction l with
  | nil => simp [each]
  | cons a rest ih =>
    rw [List.forall_mem_cons, ← ih]
    exact allTypes_append P _ _

@[simp] theorem allTypes_words (l : Lines) : (words l).AllTypes P := by
  simp [words]

end TypedCode

/-! ## Files -/

/-- A generated file, with the types in its code. -/
structure TypedFile where
  /-- The group of the file. -/
  group : Group
  /-- The name of the class. -/
  name : String
  /-- The classes to import, or import statements. -/
  imports : List String
  /-- What follows the imports. -/
  code : TypedCode

namespace TypedFile

/-- The source file, in a context. -/
def source (ctx : Context) (f : TypedFile) : SourceFile where
  package := ctx.groupPackage f.group
  imports := f.imports
  body := f.code.written

/-- The artifact that the file is, in a context. -/
def artifact (ctx : Context) (f : TypedFile) : Artifact := ⟨f.group, f.name, (f.source ctx).text⟩

/-- The artifact is that of a source file that has the same package, imports and code. -/
theorem artifact_eq {ctx : Context} {f : TypedFile} {file : SourceFile}
    (hcode : f.code.written = file.body) (hpackage : ctx.groupPackage f.group = file.package)
    (himports : f.imports = file.imports) : f.artifact ctx = ⟨f.group, f.name, file.text⟩ := by
  have hsource : f.source ctx = file := by
    rw [source, hpackage, himports, hcode]
  rw [artifact, hsource]

end TypedFile

end Scaffold
