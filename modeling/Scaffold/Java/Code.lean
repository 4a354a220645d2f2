import Scaffold.Text.Blank
import Scaffold.Text.Margin
import Scaffold.Text.Ordered

/-!
# Java code

Code is a list of lines. `braced` and `indented` put code together, `block` takes over a text with
its margin removed, and `render` makes a file of it: no line ends in blanks, and the file ends in
one newline character.

A line may hold a line break if a name does. Only the first of the lines that it then stands for
is indented, and such a name changes the margin of a `block`.
-/

namespace Scaffold.Java

open Text

/-- The lines of a piece of code. -/
abbrev Lines := List String

/-! ## Layout -/

/-- The blanks in front of a line at a level. -/
def pad (level : Nat) : String := String.ofList (List.replicate (4 * level) ' ')

/-- A line at a level; an empty line stays empty. -/
def indent (level : Nat) (line : String) : String := if line = "" then "" else pad level ++ line

/-- Code at a level. -/
def indented (level : Nat) (code : Lines) : Lines := code.map (indent level)

/-- Code between braces, the opening one at the end of a line. -/
def braced (head : String) (body : Lines) : Lines :=
  (head ++ " \x7b") :: (indented 1 body ++ ["\x7d"])

/-- A list without the members equal to `a` at its ends. -/
def stripEnds (a : Char) (s : List Char) : List Char := dropWhileEnd (· = a) (s.dropWhile (· = a))

/-- The lines of a text at a level, without the margin that they share and without the empty lines
at both ends. -/
def block (text : String) (level : Nat := 0) : Lines :=
  let body := joinWith '\n' (stripMargin (splitOn '\n' text.toList))
  (splitOn '\n' (stripEnds '\n' body)).map fun line =>
    if line.all isBlank then "" else pad level ++ String.ofList line

/-- Code at a level, written with a margin of some levels in front of every line. The margin shows
where a name holds a line break. -/
def template (margin level : Nat) (code : Lines) : Lines :=
  block (joinLines (code.map (indent margin))) level

/-- A file of code: no blanks at the ends of lines and of the file, but for one newline
character. -/
def render (code : Lines) : String := trimRight (joinLines (code.map trimRight)) ++ "\n"

/-! ## Files -/

/-- The import statement for a class; a statement stands for itself. -/
def importStatement (name : String) : String :=
  if "import ".toList.isPrefixOf name.toList then name else s!"import {name};"

/-- The package and the imports, which are ordered and free of repetitions. -/
def header (package : String) (imports : List String) : Lines :=
  let statements := ordered (imports.map importStatement)
  s!"package {package};" :: "" :: (statements ++ if statements.isEmpty then [] else [""])

/-- A source file. -/
structure SourceFile where
  /-- The package. -/
  package : String
  /-- The classes to import, or import statements. -/
  imports : List String
  /-- What follows the imports. -/
  body : Lines

/-- The text of a source file. -/
def SourceFile.text (f : SourceFile) : String := render (header f.package f.imports ++ f.body)

/-! ## Members of classes -/

/-- The getter and the setter of a field. -/
def accessors (field type getter setter : String) (level : Nat := 1) : Lines :=
  indented level <|
    braced s!"public {type} {getter}()" [s!"return {field};"] ++ [""] ++
      braced s!"public void {setter}({type} {field})" [s!"this.{field} = {field};"] ++ [""]

/-- The properties that are kept out of the transferred data in any case. -/
def proxyProperties : List String := ["hibernateLazyInitializer", "handler"]

/-- The annotation that keeps properties out of the transferred data. -/
def jsonIgnore (extra : List String := []) (level : Nat := 1) : String :=
  let names := (extra ++ proxyProperties).map fun name => s!"\"{name}\""
  pad level ++ "@JsonIgnoreProperties(value = \x7b" ++ joinTexts ", " names ++
    "\x7d, allowSetters = true)"

/-- The methods for equality and hashing by some fields; without fields they are inherited. -/
def equalsAndHash (className : String) (fields : List String) (level : Nat := 1) : Lines :=
  let comparison := joinTexts " && " (fields.map fun f => s!"Objects.equals({f}, that.{f})")
  let arguments := joinTexts ", " fields
  let equality :=
    if fields.isEmpty then ["return super.equals(o);"]
    else [s!"{className} that = ({className}) o;", s!"return {comparison};"]
  let hash :=
    if fields.isEmpty then "return super.hashCode();"
    else s!"return Objects.hash({arguments});"
  indented level <|
    ["@Override"] ++
      braced "public boolean equals(Object o)"
        (["if (this == o) return true;",
          "if (o == null || getClass() != o.getClass()) return false;"] ++ equality) ++
      ["", "@Override"] ++ braced "public int hashCode()" [hash] ++ [""]

end Scaffold.Java
