import Scaffold.Decimal.Shortest
import Scaffold.Json.Value
import Scaffold.Text.Numeral
import Scaffold.Text.Quoted
import Scaffold.Text.Split

/-!
# Writing JSON

`Value.write` writes a document in ASCII, one item or field a line, two blanks of indentation for
each level, and the doubles in their shortest decimal. Characters beyond ASCII are written as
escapes, those beyond the basic plane as two.
-/

namespace Scaffold.Json

open Scaffold.Decimal Scaffold.Text

/-- Doubles in documents: positional from `0.0001` up to 16 digits before the point. -/
def writtenForm : Form := { infinity := "Infinity", nan := "NaN" }

/-- The escape of a unit of UTF-16. -/
def unitEscape (n : Nat) : List Char := '\\' :: 'u' :: hex 4 n

/-- A character as it stands in a written text. -/
def writtenChar (c : Char) : List Char :=
  if c = '"' ∨ c = '\\' then ['\\', c]
  else if c = '\n' then ['\\', 'n']
  else if c = '\r' then ['\\', 'r']
  else if c = '\t' then ['\\', 't']
  else if c = '\x0c' then ['\\', 'f']
  else if c = '\x08' then ['\\', 'b']
  else if 0x20 ≤ c.toNat ∧ c.toNat < 0x7f then [c]
  else if c.toNat < 0x10000 then unitEscape c.toNat
  else
    let n := c.toNat - 0x10000
    unitEscape (0xd800 + n / 0x400) ++ unitEscape (0xdc00 + n % 0x400)

/-- A text between its quotes. -/
def writeText (s : String) : String :=
  String.ofList ('"' :: s.toList.flatMap writtenChar ++ ['"'])

/-- A new line at a level of indentation. -/
def newLine (level : Nat) : String := "\n" ++ String.ofList (List.replicate (2 * level) ' ')

/-- Items between brackets, one a line. -/
def bracketed (opening closing : String) (level : Nat) (items : List String) : String :=
  if items.isEmpty then opening ++ closing
  else
    opening ++ newLine (level + 1) ++ joinTexts ("," ++ newLine (level + 1)) items ++
      newLine level ++ closing

mutual

/-- Writes a value whose first character stands at a level of indentation. -/
def Value.writeAt (level : Nat) : Value → String
  | .null => "null"
  | .bool true => "true"
  | .bool false => "false"
  | .int i => showInt i
  | .float x => writtenForm.write x
  | .str s => writeText s
  | .arr items => bracketed "[" "]" level (Value.writeItems (level + 1) items)
  | .obj fields => bracketed "\x7b" "\x7d" level (Value.writeFields (level + 1) fields)

/-- Writes the items of an array. -/
def Value.writeItems (level : Nat) : List Value → List String
  | [] => []
  | v :: rest => v.writeAt level :: Value.writeItems level rest

/-- Writes the fields of an object. -/
def Value.writeFields (level : Nat) : List (String × Value) → List String
  | [] => []
  | (k, v) :: rest => (writeText k ++ ": " ++ v.writeAt level) :: Value.writeFields level rest

end

/-- Writes a document. -/
def Value.write (v : Value) : String := v.writeAt 0

end Scaffold.Json
