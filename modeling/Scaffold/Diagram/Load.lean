import Scaffold.Diagram.Document
import Scaffold.Files.Tree
import Scaffold.Text.Blank

/-!
# Diagram files

A diagram file holds a document in UTF-8, with blanks around it. `Diagram.load` reads one from a
file tree.

Main statement: `load_eq_parse` (a file that is there and is not empty is read as its document).
-/

namespace Scaffold

open Text

/-- Why a diagram file cannot be read. -/
inductive LoadError where
  /-- There is no such file. -/
  | absent (path : String)
  /-- The file cannot be opened. -/
  | unreadable (error : Files.Failure)
  /-- The file is not in UTF-8. -/
  | undecodable (error : Undecodable)
  /-- The file holds nothing but blanks. -/
  | empty (path : String)
  /-- The document in the file cannot be read. -/
  | document (error : DocumentError)

namespace LoadError

/-- The wording of an error. -/
def message : LoadError → String
  | .absent path => s!"Diagram file not found: {path}"
  | .unreadable e => e.message
  | .undecodable e => e.message
  | .empty path => s!"Diagram file is empty: {path}"
  | .document e => e.headline

/-- Whether an error is for the user, who can mend the file or its path. The others come from the
file system, from bytes that are no text, and from values beyond the reader's reach. -/
def isMendable : LoadError → Bool
  | .absent _ => true
  | .empty _ => true
  | .document e => e.isMalformed
  | .unreadable _ => false
  | .undecodable _ => false

end LoadError

/-- The diagram in a file. -/
def Diagram.load (t : Files.Tree) (p : Files.Path) : Except LoadError (Noted Diagram) := do
  if (← (t.find p).mapError .unreadable).isNone then throw (.absent p.text)
  let content ← (t.read p).mapError .unreadable
  let s := trimChars (← content.read.mapError .undecodable)
  if s = [] then throw (.empty p.text)
  (Diagram.parse (.text (String.ofList s))).mapError .document

theorem Diagram.load_eq_parse {t : Files.Tree} {p : Files.Path} {e : Files.Entry}
    {content : Files.Content} {s : List Char} (he : t.find p = .ok (some e))
    (hp : t.read p = .ok content) (hc : content.read = .ok s) (hs : trimChars s ≠ []) :
    Diagram.load t p =
      (Diagram.parse (.text (String.ofList (trimChars s)))).mapError .document := by
  have hread : (t.read p).mapError LoadError.unreadable = .ok content := by rw [hp]; rfl
  have htext : content.read.mapError LoadError.undecodable = .ok s := by rw [hc]; rfl
  have hfind : (t.find p).mapError LoadError.unreadable = .ok (some e) := by rw [he]; rfl
  simp [Diagram.load, hfind, hread, htext, hs, bind, Except.bind]

end Scaffold
