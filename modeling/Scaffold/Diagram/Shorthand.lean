import Scaffold.Text.Blank

/-!
# The shorthand of attributes

An attribute may be written as a text, `name: type` or just `name`. Blanks around either part do
not count, and a missing type is `String`.

Main statement: `parse_eq_none_iff` (a text is refused exactly if the part in front of the first
colon is blank).
-/

namespace Scaffold.Shorthand

open Text

/-- The parts of a text in front of and behind its first colon; the second is empty if there is no
colon. -/
def halves (s : List Char) : List Char × List Char :=
  (s.takeWhile (· ≠ ':'), (s.dropWhile (· ≠ ':')).drop 1)

/-- The name and the type that a shorthand gives, as character lists. -/
def parseChars (s : List Char) : Option (List Char × List Char) :=
  let name := trimChars (halves s).1
  let declared := trimChars (halves s).2
  if name = [] then none
  else some (name, if declared = [] then "String".toList else declared)

/-- The name and the type that a shorthand gives, unless the name is blank. -/
def parse (s : String) : Option (String × String) :=
  (parseChars s.toList).map fun p => (String.ofList p.1, String.ofList p.2)

theorem parse_eq_none_iff (s : String) :
    parse s = none ↔ trimChars (s.toList.takeWhile (· ≠ ':')) = [] := by
  simp only [parse, Option.map_eq_none_iff]
  refine ite_eq_left_iff.trans ⟨fun h => Decidable.byContradiction fun hn => ?_, fun h hn => ?_⟩
  · exact nomatch h hn
  · exact absurd h hn

end Scaffold.Shorthand
