import Scaffold.Text.Split

/-!
# Margins

`stripMargin` removes from every line the blanks and tabs that all lines have in common at their
left. A line of only blanks and tabs becomes empty and has no say in the margin. A line of text
that starts further left than the rest, for instance because a name in it holds a line break,
therefore keeps the others from moving.
-/

namespace Scaffold.Text

/-- Whether a character can stand in a margin. -/
def isMargin (c : Char) : Bool := c = ' ' || c = '\t'

/-- The longest common beginning of two lists. -/
def commonStart {α : Type} [DecidableEq α] : List α → List α → List α
  | a :: as, b :: bs => if a = b then a :: commonStart as bs else []
  | _, _ => []

/-- The margin that the lines share; lines of only blanks and tabs do not count. -/
def sharedMargin (ls : List (List Char)) : List Char :=
  match (ls.filter fun l => !l.all isMargin).map (·.takeWhile isMargin) with
  | [] => []
  | m :: ms => ms.foldl commonStart m

/-- The lines without the margin that they share. -/
def stripMargin (ls : List (List Char)) : List (List Char) :=
  let margin := sharedMargin ls
  ls.map fun l => if l.all isMargin then [] else l.drop margin.length

end Scaffold.Text
