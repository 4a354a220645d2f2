/-!
# Beginnings of lists

`takeSigned n` is the beginning of a list of a given length, where a negative `n` counts the
members that are left out at the end.

Main statement: `takeSigned_sublist` (members keep their order, and none is added).
-/

namespace Scaffold

/-- The first `n` members of a list; a negative `n` counts those left out at the end. -/
def takeSigned {α : Type} (n : Int) (l : List α) : List α :=
  if 0 ≤ n then l.take n.toNat else l.take (l.length - n.natAbs)

theorem takeSigned_sublist {α : Type} (n : Int) (l : List α) : (takeSigned n l).Sublist l := by
  unfold takeSigned
  split <;> exact List.take_sublist _ _

end Scaffold
