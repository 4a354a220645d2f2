/-!
# Blanks

Blanks are the characters that trimming removes: the Unicode white space together with the four
information separators U+001C to U+001F. Trimming is defined on character lists, where
`dropWhileEnd` is the counterpart of `List.dropWhile`, and lifted to strings.

Main statements: `isBlank_of_isWhitespace` (no white space of the core library is missed) and
`toList_trim`, `toList_trimRight` (the string functions are the list functions).
-/

namespace Scaffold.Text

/-- The blank characters, as inclusive ranges of code points. -/
def blankRanges : List (Nat × Nat) :=
  [(0x09, 0x0d), (0x1c, 0x20), (0x85, 0x85), (0xa0, 0xa0), (0x1680, 0x1680), (0x2000, 0x200a),
    (0x2028, 0x2029), (0x202f, 0x202f), (0x205f, 0x205f), (0x3000, 0x3000)]

/-- Whether a character is removed by trimming. -/
def isBlank (c : Char) : Bool :=
  blankRanges.any fun r => r.1 ≤ c.toNat && c.toNat ≤ r.2

theorem isBlank_of_isWhitespace {c : Char} (h : c.isWhitespace = true) : isBlank c = true := by
  simp only [Char.isWhitespace, Bool.or_eq_true, decide_eq_true_eq] at h
  rcases h with ((rfl | rfl) | rfl) | rfl <;> decide

/-- Removes the longest end of a list whose members all satisfy `p`. -/
def dropWhileEnd {α : Type} (p : α → Bool) (l : List α) : List α :=
  (l.reverse.dropWhile p).reverse

/-- Removes blanks from both ends. -/
def trimChars (s : List Char) : List Char := dropWhileEnd isBlank (s.dropWhile isBlank)

/-- The text without the blanks at both ends. -/
def trim (s : String) : String := String.ofList (trimChars s.toList)

/-- The text without the blanks at its end. -/
def trimRight (s : String) : String := String.ofList (dropWhileEnd isBlank s.toList)

/-- Whether a text holds nothing but blanks. -/
def isBlankText (s : String) : Bool := s.toList.all isBlank

@[simp] theorem toList_trim (s : String) : (trim s).toList = trimChars s.toList := by
  simp [trim]

@[simp] theorem toList_trimRight (s : String) :
    (trimRight s).toList = dropWhileEnd isBlank s.toList := by
  simp [trimRight]

end Scaffold.Text
