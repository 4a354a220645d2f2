import Scaffold.Java.Code
import Scaffold.Proofs.Text

/-!
# The text of a file

`render` trims every line and then the whole text. What the second step takes away are blank lines:
`fileLines` are the lines of the code without blanks at their ends and without the blank lines
behind the last line that is not blank, and the file is these lines, joined, and one newline
character: `render_eq`. If no line of the code holds a newline character, then they are also the
pieces that the file is split into, in front of the empty piece behind its last newline character:
`lines_render`.

Of code that is blank no line is kept, so its file is the newline character alone, which is split
into two empty pieces.

Main statement: `render_normal`.
-/

namespace Scaffold

namespace Text

/-! ## Joined pieces -/

section Joined

variable {α : Type} {sep : α} {p : α → Bool}

theorem joinWith_concat {front : List (List α)} (hne : front ≠ []) (last : List α) :
    joinWith sep (front ++ [last]) = joinWith sep front ++ sep :: last := by
  fun_induction joinWith sep front with
  | case1 => exact absurd rfl hne
  | case2 piece => rfl
  | case3 piece pieces hpieces ih =>
    have hne : pieces ≠ [] := fun h => hpieces h
    rw [List.cons_append, joinWith, ih hne, List.append_assoc, List.cons_append]
    simp [hne]

theorem getLast?_joinWith {last : List α} (hne : last ≠ []) (front : List (List α)) :
    (joinWith sep (front ++ [last])).getLast? = last.getLast? := by
  by_cases hfront : front = []
  · subst hfront
    rfl
  · rw [joinWith_concat hfront, List.getLast?_append_of_ne_nil _ (List.cons_ne_nil sep last),
      List.getLast?_cons, List.getLast?_eq_some_getLast hne, Option.getD_some]

/-- Dropping separators at the end drops empty pieces. -/
theorem dropWhileEnd_joinWith_empty (hsep : p sep = true) (front : List (List α)) :
    dropWhileEnd p (joinWith sep (front ++ [[]])) = dropWhileEnd p (joinWith sep front) := by
  by_cases hfront : front = []
  · subst hfront
    rfl
  · rw [joinWith_concat hfront, dropWhileEnd_append (by simpa using hsep)]

/-- If no piece ends with a member that is dropped, only the separators between empty pieces at the
end are dropped. -/
theorem dropWhileEnd_joinWith (hsep : p sep = true) {ls : List (List α)}
    (hls : ∀ l ∈ ls, ∀ a ∈ l.getLast?, p a = false) :
    dropWhileEnd p (joinWith sep ls) = joinWith sep (dropWhileEnd List.isEmpty ls) := by
  induction ls using List.reverseRecOn with
  | nil => rfl
  | append_singleton front last ih =>
    rw [List.forall_mem_append, List.forall_mem_singleton] at hls
    obtain ⟨hfront, hlast⟩ := hls
    by_cases hempty : last = []
    · subst hempty
      rw [dropWhileEnd_joinWith_empty hsep, ih hfront, dropWhileEnd_append (by simp)]
    · rw [dropWhileEnd_eq_self (by rwa [getLast?_joinWith hempty]),
        dropWhileEnd_eq_self (by simpa using hempty)]

end Joined

/-! ## Lines -/

theorem lines_append_newline (s : String) : lines (s ++ "\n") = lines s ++ [""] := by
  have hnewline : "\n".toList = ['\n'] := by decide
  rw [lines, String.toList_append, hnewline, splitOn_append_sep, List.map_append]
  rfl

theorem lines_joinLines {ls : List String} (hne : ls ≠ [])
    (hls : ∀ line ∈ ls, '\n' ∉ line.toList) : lines (joinLines ls) = ls := by
  rw [lines, joinLines, String.toList_ofList, splitOn_joinWith (by simpa using hne)]
  · simp [Function.comp_def]
  · simpa using hls

theorem getLast?_trimRight (s : String) :
    ∀ c ∈ (trimRight s).toList.getLast?, isBlank c = false := by
  rw [toList_trimRight]
  exact last_dropWhileEnd

theorem trimRight_eq_self {s : String} (hs : ∀ c ∈ s.toList.getLast?, isBlank c = false) :
    trimRight s = s := by
  rw [trimRight, dropWhileEnd_eq_self hs, String.ofList_toList]

theorem subset_trimRight (s : String) : (trimRight s).toList ⊆ s.toList := by
  rw [toList_trimRight]
  exact (List.rdropWhile_prefix isBlank s.toList).subset

end Text

open Text

namespace Java

variable {code : Lines}

/-! ## Files -/

/-- The lines that a file has of a piece of code: without blanks at their ends, and without the
blank lines behind the last line that is not blank. -/
def fileLines (code : Lines) : Lines := dropWhileEnd (· = "") (code.map trimRight)

theorem toList_fileLines (code : Lines) :
    (fileLines code).map String.toList =
      dropWhileEnd List.isEmpty ((code.map trimRight).map String.toList) := by
  have hempty : (List.isEmpty ∘ String.toList) = fun s : String => decide (s = "") := by
    funext s
    rw [Bool.eq_iff_iff]
    simp
  rw [fileLines, dropWhileEnd, dropWhileEnd, ← List.map_reverse (f := String.toList),
    List.dropWhile_map, hempty, List.map_reverse]

theorem render_eq (code : Lines) : render code = joinLines (fileLines code) ++ "\n" := by
  have htrimmed : ∀ l ∈ (code.map trimRight).map String.toList, ∀ c ∈ l.getLast?,
      isBlank c = false := by
    simp only [List.map_map, List.forall_mem_map]
    exact fun line _ => getLast?_trimRight line
  rw [render, trimRight, joinLines, String.toList_ofList,
    dropWhileEnd_joinWith (by decide) htrimmed, ← toList_fileLines, joinLines]

/-- Every file ends with exactly one newline character. -/
theorem render_ends (code : Lines) :
    ∃ text, render code = text ++ "\n" ∧ text.toList.getLast? ≠ some '\n' :=
  ⟨_, render.eq_1 code,
    fun hlast => Bool.false_ne_true (getLast?_trimRight _ '\n' hlast).symm⟩

theorem trimmed_of_mem_fileLines {line : String} (hline : line ∈ fileLines code) :
    ∀ c ∈ line.toList.getLast?, isBlank c = false := by
  have hmem := (List.rdropWhile_prefix _ _).subset hline
  obtain ⟨line', -, rfl⟩ := List.mem_map.1 hmem
  exact getLast?_trimRight line'

theorem newline_notMem_fileLines (hcode : ∀ line ∈ code, '\n' ∉ line.toList) :
    ∀ line ∈ fileLines code, '\n' ∉ line.toList := by
  intro line hline hnewline
  have hmem := (List.rdropWhile_prefix _ _).subset hline
  obtain ⟨line', hline', rfl⟩ := List.mem_map.1 hmem
  exact hcode line' hline' (subset_trimRight line' hnewline)

/-- The pieces of a file between its newline characters. -/
theorem lines_render (hcode : ∀ line ∈ code, '\n' ∉ line.toList) :
    lines (render code) = (if fileLines code = [] then [""] else fileLines code) ++ [""] := by
  rw [render_eq, lines_append_newline]
  split
  · next hnone =>
    rw [hnone]
    rfl
  · next hsome => rw [lines_joinLines hsome (newline_notMem_fileLines hcode)]

/-- Blank lines alone make a file of one empty line. -/
example : lines (render [" ", "", "\t"]) = ["", ""] := by decide

theorem trimmed_of_mem_lines (hcode : ∀ line ∈ code, '\n' ∉ line.toList) :
    ∀ line ∈ lines (render code), ∀ c ∈ line.toList.getLast?, isBlank c = false := by
  have hempty : ∀ c ∈ "".toList.getLast?, isBlank c = false := by simp
  intro line hline
  rw [lines_render hcode] at hline
  rcases List.mem_append.1 hline with hline | hline
  · split at hline
    · rwa [List.mem_singleton.1 hline]
    · exact trimmed_of_mem_fileLines hline
  · rwa [List.mem_singleton.1 hline]

/-- The lines of a file are those that its pieces give again. -/
theorem fileLines_lines (hcode : ∀ line ∈ code, '\n' ∉ line.toList) :
    fileLines (lines (render code)) = fileLines code := by
  have htrimmed : (lines (render code)).map trimRight = (lines (render code)).map id :=
    List.map_congr_left fun line hline =>
      trimRight_eq_self (trimmed_of_mem_lines hcode line hline)
  rw [fileLines, htrimmed, List.map_id, lines_render hcode, dropWhileEnd_append (by simp)]
  split
  · next hnone =>
    rw [hnone]
    rfl
  · exact List.rdropWhile_idempotent _ _

/-- A file of lines without newline characters ends with exactly one of them, and none of its lines
ends with a blank. Its lines are the trimmed lines of the code without the blank ones at the end; if
none is left, the newline character ends an empty line. It is the file of its own lines. -/
theorem render_normal (code : Lines) (hcode : ∀ line ∈ code, '\n' ∉ line.toList) :
    (∃ text, render code = text ++ "\n" ∧ text.toList.getLast? ≠ some '\n') ∧
      (∀ line ∈ lines (render code), ∀ c ∈ line.toList.getLast?, isBlank c = false) ∧
      render code = joinLines (fileLines code) ++ "\n" ∧
      lines (render code) = (if fileLines code = [] then [""] else fileLines code) ++ [""] ∧
      render (lines (render code)) = render code := by
  refine ⟨render_ends code, trimmed_of_mem_lines hcode, render_eq code, lines_render hcode, ?_⟩
  rw [render_eq (lines (render code)), fileLines_lines hcode, ← render_eq]

/-- A class with blanks at the ends of lines, and blank lines within and at the end. -/
def orderClass : Lines :=
  ["class Order \x7b", "    Long id;\u3000", " ", "\x7d\t", "", "  "]

theorem render_normal_orderClass :
    (∀ line ∈ orderClass, '\n' ∉ line.toList) ∧
      (∃ text, render orderClass = text ++ "\n" ∧ text.toList.getLast? ≠ some '\n') ∧
      (∀ line ∈ lines (render orderClass), ∀ c ∈ line.toList.getLast?, isBlank c = false) ∧
      render orderClass = joinLines (fileLines orderClass) ++ "\n" ∧
      lines (render orderClass) = ["class Order \x7b", "    Long id;", "", "\x7d", ""] ∧
      render (lines (render orderClass)) = render orderClass := by
  have hcode : ∀ line ∈ orderClass, '\n' ∉ line.toList := by decide
  have hlines : fileLines orderClass = ["class Order \x7b", "    Long id;", "", "\x7d"] := by decide
  obtain ⟨hend, htrimmed, hwhole, hpieces, hagain⟩ := render_normal orderClass hcode
  refine ⟨hcode, hend, htrimmed, hwhole, ?_, hagain⟩
  rw [hpieces, hlines]
  rfl

end Java

end Scaffold
