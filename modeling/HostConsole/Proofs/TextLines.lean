import HostConsole.Text.Lines

/-!
# The lines of a text

A text falls into lines in one way only. A line feed ends a line and takes the carriage return just
before it along; a carriage return anywhere else is a character like others. What no line feed ends
is a line when it holds anything at all.

`FallsInto` states this without the splitting by which the lines are found.

## Main definitions

* `FallsInto`: the lines of a text

## Main results

* `lines_eq_iff`: the lines that are found are those that the text falls into
* `newline_notMem_of_mem_lines`: no line is broken
-/

namespace HostConsole.Text

/-- The text falls into the lines. -/
inductive FallsInto : List (List Char) → List Char → Prop where
  | nil : FallsInto [] []
  /-- The text ends with a line that no line feed ends. -/
  | last {line : List Char} (nonempty : line ≠ []) (whole : '\n' ∉ line) : FallsInto [line] line
  /-- A line feed alone ends the line. -/
  | feed {line rest : List Char} {lines : List (List Char)} (whole : '\n' ∉ line)
      (bare : line.getLast? ≠ some '\r') (behind : FallsInto lines rest) :
      FallsInto (line :: lines) (line ++ '\n' :: rest)
  /-- A carriage return and a line feed end the line together. -/
  | pair {line rest : List Char} {lines : List (List Char)} (whole : '\n' ∉ line)
      (behind : FallsInto lines rest) : FallsInto (line :: lines) (line ++ '\r' :: '\n' :: rest)

variable {text line rest : List Char} {ls : List (List Char)}

theorem FallsInto.newline_notMem (h : FallsInto ls text) : ∀ line ∈ ls, '\n' ∉ line := by
  induction h with
  | nil => simp
  | last nonempty whole => simpa using whole
  | feed whole bare behind ih => exact List.forall_mem_cons.mpr ⟨whole, ih⟩
  | pair whole behind ih => exact List.forall_mem_cons.mpr ⟨whole, ih⟩

/-- The first line feed ends the first line. -/
theorem lines_append_cons (whole : '\n' ∉ line) (rest : List Char) :
    lines (line ++ '\n' :: rest) = withoutReturn line :: lines rest := by
  have pieces : rest.splitOn '\n' ≠ [] := by
    rw [List.splitOn]
    exact List.splitOnP_ne_nil _ _
  rw [lines, List.splitOn_append_cons_self_of_not_mem whole, lines]
  -- A piece is the last one or not, and behind this one there is another.
  cases hp : rest.splitOn '\n' with
  | nil => exact absurd hp pieces
  | cons piece others => rfl

theorem withoutReturn_of_ne (bare : line.getLast? ≠ some '\r') : withoutReturn line = line :=
  if_neg bare

theorem withoutReturn_concat (line : List Char) : withoutReturn (line ++ ['\r']) = line := by
  simp [withoutReturn]

/-- The lines that a text falls into are the ones that are found in it. -/
theorem FallsInto.lines_eq (h : FallsInto ls text) : lines text = ls := by
  induction h with
  | nil => rfl
  | @last line nonempty whole =>
    have alone : line.splitOn '\n' = [line] := List.splitOn_eq_singleton whole
    rw [lines, alone]
    simp [linesOfPieces, nonempty]
  | feed whole bare behind ih => rw [lines_append_cons whole, withoutReturn_of_ne bare, ih]
  | @pair line rest lines whole behind ih =>
    have ended : '\n' ∉ line ++ ['\r'] := by simp [whole]
    have regroup : line ++ '\r' :: '\n' :: rest = (line ++ ['\r']) ++ '\n' :: rest := by simp
    rw [regroup, lines_append_cons ended, withoutReturn_concat, ih]

/-- Every text falls into lines. -/
theorem exists_fallsInto (text : List Char) : ∃ ls, FallsInto ls text := by
  -- Strong induction on the length: behind the first line feed the text is shorter.
  induction h : text.length using Nat.strongRecOn generalizing text with
  | ind n ih =>
    by_cases fed : '\n' ∈ text
    · obtain ⟨line, rest, rfl, whole⟩ := List.eq_append_cons_of_mem fed
      obtain ⟨ls, behind⟩ := ih rest.length (by simp [← h]; omega) rest rfl
      by_cases returned : line.getLast? = some '\r'
      · obtain ⟨line, rfl⟩ := List.getLast?_eq_some_iff.mp returned
        have unbroken : '\n' ∉ line := fun mem => whole (List.mem_append_left _ mem)
        refine ⟨line :: ls, ?_⟩
        simpa using FallsInto.pair unbroken behind
      · exact ⟨line :: ls, .feed whole returned behind⟩
    · by_cases nonempty : text = []
      · exact ⟨[], nonempty ▸ .nil⟩
      · exact ⟨[text], .last nonempty fed⟩

/-- The lines of a text are those that it falls into. -/
theorem lines_eq_iff : lines text = ls ↔ FallsInto ls text := by
  constructor
  · rintro rfl
    obtain ⟨ls, h⟩ := exists_fallsInto text
    rw [h.lines_eq]
    exact h
  · exact FallsInto.lines_eq

theorem fallsInto_lines (text : List Char) : FallsInto (lines text) text :=
  lines_eq_iff.mp rfl

theorem newline_notMem_of_mem_lines (mem : line ∈ lines text) : '\n' ∉ line :=
  (fallsInto_lines text).newline_notMem line mem

end HostConsole.Text
