import HostConsole.Text.Blank

/-!
# Words and the space between them

A text is words with white space between two of them, and perhaps around them. Put on one line, it
is the same words with a single space between two neighbours. Of whatever white space the text had,
nothing but such spaces is left.

That a text consists of some words is stated without the splitting that finds them, and there are
no two ways to take a text apart like this.

## Main definitions

* `IsWord`, `IsGap`: texts without white space, and texts of nothing else
* `ConsistsOf`: a text is made of some words
* `IsSpacedAs`: a line holds the words of a text with one space between two neighbours

## Main results

* `words_eq_iff`: the words of a text are those that it is made of
* `singleLine_eq_iff`: every text has exactly one such line
* `eq_space_of_mem_singleLine`: the white space of a single line is its spaces
* `splitOn_lines`: lines that are ended by line feeds, taken apart at these
-/

namespace HostConsole.Text

/-- Some characters, and no white space among them. -/
structure IsWord (word : List Char) : Prop where
  nonempty : word ≠ []
  visible : ∀ c ∈ word, isBlank c = false

/-- White space and nothing else, or nothing at all. -/
def IsGap (gap : List Char) : Prop :=
  ∀ c ∈ gap, isBlank c = true

/-- The text is made of the words, with white space between two of them and perhaps around. -/
inductive ConsistsOf : List (List Char) → List Char → Prop where
  | blank {gap : List Char} (h : IsGap gap) : ConsistsOf [] gap
  /-- The text ends with the word. -/
  | last {gap word : List Char} (before : IsGap gap) (visible : IsWord word) :
      ConsistsOf [word] (gap ++ word)
  /-- White space ends the word, and the text goes on behind it. -/
  | next {gap word : List Char} {c : Char} {words : List (List Char)} {rest : List Char}
      (before : IsGap gap) (visible : IsWord word) (ended : isBlank c = true)
      (behind : ConsistsOf words rest) : ConsistsOf (word :: words) (gap ++ (word ++ c :: rest))

/-- The line holds the words of the text with one space between two neighbours, and nothing
else. -/
def IsSpacedAs (text line : List Char) : Prop :=
  ∃ words, ConsistsOf words text ∧ line = List.intercalate [' '] words

variable {text line gap word : List Char} {ws : List (List Char)}

/-! ## Finding the words -/

theorem IsGap.nil : IsGap [] := nofun

theorem IsGap.cons {c : Char} (hc : isBlank c = true) (h : IsGap gap) : IsGap (c :: gap) :=
  List.forall_mem_cons.mpr ⟨hc, h⟩

theorem IsWord.cons {c : Char} (hc : isBlank c = false) (h : ∀ d ∈ word, isBlank d = false) :
    IsWord (c :: word) :=
  ⟨List.cons_ne_nil _ _, List.forall_mem_cons.mpr ⟨hc, h⟩⟩

/-- White space in front of a text is in none of its words. -/
theorem words_gap_append (h : IsGap gap) (text : List Char) : words (gap ++ text) = words text := by
  induction gap with
  | nil => rfl
  | cons c gap ih =>
    obtain ⟨hc, rest⟩ := List.forall_mem_cons.mp h
    have cut : (c :: gap ++ text).splitOnP isBlank = [] :: (gap ++ text).splitOnP isBlank := by
      rw [List.cons_append, List.splitOnP_cons_eq_if_modifyHead, if_pos hc]
    rw [words, cut]
    exact ih rest

theorem words_of_isWord (h : IsWord word) : words word = [word] := by
  have kept : (!word.isEmpty) = true := by simp [h.nonempty]
  rw [words, List.splitOnP_eq_singleton h.visible]
  simp only [List.filter_cons, kept, if_true, List.filter_nil]

theorem words_append_cons {c : Char} (h : IsWord word) (hc : isBlank c = true)
    (rest : List Char) : words (word ++ c :: rest) = word :: words rest := by
  have kept : (!word.isEmpty) = true := by simp [h.nonempty]
  rw [words, List.splitOnP_append_cons_of_forall_mem h.visible c hc, List.filter_cons,
    if_pos kept]
  rfl

/-- The words that a text is made of are the ones that are found in it. -/
theorem ConsistsOf.words_eq (h : ConsistsOf ws text) : words text = ws := by
  induction h with
  | blank h => simpa using words_gap_append h []
  | last before visible => rw [words_gap_append before, words_of_isWord visible]
  | next before visible ended behind ih =>
    rw [words_gap_append before, words_append_cons visible ended, ih]

/-! ## Every text is made of words -/

/-- White space may go before a text. -/
theorem ConsistsOf.cons_blank {c : Char} (h : ConsistsOf ws text) (hc : isBlank c = true) :
    ConsistsOf ws (c :: text) := by
  cases h with
  | blank h => exact .blank (h.cons hc)
  | last before visible => exact .last (before.cons hc) visible
  | next before visible ended behind => exact .next (before.cons hc) visible ended behind

/-- A visible character begins the first word, or is a word of its own before white space. -/
theorem ConsistsOf.exists_cons {c : Char} (h : ConsistsOf ws text) (hc : isBlank c = false) :
    ∃ ws', ConsistsOf ws' (c :: text) := by
  have alone : IsWord [c] := .cons hc (by simp)
  cases h with
  | blank blank =>
    cases text with
    | nil => exact ⟨_, .last .nil alone⟩
    | cons d gap =>
      obtain ⟨hd, rest⟩ := List.forall_mem_cons.mp blank
      exact ⟨_, .next .nil alone hd (.blank rest)⟩
  | @last gap word before visible =>
    cases gap with
    | nil => exact ⟨_, .last .nil (.cons hc visible.visible)⟩
    | cons d gap =>
      obtain ⟨hd, rest⟩ := List.forall_mem_cons.mp before
      exact ⟨_, .next .nil alone hd (.last rest visible)⟩
  | @next gap word e words rest before visible ended behind =>
    cases gap with
    | nil => exact ⟨_, .next .nil (.cons hc visible.visible) ended behind⟩
    | cons d gap =>
      obtain ⟨hd, others⟩ := List.forall_mem_cons.mp before
      exact ⟨_, .next .nil alone hd (.next others visible ended behind)⟩

theorem exists_consistsOf (text : List Char) : ∃ ws, ConsistsOf ws text := by
  induction text with
  | nil => exact ⟨[], .blank .nil⟩
  | cons c text ih =>
    obtain ⟨ws, h⟩ := ih
    cases hc : isBlank c with
    | true => exact ⟨ws, h.cons_blank hc⟩
    | false => exact h.exists_cons hc

/-- The words of a text are those that it is made of. -/
theorem words_eq_iff : words text = ws ↔ ConsistsOf ws text := by
  constructor
  · rintro rfl
    obtain ⟨ws, h⟩ := exists_consistsOf text
    rw [h.words_eq]
    exact h
  · exact ConsistsOf.words_eq

theorem ConsistsOf.isWord_of_mem (h : ConsistsOf ws text) : ∀ word ∈ ws, IsWord word := by
  induction h with
  | blank => simp
  | last before visible => simpa using visible
  | next before visible ended behind ih => exact List.forall_mem_cons.mpr ⟨visible, ih⟩

/-! ## Single lines -/

/-- Every text has exactly one line with its words and single spaces. -/
theorem singleLine_eq_iff : singleLine text = line ↔ IsSpacedAs text line := by
  constructor
  · rintro rfl
    exact ⟨words text, words_eq_iff.mp rfl, rfl⟩
  · rintro ⟨ws, made, rfl⟩
    rw [singleLine, words_eq_iff.mpr made]

theorem isSpacedAs_singleLine (text : List Char) : IsSpacedAs text (singleLine text) :=
  singleLine_eq_iff.mp rfl

/-- The characters of joined texts are those of the texts and of what joins them. -/
theorem mem_intercalate {α : Type} {a : α} {sep : List α} {parts : List (List α)}
    (h : a ∈ List.intercalate sep parts) : a ∈ sep ∨ ∃ part ∈ parts, a ∈ part := by
  induction parts with
  | nil => simp at h
  | cons first parts ih =>
    cases parts with
    | nil => exact .inr ⟨first, by simp, by simpa using h⟩
    | cons second parts =>
      rw [List.intercalate_cons_cons, List.mem_append, List.mem_append] at h
      rcases h with (here | joint) | later
      · exact .inr ⟨first, by simp, here⟩
      · exact .inl joint
      · rcases ih later with joint | ⟨part, mem, ha⟩
        · exact .inl joint
        · exact .inr ⟨part, List.mem_cons_of_mem _ mem, ha⟩

/-- The white space of a single line is its spaces. -/
theorem eq_space_of_mem_singleLine {c : Char} (mem : c ∈ singleLine text)
    (hc : isBlank c = true) : c = ' ' := by
  rcases mem_intercalate mem with space | ⟨word, found, within⟩
  · exact List.mem_singleton.mp space
  · -- A character of a word is no white space.
    have visible := (words_eq_iff.mp rfl : ConsistsOf (words text) text).isWord_of_mem word found
    rw [visible.visible c within] at hc
    cases hc

/-! ## Lines -/

/-- Parts that are ended by a separator are what a list falls into at it, with nothing behind the
last one. -/
theorem splitOn_ended {α : Type} [BEq α] [LawfulBEq α] {sep : α} {parts : List (List α)}
    (h : ∀ part ∈ parts, sep ∉ part) :
    (parts.flatMap fun part => part ++ [sep]).splitOn sep = parts ++ [[]] := by
  induction parts with
  | nil => rfl
  | cons part parts ih =>
    obtain ⟨first, others⟩ := List.forall_mem_cons.mp h
    rw [List.flatMap_cons, List.append_assoc, List.singleton_append,
      List.splitOn_append_cons_self_of_not_mem first, ih others, List.cons_append]

/-- A text of lines that are ended by line feeds falls into these lines, with nothing behind the
last line feed. -/
theorem splitOn_lines {lines : List (List Char)} (h : ∀ line ∈ lines, '\n' ∉ line) :
    (lines.flatMap fun line => line ++ ['\n']).splitOn '\n' = lines ++ [[]] :=
  splitOn_ended h

end HostConsole.Text
