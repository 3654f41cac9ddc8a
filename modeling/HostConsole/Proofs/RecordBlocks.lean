import HostConsole.Proofs.TableAlignment
import HostConsole.Proofs.TextLines

/-!
# Records as blocks of lines

A record is a block of lines with an empty line behind it, and nothing else in the text of some
records is an empty line. So the text falls into its blocks at the empty lines, whatever the values
hold.

## Why no value ends a block

A value may have lines of its own that are empty or nothing but white space. Its first line stands
behind the label and the colon, which is visible, so that what is trimmed at the end of the line
never reaches them. The others stand behind the spaces of the margin, which nothing trims. Only the
end of the first line can lose anything, and what it loses is white space.

## Main definitions

* `ShowsValue`: the lines of one column of a record
* `IsBlock`: the lines of a record
* `Layout.IsMargin`: where the values of a record begin
* `Layout.ShowsRecords`: the text of some records

## Main results

* `showsValue_recordLines`: the lines of a column show its value
* `Layout.separates_records`: the text of records, block by block
-/

namespace HostConsole.Output

/-! ## The lines of one column -/

/-- The lines show the value of a row in a column behind a margin. There are as many as the value
has, but always one. The label and a colon stand in the margin of the first line, with spaces
behind them, and spaces alone stand in that of the others. Behind the margins are the lines of the
value, of which the first one ends with its last visible character. -/
structure ShowsValue (margin : Nat) (row : Row) (column : Column) (first : List Char)
    (others : List (List Char)) : Prop where
  labelled : ∃ spaces, first.take margin =
    column.label.toList ++ ':' :: List.replicate spaces ' '
  blank : ∀ line ∈ others, line.take margin = List.replicate margin ' '
  shows : ∃ values, Text.FallsInto values (cell row column) ∧
    others.length + 1 = max 1 values.length ∧
    Text.IsCutBack (values.headD []) (first.drop margin) ∧
    others.map (List.drop margin) = values.tail

/-- A label with its colon, filled up to the margin. -/
def marginText (margin : Nat) (column : Column) : List Char :=
  pad margin (column.label.toList ++ [':'])

variable {width : Nat} {row : Row} {column : Column}

theorem marginText_eq (margin : Nat) (column : Column) :
    marginText margin column = column.label.toList ++
      ':' :: List.replicate (margin - (column.label.toList.length + 1)) ' ' := by
  simp [marginText, pad]

theorem length_marginText (fits : column.label.toList.length + 1 ≤ width) :
    (marginText (width + 1) column).length = width + 1 := by
  apply length_pad
  simp
  omega

/-- Where nothing stands behind the margin, the line ends with the colon. -/
theorem trimEnd_marginText (margin : Nat) (column : Column) :
    Text.trimEnd (marginText margin column) = column.label.toList ++ [':'] := by
  have gone (n : Nat) : Text.trimEnd (List.replicate n ' ') = [] := by
    rw [Text.trimEnd_eq_iff]
    refine ⟨⟨List.replicate n ' ', rfl, ?_⟩, by simp⟩
    intro c mem
    rw [List.eq_of_mem_replicate mem]
    decide
  rw [marginText_eq, Text.trimEnd_append_cons (by decide), gone]

/-- The lines of a column are its margins with the lines of the value behind them. -/
theorem recordLines_eq (fits : column.label.toList.length + 1 ≤ width) :
    Layout.recordLines width row column =
      Text.trimEnd (marginText (width + 1) column ++ (Text.lines (cell row column)).headD []) ::
        (Text.lines (cell row column)).tail.map fun line =>
          List.replicate (width + 1) ' ' ++ line := by
  have one_more : pad width (column.label.toList ++ [':']) ++ [' '] =
      marginText (width + 1) column :=
    pad_append_spaces (by simpa using fits) 1
  unfold Layout.recordLines
  rw [← one_more]
  simp [List.replicate_succ']

/-- **The lines of a column show its value.** -/
theorem showsValue_recordLines (fits : column.label.toList.length + 1 ≤ width) (row : Row) :
    ∃ first others, Layout.recordLines width row column = first :: others ∧
      ShowsValue (width + 1) row column first others := by
  have reaches := length_marginText fits
  refine ⟨_, _, recordLines_eq fits, ?_, ?_, ?_⟩
  · -- A first line that is not blank leaves the margin whole, and a blank one takes its spaces too.
    rw [Text.trimEnd_append]
    split
    · rw [trimEnd_marginText, List.take_of_length_le (by simp; omega)]
      exact ⟨0, rfl⟩
    · rw [List.take_left' reaches, marginText_eq]
      exact ⟨_, rfl⟩
  · intro line mem
    obtain ⟨value, -, rfl⟩ := List.mem_map.mp mem
    exact List.take_left' List.length_replicate
  · refine ⟨_, Text.fallsInto_lines (cell row column), ?_, ?_, ?_⟩
    · rw [List.length_map, List.length_tail]
      omega
    · have behind := Text.drop_trimEnd_append (marginText (width + 1) column)
        ((Text.lines (cell row column)).headD [])
      rw [reaches] at behind
      exact Text.trimEnd_eq_iff.mp behind.symm
    · rw [List.map_map]
      have behind : (List.drop (width + 1) ∘ fun line => List.replicate (width + 1) ' ' ++ line) =
          id := funext fun line => List.drop_left' List.length_replicate
      rw [behind, List.map_id]

/-! ## Blocks -/

/-- The block is the lines of all columns, in their order. -/
def IsBlock (margin : Nat) (columns : List Column) (row : Row) (block : List (List Char)) : Prop :=
  ∃ parts, block = parts.flatten ∧
    List.Forall₂ (fun column part => ∃ first others, part = first :: others ∧
      ShowsValue margin row column first others) columns parts

/-- No line of a column is empty: the margin is there. -/
theorem ShowsValue.ne_nil {margin : Nat} {first : List Char} {others : List (List Char)}
    (h : ShowsValue (margin + 1) row column first others) :
    ∀ line ∈ first :: others, line ≠ [] := by
  intro line mem empty
  subst empty
  rcases List.mem_cons.mp mem with rfl | mem
  · obtain ⟨spaces, label⟩ := h.labelled
    simp at label
  · have margins := h.blank [] mem
    simp [List.replicate_succ] at margins

theorem IsBlock.ne_nil {margin : Nat} {columns : List Column} {block : List (List Char)}
    (h : IsBlock (margin + 1) columns row block) : ∀ line ∈ block, line ≠ [] := by
  obtain ⟨parts, rfl, shown⟩ := h
  induction shown with
  | nil => simp
  | cons part others ih =>
    obtain ⟨first, behind, rfl, shows⟩ := part
    rw [List.flatten_cons]
    exact List.forall_mem_append.mpr ⟨shows.ne_nil, ih⟩

namespace Layout

/-- The margin ends behind the widest label, its colon and a space. -/
def IsMargin (columns : List Column) (margin : Nat) : Prop :=
  IsGreatest {n | ∃ column ∈ columns, n = column.label.toList.length + 2} margin

/-- The text of some records: behind the banner it falls into lines, and these fall into a block
for each row at the empty lines. -/
def ShowsRecords (layout : Layout) (colors : Bool) (rows : List Row) (text : String) : Prop :=
  ∃ body margin lines blocks,
    text = .ofList (layout.bannerText colors ++ body) ∧
    body.splitOn '\n' = lines ++ [[]] ∧
    lines = blocks.flatMap (fun block => block ++ [[]]) ∧
    lines.splitOn [] = blocks ++ [[]] ∧
    (∀ block ∈ blocks, block ≠ [] ∧ ∀ line ∈ block, line ≠ []) ∧
    IsMargin layout.visible margin ∧
    List.Forall₂ (IsBlock margin layout.visible) rows blocks

variable {layout : Layout} {columns : List Column} {rows : List Row}

/-- The labels are as wide as the widest of them. -/
theorem isMargin_labelWidth (shown : columns ≠ []) : IsMargin columns (labelWidth columns + 1) := by
  obtain ⟨attained, upper⟩ :=
    isGreatest_foldl_max (fun column : Column => column.label.toList.length + 1) 0 columns
  refine ⟨?_, ?_⟩
  · rcases attained with none | ⟨column, mem, widest⟩
    · -- Every label has a colon, so the width is not that of no label at all.
      obtain ⟨column, mem⟩ := List.exists_mem_of_ne_nil columns shown
      have wide : column.label.toList.length + 1 ≤ 0 := none ▸ upper (.inr ⟨column, mem, rfl⟩)
      omega
    · exact ⟨column, mem, congrArg (· + 1) widest⟩
  · rintro n ⟨column, mem, rfl⟩
    exact Nat.succ_le_succ (upper (.inr ⟨column, mem, rfl⟩))

theorem length_label_lt {column : Column} (mem : column ∈ columns) :
    column.label.toList.length + 1 ≤ labelWidth columns :=
  (isGreatest_foldl_max _ _ columns).2 (.inr ⟨column, mem, rfl⟩)

/-- The lines of a record. -/
def block (columns : List Column) (row : Row) : List (List Char) :=
  columns.flatMap (recordLines (labelWidth columns) row)

theorem isBlock_block (columns : List Column) (row : Row) :
    IsBlock (labelWidth columns + 1) columns row (block columns row) := by
  refine ⟨columns.map (recordLines (labelWidth columns) row), ?_, ?_⟩
  · rw [block, List.flatMap_def]
  · rw [List.forall₂_map_right_iff, List.forall₂_same]
    intro column mem
    exact showsValue_recordLines (length_label_lt mem) row

/-- No line of a record is broken. -/
theorem newline_notMem_block (plain : ∀ column ∈ columns, '\n' ∉ column.label.toList) (row : Row) :
    ∀ line ∈ block columns row, '\n' ∉ line := by
  intro line mem
  obtain ⟨column, shown, within⟩ := List.mem_flatMap.mp mem
  rw [recordLines_eq (length_label_lt shown)] at within
  have values (value : List Char) (h : value ∈ Text.lines (cell row column)) : '\n' ∉ value :=
    Text.newline_notMem_of_mem_lines h
  rcases List.mem_cons.mp within with rfl | within
  · intro newline
    -- The end of the line is trimmed, so what is in it was in the margin or in the value.
    have untrimmed := (List.rdropWhile_prefix Text.isBlank _).subset newline
    rw [marginText_eq] at untrimmed
    simp only [List.mem_append, List.mem_cons, List.mem_replicate] at untrimmed
    rcases untrimmed with (label | colon | ⟨-, space⟩) | value
    · exact plain column shown label
    · exact absurd colon (by decide)
    · exact absurd space (by decide)
    · cases hv : Text.lines (cell row column) with
      | nil => simp [hv] at value
      | cons first others =>
        rw [hv] at value
        exact values first (by simp [hv]) value
  · obtain ⟨value, behind, rfl⟩ := List.mem_map.mp within
    intro newline
    rcases List.mem_append.mp newline with margin | newline
    · exact absurd (List.eq_of_mem_replicate margin) (by decide)
    · exact values value (List.mem_of_mem_tail behind) newline

theorem block_ne_nil (shown : columns ≠ []) (row : Row) : block columns row ≠ [] := by
  obtain ⟨column, mem⟩ := List.exists_mem_of_ne_nil columns shown
  rw [block, Ne, List.flatMap_eq_nil_iff]
  intro none
  cases none column mem

/-- Records show what they are made of. -/
theorem showsRecords_renderRecords (shown : layout.visible ≠ [])
    (plain : ∀ column ∈ layout.visible, '\n' ∉ column.label.toList) (colors : Bool)
    (rows : List Row) :
    layout.ShowsRecords colors rows (.ofList (layout.renderRecords colors rows)) := by
  let blocks := rows.map (block layout.visible)
  let lines := blocks.flatMap fun block => block ++ [[]]
  have full : ∀ block ∈ blocks, ∀ line ∈ block, line ≠ [] := by
    intro lines mem
    obtain ⟨row, -, rfl⟩ := List.mem_map.mp mem
    exact (isBlock_block layout.visible row).ne_nil
  refine ⟨lines.flatMap fun line => line ++ ['\n'], labelWidth layout.visible + 1, lines, blocks,
    ?_, ?_, rfl, ?_, ?_, isMargin_labelWidth shown, ?_⟩
  · unfold renderRecords
    simp only [lines, blocks, block, List.flatMap_map]
  · apply Text.splitOn_lines
    intro line mem
    obtain ⟨lines, found, within⟩ := List.mem_flatMap.mp mem
    obtain ⟨row, -, rfl⟩ := List.mem_map.mp found
    rcases List.mem_append.mp within with within | ending
    · exact newline_notMem_block plain row line within
    · rw [List.mem_singleton.mp ending]
      simp
  · apply Text.splitOn_ended
    intro block mem empty
    exact full block mem [] empty rfl
  · intro lines mem
    refine ⟨?_, full lines mem⟩
    obtain ⟨row, -, rfl⟩ := List.mem_map.mp mem
    exact block_ne_nil shown row
  · rw [List.forall₂_map_right_iff, List.forall₂_same]
    intro row _
    exact isBlock_block layout.visible row

/-- **Records keep every line of every value, and their blocks are told apart.** Records are
written for some rows where they are asked for, and for a single row unless bare lines are. -/
theorem separates_records (shown : layout.visible ≠ [])
    (plain : ∀ column ∈ layout.visible, '\n' ∉ column.label.toList) (colors : Bool) :
    (layout.strategy = .verbose → ∀ rows,
      layout.ShowsRecords colors rows (layout.renderItems colors rows)) ∧
    (layout.strategy = .verbose ∨ layout.strategy = .table → ∀ row,
      layout.ShowsRecords colors [row] (layout.renderItem colors row)) := by
  refine ⟨?_, ?_⟩
  · intro verbose rows
    rw [renderItems, verbose]
    exact showsRecords_renderRecords shown plain colors rows
  · intro single row
    have records : layout.renderItem colors row = .ofList (layout.renderRecords colors [row]) := by
      rcases single with verbose | table
      · rw [renderItem, verbose]
      · rw [renderItem, table]
    rw [records]
    exact showsRecords_renderRecords shown plain colors [row]

/-- A value that begins with an empty line, goes on with one of spaces and ends with a carriage
return keeps them all, and the spaces behind its other line are lost where that is the first. -/
theorem separates_records_of_empty_lines :
    let layout : Layout :=
      { strategy := .verbose
        columns := [.ofKey "name", { key := "result", label := "Result" },
          { key := "nvra", label := "Package", visibility := .compact }] }
    let rows : List Row :=
      [[("name", "web01 "), ("result", "\n  \r\n\nend\r")], [("name", "db")]]
    layout.visible ≠ [] ∧ (∀ column ∈ layout.visible, '\n' ∉ column.label.toList) ∧
      layout.strategy = .verbose ∧
      layout.renderItems false rows =
        "Name:   web01\nResult:\n          \n        \n        end\r\n\nName:   db\nResult:\n\n" ∧
      layout.ShowsRecords false rows (layout.renderItems false rows) := by
  intro layout rows
  have shown : layout.visible ≠ [] := by decide
  have plain : ∀ column ∈ layout.visible, '\n' ∉ column.label.toList := by decide +kernel
  exact ⟨shown, plain, rfl, by decide +kernel,
    (separates_records shown plain false).1 rfl rows⟩

end Layout

end HostConsole.Output
