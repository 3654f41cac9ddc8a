import HostConsole.Output.Layout
import HostConsole.Proofs.Spacing
import HostConsole.Proofs.Trimming
import Mathlib.Algebra.GroupWithZero.Nat
import Mathlib.Data.List.Forall2
import Mathlib.Order.Bounds.Basic

/-!
# Aligned tables

A table has its titles, a rule under them and one line for each row. Every column begins at the same
place in all of these lines, and its texts stand there whole, with two spaces or more before the
next column.

## Why nothing is lost at the end of a line

The spaces behind the last text are taken away from a line, and with them the space that empty
values leave. Only spaces can go there, for a value on one line has no other white space and labels
are taken to have none. So a line that is filled up with spaces again is the line as it was before,
and it is enough to look at that one.

## Main definitions

* `offset`: where a column begins
* `IsAligned`: a line has texts in columns of given widths
* `Layout.IsWidth`: the width of a column, as the largest of its texts

## Main results

* `isAligned_tableLine`: the lines of a table are aligned
* `Layout.isGreatest_columnWidth`: a column is as wide as its widest text
* `Layout.aligns_table`: the text of a table, line by line
-/

namespace HostConsole.Output

/-! ## Texts filled up with spaces -/

theorem length_pad {width : Nat} {cs : List Char} (h : cs.length ≤ width) :
    (pad width cs).length = width := by
  rw [pad, List.length_append, List.length_replicate]
  omega

/-- Filling up once more comes to filling up at once. -/
theorem pad_append_replicate (width more : Nat) {cs : List Char} (h : cs.length + more ≤ width) :
    pad width (cs ++ List.replicate more ' ') = pad width cs := by
  have rest : width - cs.length = more + (width - (cs.length + more)) := by omega
  rw [pad, pad, List.append_assoc, List.length_append, List.length_replicate, rest,
    List.replicate_append_replicate]

theorem pad_append_spaces {width : Nat} {cs : List Char} (h : cs.length ≤ width) (more : Nat) :
    pad width cs ++ List.replicate more ' ' = pad (width + more) cs := by
  have rest : width + more - cs.length = width - cs.length + more := by omega
  rw [pad, pad, List.append_assoc, List.replicate_append_replicate, rest]

/-- The white space of the text is its spaces. -/
def IsPlainlySpaced (cs : List Char) : Prop :=
  ∀ c ∈ cs, Text.isBlank c = true → c = ' '

instance (cs : List Char) : Decidable (IsPlainlySpaced cs) :=
  List.decidableBAll (fun c => Text.isBlank c = true → c = ' ') cs

/-- Spaces that were taken away from the end come back when the text is filled up. -/
theorem pad_trimEnd {width : Nat} {cs : List Char} (plain : IsPlainlySpaced cs)
    (h : cs.length ≤ width) : pad width (Text.trimEnd cs) = pad width cs := by
  have split : Text.trimEnd cs ++ cs.rtakeWhile Text.isBlank = cs :=
    List.rdropWhile_append_rtakeWhile
  have spaces : cs.rtakeWhile Text.isBlank =
      List.replicate (cs.rtakeWhile Text.isBlank).length ' ' := by
    refine List.eq_replicate_iff.mpr ⟨rfl, fun c mem => ?_⟩
    have within : c ∈ cs := by
      rw [← split]
      exact List.mem_append_right _ mem
    exact plain c within (List.mem_rtakeWhile_imp mem)
  have lengths := congrArg List.length split
  rw [List.length_append] at lengths
  calc pad width (Text.trimEnd cs)
      = pad width (Text.trimEnd cs ++
          List.replicate (cs.rtakeWhile Text.isBlank).length ' ') :=
        (pad_append_replicate width _ (by omega)).symm
    _ = pad width cs := by rw [← spaces, split]

theorem length_trimEnd_le (cs : List Char) : (Text.trimEnd cs).length ≤ cs.length :=
  (List.rdropWhile_prefix Text.isBlank cs).length_le

/-! ## Columns -/

/-- Where a column begins: behind the columns before it, each with two spaces. -/
def offset (widths : List Nat) (index : Nat) : Nat :=
  ((widths.take index).map (· + 2)).sum

@[simp] theorem offset_zero (widths : List Nat) : offset widths 0 = 0 := by
  simp [offset]

@[simp] theorem offset_cons_succ (width : Nat) (widths : List Nat) (index : Nat) :
    offset (width :: widths) (index + 1) = width + 2 + offset widths index := by
  simp [offset]

/-- The line has the texts in columns of the widths. It is no longer than the columns, and filled
up to them it has each text whole at the beginning of its column, with spaces to the beginning of
the next one. -/
structure IsAligned (widths : List Nat) (texts : List (List Char)) (line : List Char) : Prop where
  count : texts.length = widths.length
  fits : line.length ≤ offset widths widths.length
  column : ∀ (index width : Nat) (text : List Char), widths[index]? = some width →
    texts[index]? = some text → text.length ≤ width ∧
      ((pad (offset widths widths.length) line).drop (offset widths index)).take (width + 2) =
        text ++ List.replicate (width + 2 - text.length) ' '

/-- The texts are no wider than their columns. -/
abbrev Fits (texts : List (List Char)) (widths : List Nat) : Prop :=
  List.Forall₂ (fun text width => text.length ≤ width) texts widths

/-- Texts in their columns, each with two spaces behind it. -/
def cells (texts : List (List Char)) (widths : List Nat) : List Char :=
  (List.zipWith (fun text width => pad (width + 2) text) texts widths).flatten

variable {texts : List (List Char)} {widths : List Nat}

theorem length_cells (h : Fits texts widths) :
    (cells texts widths).length = offset widths widths.length := by
  induction h with
  | nil => rfl
  | @cons text width texts widths fits _ ih =>
    have first : (pad (width + 2) text).length = width + 2 := length_pad (by omega)
    change (pad (width + 2) text ++ cells texts widths).length = _
    rw [List.length_append, first, ih, List.length_cons, offset_cons_succ]

/-- Each text stands whole at the beginning of its column. -/
theorem take_drop_cells (h : Fits texts widths) {index width : Nat} {text : List Char}
    (hw : widths[index]? = some width) (ht : texts[index]? = some text) :
    text.length ≤ width ∧
      ((cells texts widths).drop (offset widths index)).take (width + 2) = pad (width + 2) text := by
  -- Induction on the columns: the first one is dropped to come to one of the others.
  induction h generalizing index with
  | nil => cases hw
  | @cons text' width' texts widths fits _ ih =>
    have first : (pad (width' + 2) text').length = width' + 2 := length_pad (by omega)
    change _ ∧ ((pad (width' + 2) text' ++ cells texts widths).drop _).take _ = _
    cases index with
    | zero =>
      cases hw
      cases ht
      refine ⟨fits, ?_⟩
      rw [offset_zero, List.drop_zero, List.take_left' first]
    | succ index =>
      obtain ⟨narrow, column⟩ := ih hw ht
      refine ⟨narrow, ?_⟩
      rw [offset_cons_succ, ← List.drop_drop, List.drop_left' first, column]

/-! ## Lines of a table -/

/-- Texts that are joined by two spaces are those that have two spaces behind them each, but for
the last two spaces. -/
theorem intercalate_pad (h : Fits texts widths) (shown : texts ≠ []) :
    List.intercalate [' ', ' '] (List.zipWith (fun cs w => pad w cs) texts widths) ++ [' ', ' '] =
      cells texts widths := by
  -- Two columns at a time, for the spaces stand between two of them.
  induction h with
  | nil => exact absurd rfl shown
  | @cons text width texts widths fits others ih =>
    have first : pad width text ++ [' ', ' '] = pad (width + 2) text := pad_append_spaces fits 2
    cases others with
    | nil => simpa [cells] using first
    | @cons second width' texts widths fits' others =>
      have rest := ih (List.cons_ne_nil _ _)
      simp only [List.zipWith_cons_cons] at rest ⊢
      rw [List.intercalate_cons_cons, first, List.append_assoc, rest]
      rfl

theorem isPlainlySpaced_pad {cs : List Char} (plain : IsPlainlySpaced cs) (width : Nat) :
    IsPlainlySpaced (pad width cs) := by
  intro c mem blank
  rcases List.mem_append.mp mem with within | behind
  · exact plain c within blank
  · exact List.eq_of_mem_replicate behind

theorem isPlainlySpaced_cells (plain : ∀ text ∈ texts, IsPlainlySpaced text) :
    IsPlainlySpaced (cells texts widths) := by
  intro c mem
  obtain ⟨padded, found, within⟩ := List.mem_flatten.mp mem
  rw [← List.map_uncurry_zip_eq_zipWith] at found
  obtain ⟨⟨text, width⟩, pair, rfl⟩ := List.mem_map.mp found
  exact isPlainlySpaced_pad (plain text (List.of_mem_zip pair).1) _ c within

/-- Filled up with spaces to the width of the columns, a line has each text with the spaces behind
it, though the spaces at its end were taken away. -/
theorem pad_tableLine (h : Fits texts widths) (plain : ∀ text ∈ texts, IsPlainlySpaced text) :
    (Layout.tableLine texts widths).length ≤ offset widths widths.length ∧
      pad (offset widths widths.length) (Layout.tableLine texts widths) = cells texts widths := by
  by_cases shown : texts = []
  · subst shown
    cases h
    exact ⟨Nat.le_refl 0, rfl⟩
  · -- The line before its end is trimmed is the cells without their last two spaces.
    have joined := intercalate_pad h shown
    have total := length_cells h
    have spaced : IsPlainlySpaced (cells texts widths) := isPlainlySpaced_cells plain
    unfold Layout.tableLine
    generalize List.intercalate [' ', ' '] (List.zipWith (fun cs w => pad w cs) texts widths) =
      line at joined ⊢
    rw [← joined, List.length_append] at total
    have two : offset widths widths.length - line.length = 2 := by
      simp only [List.length_cons, List.length_nil] at total
      omega
    have narrow : line.length ≤ offset widths widths.length := by omega
    refine ⟨(length_trimEnd_le line).trans narrow, ?_⟩
    have plainLine : IsPlainlySpaced line := by
      intro c mem
      refine spaced c ?_
      rw [← joined]
      exact List.mem_append_left _ mem
    rw [pad_trimEnd plainLine narrow, pad, two, ← joined]
    rfl

/-- **A line of a table is aligned.** -/
theorem isAligned_tableLine (h : Fits texts widths)
    (plain : ∀ text ∈ texts, IsPlainlySpaced text) :
    IsAligned widths texts (Layout.tableLine texts widths) := by
  obtain ⟨fits, filled⟩ := pad_tableLine h plain
  refine ⟨h.length_eq, fits, fun index width text hw ht => ?_⟩
  rw [filled]
  exact take_drop_cells h hw ht

/-! ## Widths -/

/-- The largest of some numbers and a first one, as a fold finds it. -/
theorem isGreatest_foldl_max {α : Type} (size : α → Nat) (first : Nat) (items : List α) :
    IsGreatest {n | n = first ∨ ∃ item ∈ items, n = size item}
      (items.foldl (fun width item => max width (size item)) first) := by
  -- Induction on the items, for whatever number the fold begins with.
  induction items generalizing first with
  | nil =>
    refine ⟨.inl rfl, fun n hn => ?_⟩
    rcases hn with rfl | ⟨item, mem, -⟩
    · exact Nat.le_refl _
    · cases mem
  | cons item items ih =>
    obtain ⟨attained, upper⟩ := ih (max first (size item))
    have least : max first (size item) ≤ _ := upper (.inl rfl)
    refine ⟨?_, ?_⟩
    · rcases attained with begun | ⟨other, mem, eq⟩
      · rcases Nat.le_total (size item) (first) with le | le
        · exact .inl (begun.trans (Nat.max_eq_left le))
        · exact .inr ⟨item, List.mem_cons_self, begun.trans (Nat.max_eq_right le)⟩
      · exact .inr ⟨other, List.mem_cons_of_mem _ mem, eq⟩
    · rintro n (rfl | ⟨other, mem, rfl⟩)
      · exact (Nat.le_max_left _ _).trans least
      · rcases List.mem_cons.mp mem with rfl | mem
        · exact (Nat.le_max_right _ _).trans least
        · exact upper (.inr ⟨other, mem, rfl⟩)

namespace Layout

/-- The width is that of the widest text of the column, which is its label or the value of a row
on one line. -/
def IsWidth (rows : List Row) (column : Column) (width : Nat) : Prop :=
  IsGreatest {n | n = column.label.toList.length ∨
    ∃ row ∈ rows, ∃ line, Text.IsSpacedAs (cell row column) line ∧ n = line.length} width

/-- A column is as wide as its widest text. -/
theorem isWidth_columnWidth (rows : List Row) (column : Column) :
    IsWidth rows column (columnWidth rows column) := by
  have texts : {n | n = column.label.toList.length ∨
      ∃ row ∈ rows, ∃ line, Text.IsSpacedAs (cell row column) line ∧ n = line.length} =
      {n | n = column.label.toList.length ∨ ∃ row ∈ rows, n = (cellLine row column).length} := by
    ext n
    refine or_congr Iff.rfl (exists_congr fun row => and_congr_right fun _ => ?_)
    constructor
    · rintro ⟨line, spaced, rfl⟩
      rw [cellLine, Text.singleLine_eq_iff.mpr spaced]
    · rintro rfl
      exact ⟨_, Text.isSpacedAs_singleLine (cell row column), rfl⟩
  rw [IsWidth, texts]
  exact isGreatest_foldl_max _ _ rows

theorem length_cellLine_le {rows : List Row} {row : Row} (mem : row ∈ rows) (column : Column) :
    (cellLine row column).length ≤ columnWidth rows column :=
  (isGreatest_foldl_max _ _ rows).2 (.inr ⟨row, mem, rfl⟩)

theorem length_label_le (rows : List Row) (column : Column) :
    column.label.toList.length ≤ columnWidth rows column :=
  (isGreatest_foldl_max _ _ rows).2 (.inl rfl)

/-! ## The lines of a table -/

/-- A text for each of the columns fits into their widths, if each fits into that of its own. -/
theorem fits_map {columns : List Column} {rows : List Row} {text : Column → List Char}
    (h : ∀ column, (text column).length ≤ columnWidth rows column) :
    Fits (columns.map text) (columns.map (columnWidth rows)) := by
  rw [Fits, List.forall₂_map_left_iff, List.forall₂_map_right_iff, List.forall₂_same]
  intro column _
  exact h column

/-- No line of a table is broken. -/
theorem newline_notMem_tableLine {texts : List (List Char)} {widths : List Nat}
    (h : Fits texts widths) (plain : ∀ text ∈ texts, IsPlainlySpaced text) :
    '\n' ∉ tableLine texts widths := by
  intro mem
  have within : '\n' ∈ cells texts widths := by
    rw [← (pad_tableLine h plain).2]
    exact List.mem_append_left _ mem
  exact absurd (isPlainlySpaced_cells plain '\n' within (by decide)) (by decide)

/-- The labels of the columns. -/
def labels (columns : List Column) : List (List Char) :=
  columns.map fun column => column.label.toList

/-- The line with the labels. -/
def titleLine (columns : List Column) (rows : List Row) : List Char :=
  tableLine (labels columns) (columns.map (columnWidth rows))

/-- The line of a row. -/
def rowLine (columns : List Column) (rows : List Row) (row : Row) : List Char :=
  tableLine (columns.map (cellLine row)) (columns.map (columnWidth rows))

/-- The texts are the values of the row, each on one line. -/
def RowHas (columns : List Column) (row : Row) (texts : List (List Char)) : Prop :=
  List.Forall₂ (fun column text => Text.IsSpacedAs (cell row column) text) columns texts

variable {columns : List Column} {rows : List Row} {row : Row} {layout : Layout}

theorem rowHas_cellLine (columns : List Column) (row : Row) :
    RowHas columns row (columns.map (cellLine row)) := by
  rw [RowHas, List.forall₂_map_right_iff, List.forall₂_same]
  intro column _
  exact Text.isSpacedAs_singleLine (cell row column)

theorem isPlainlySpaced_of_mem_cells (row : Row) :
    ∀ text ∈ columns.map (cellLine row), IsPlainlySpaced text := by
  intro text mem c within blank
  obtain ⟨column, -, rfl⟩ := List.mem_map.mp mem
  exact Text.eq_space_of_mem_singleLine within blank

theorem isAligned_titleLine (plain : ∀ text ∈ labels columns, IsPlainlySpaced text)
    (rows : List Row) :
    IsAligned (columns.map (columnWidth rows)) (labels columns) (titleLine columns rows) :=
  isAligned_tableLine (fits_map (length_label_le rows)) plain

theorem isAligned_rowLine (columns : List Column) (mem : row ∈ rows) :
    IsAligned (columns.map (columnWidth rows)) (columns.map (cellLine row))
      (rowLine columns rows row) :=
  isAligned_tableLine (fits_map (length_cellLine_le mem)) (isPlainlySpaced_of_mem_cells row)

/-- The lines of a table: the titles, the rule and the rows. -/
def tableLines (columns : List Column) (rows : List Row) : List (List Char) :=
  titleLine columns rows :: List.replicate (titleLine columns rows).length '-' ::
    rows.map (rowLine columns rows)

theorem newline_notMem_of_mem_tableLines (plain : ∀ text ∈ labels columns, IsPlainlySpaced text) :
    ∀ line ∈ tableLines columns rows, '\n' ∉ line := by
  intro line mem
  rcases List.mem_cons.mp mem with rfl | mem
  · exact newline_notMem_tableLine (fits_map (length_label_le rows)) plain
  · rcases List.mem_cons.mp mem with rfl | mem
    · intro newline
      exact absurd (List.eq_of_mem_replicate newline) (by decide)
    · obtain ⟨row, found, rfl⟩ := List.mem_map.mp mem
      exact newline_notMem_tableLine (fits_map (length_cellLine_le found))
        (isPlainlySpaced_of_mem_cells row)

theorem renderItems_of_table (tabular : layout.strategy = .table) (colors : Bool)
    (rows : List Row) :
    layout.renderItems colors rows = .ofList (layout.bannerText colors ++
      (tableLines layout.visible rows).flatMap fun line => line ++ ['\n']) := by
  rw [renderItems, tabular]
  rfl

/-- **Tables are aligned and lose nothing.** Behind the banner there are the titles, a rule as long
as these, and one line for each row, in their order. All columns are as wide as their widest text,
the titles are the labels in these columns, and the line of a row has its values in them. -/
theorem aligns_table (tabular : layout.strategy = .table)
    (plain : ∀ column ∈ layout.visible, IsPlainlySpaced column.label.toList) (colors : Bool)
    (rows : List Row) :
    ∃ body widths titles lines,
      layout.renderItems colors rows = .ofList (layout.bannerText colors ++ body) ∧
      body.splitOn '\n' = titles :: List.replicate titles.length '-' :: lines ++ [[]] ∧
      List.Forall₂ (IsWidth rows) layout.visible widths ∧
      IsAligned widths (labels layout.visible) titles ∧
      List.Forall₂ (fun row line => ∃ texts, RowHas layout.visible row texts ∧
        IsAligned widths texts line) rows lines := by
  have plainLabels : ∀ text ∈ labels layout.visible, IsPlainlySpaced text :=
    List.forall_mem_map.mpr plain
  refine ⟨_, layout.visible.map (columnWidth rows), titleLine layout.visible rows,
    rows.map (rowLine layout.visible rows), renderItems_of_table tabular colors rows,
    Text.splitOn_lines (newline_notMem_of_mem_tableLines plainLabels), ?_,
    isAligned_titleLine plainLabels rows, ?_⟩
  · rw [List.forall₂_map_right_iff, List.forall₂_same]
    intro column _
    exact isWidth_columnWidth rows column
  · rw [List.forall₂_map_right_iff, List.forall₂_same]
    intro row mem
    exact ⟨_, rowHas_cellLine layout.visible row, isAligned_rowLine layout.visible mem⟩

/-- A value that is wider than its label makes the column wider, a value on two lines becomes one,
and a line ends behind its last value. -/
theorem aligns_table_of_wide_value :
    let layout : Layout :=
      { strategy := .table
        columns := [.ofKey "name", { key := "id", label := "System ID" },
          { key := "facts", label := "Facts", visibility := .verbose }] }
    let rows : List Row := [[("name", "web01\nweb02"), ("id", "7")], [("name", " db ")]]
    layout.strategy = .table ∧ (∀ column ∈ layout.visible, IsPlainlySpaced column.label.toList) ∧
      layout.renderItems false rows =
        "Name         System ID\n----------------------\nweb01 web02  7\ndb\n" ∧
      ∃ body widths titles lines,
        layout.renderItems false rows = .ofList (layout.bannerText false ++ body) ∧
        body.splitOn '\n' = titles :: List.replicate titles.length '-' :: lines ++ [[]] ∧
        List.Forall₂ (IsWidth rows) layout.visible widths ∧
        IsAligned widths (labels layout.visible) titles ∧
        List.Forall₂ (fun row line => ∃ texts, RowHas layout.visible row texts ∧
          IsAligned widths texts line) rows lines := by
  intro layout rows
  have plain : ∀ column ∈ layout.visible, IsPlainlySpaced column.label.toList := by
    decide +kernel
  exact ⟨rfl, plain, by decide +kernel, aligns_table rfl plain false rows⟩

end Layout

end HostConsole.Output
