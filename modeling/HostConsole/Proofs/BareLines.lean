import HostConsole.Output.Layout
import HostConsole.Proofs.Spacing
import Mathlib.Data.List.Forall2

/-!
# Bare lines

Rows that are laid out for other tools can be read back: line feeds end the rows and tabs part the
values, and none of these characters comes from a value. A value on one line has no white space but
single spaces, so it has neither a tab nor a line feed, whatever it held before.

What is read back are the values on one line and not the values themselves. Two values with the
same words are written alike.

## Main definitions

* `RowIsIn`: a line holds the values of a row, with tabs between them

## Main results

* `rowIsIn_bareLine`: a row is read back from its line
* `Layout.reads_bareLines`: the rows are read back, and nothing else has a part in them
-/

namespace HostConsole.Output

/-- No white space but the space is in a value on one line. -/
theorem notMem_cellLine {c : Char} (blank : Text.isBlank c = true) (other : c ≠ ' ') (row : Row)
    (column : Column) : c ∉ cellLine row column :=
  fun mem => other (Text.eq_space_of_mem_singleLine mem blank)

/-! ## Rows as lines -/

/-- The line falls at its tabs into the values of the row, one for each of the columns and in
their order. Each value has the words of what the row holds there, and nothing where the row holds
nothing. -/
def RowIsIn (columns : List Column) (row : Row) (line : List Char) : Prop :=
  List.Forall₂ (fun column field => Text.IsSpacedAs (cell row column) field) columns
    (line.splitOn '\t')

/-- The values of a row, with tabs between them. -/
def bareLine (columns : List Column) (row : Row) : List Char :=
  List.intercalate ['\t'] (columns.map (cellLine row))

theorem rowIsIn_bareLine {columns : List Column} (shown : columns ≠ []) (row : Row) :
    RowIsIn columns row (bareLine columns row) := by
  have untabbed : ∀ field ∈ columns.map (cellLine row), '\t' ∉ field := by
    intro field mem
    obtain ⟨column, -, rfl⟩ := List.mem_map.mp mem
    exact notMem_cellLine (by decide) (by decide) row column
  rw [RowIsIn, bareLine, List.splitOn_intercalate '\t' untabbed (by simpa using shown),
    List.forall₂_map_right_iff, List.forall₂_same]
  intro column _
  exact Text.isSpacedAs_singleLine (cell row column)

/-- A row that is bare has no line feed. -/
theorem newline_notMem_bareLine (columns : List Column) (row : Row) :
    '\n' ∉ bareLine columns row := by
  intro mem
  rcases Text.mem_intercalate mem with tab | ⟨field, mem, inside⟩
  · exact absurd (List.mem_singleton.mp tab) (by decide)
  · obtain ⟨column, -, rfl⟩ := List.mem_map.mp mem
    exact notMem_cellLine (by decide) (by decide) row column inside

namespace Layout

variable {layout other : Layout}

theorem renderItems_of_grep (bare : layout.strategy = .grep) (colors : Bool) (rows : List Row) :
    layout.renderItems colors rows =
      .ofList ((rows.map (bareLine layout.visible)).flatMap fun line => line ++ ['\n']) := by
  rw [renderItems, bare, List.flatMap_map]
  rfl

theorem renderItem_of_grep (bare : layout.strategy = .grep) (colors : Bool) (row : Row) :
    layout.renderItem colors row = layout.renderItems colors [row] := by
  rw [renderItem, renderItems, bare]

/-- What a column is named after its key does not matter. -/
theorem bareLine_congr {columns others : List Column}
    (h : others.map Column.key = columns.map Column.key) (row : Row) :
    bareLine others row = bareLine columns row := by
  have line (columns : List Column) :
      columns.map (cellLine row) = (columns.map Column.key).map fun key =>
        Text.singleLine ((Dictionary.get? row key).getD "").toList := by
    rw [List.map_map]
    rfl
  rw [bareLine, bareLine, line, line, h]

/-- **Bare lines are read back.** Taken apart at the line feeds, the text has one line for each row,
in their order, and nothing behind the last; taken apart at the tabs, a line has the values of its
row under the columns that are shown. Only the keys of these columns have a part in the text, and a
single row is written like a list of one. -/
theorem reads_bareLines (bare : layout.strategy = .grep) (shown : layout.visible ≠ [])
    (colors : Bool) (rows : List Row) :
    (∃ lines, (layout.renderItems colors rows).toList.splitOn '\n' = lines ++ [[]] ∧
      List.Forall₂ (RowIsIn layout.visible) rows lines) ∧
    (∀ (other : Layout) (colors' : Bool), other.strategy = .grep →
      other.visible.map Column.key = layout.visible.map Column.key →
        other.renderItems colors' rows = layout.renderItems colors rows) ∧
    ∀ row, layout.renderItem colors row = layout.renderItems colors [row] := by
  refine ⟨⟨rows.map (bareLine layout.visible), ?_, ?_⟩, ?_, ?_⟩
  · rw [renderItems_of_grep bare, String.toList_ofList]
    refine Text.splitOn_lines fun line mem => ?_
    obtain ⟨row, -, rfl⟩ := List.mem_map.mp mem
    exact newline_notMem_bareLine layout.visible row
  · rw [List.forall₂_map_right_iff, List.forall₂_same]
    intro row _
    exact rowIsIn_bareLine shown row
  · intro other colors' bare' keys
    have same : bareLine other.visible = bareLine layout.visible := funext (bareLine_congr keys)
    rw [renderItems_of_grep bare, renderItems_of_grep bare', same]
  · exact renderItem_of_grep bare colors

/-- A value that has a tab, a line feed and a space that does not break comes as one field, and a
value that is not there as an empty one. -/
theorem reads_bareLines_of_broken_value :
    let layout : Layout :=
      { strategy := .grep, header := some "Systems"
        columns := [.ofKey "name", { key := "facts", label := "Facts", visibility := .verbose },
          .ofKey "release"] }
    let rows : List Row := [[("facts", "x"), ("name", " web\t01\n\u00a0b ")], [("release", "6")]]
    layout.strategy = .grep ∧ layout.visible ≠ [] ∧
      layout.renderItems true rows = "web 01 b\t\n\t6\n" ∧
      ∃ lines, (layout.renderItems true rows).toList.splitOn '\n' = lines ++ [[]] ∧
        List.Forall₂ (RowIsIn layout.visible) rows lines := by
  intro layout rows
  have shown : layout.visible ≠ [] := by decide
  exact ⟨rfl, shown, by decide +kernel, (reads_bareLines rfl shown true rows).1⟩

end Layout

end HostConsole.Output
