import HostConsole.Dictionary
import HostConsole.Text.Blank
import HostConsole.Text.Lines
import HostConsole.Text.Style
import HostConsole.Output.Label

/-!
# Layouts

Rows of values are laid out under columns in one of three ways: as a table, as records with one
line for each column, or as bare lines for other tools to read.

## Main definitions

* `Strategy`: the three ways
* `Column`, `Show`: a column, and where it is shown
* `Layout`: columns with a header, laid out in one of the ways
* `Layout.renderItems`, `Layout.renderItem`: the text of some rows, and of a single one
-/

namespace HostConsole.Output

/-- A row: its values by the keys of the columns. -/
abbrev Row := Dictionary String

/-- The ways to lay rows out. -/
inductive Strategy where
  /-- Aligned columns under their labels. -/
  | table
  /-- One block for each row, one line for each column. -/
  | verbose
  /-- One line for each row, tabs between the values. -/
  | grep
  deriving DecidableEq, Repr

/-- The way that the two switches ask for; bare lines win. -/
def Strategy.ofSwitches (verbose grep : Bool) : Strategy :=
  if grep then .grep else if verbose then .verbose else .table

/-- The name of a way. -/
def Strategy.name : Strategy → String
  | .table => "Table"
  | .verbose => "Verbose"
  | .grep => "Grep"

/-- In which ways a column is shown. -/
inductive Show where
  | always
  /-- In records only. -/
  | verbose
  /-- In tables and bare lines only. -/
  | compact
  deriving DecidableEq, Repr

/-- A column of a layout. -/
structure Column where
  key : String
  label : String
  visibility : Show := .always
  deriving DecidableEq, Repr

/-- A column that is named after its key. -/
def Column.ofKey (key : String) : Column :=
  { key, label := defaultLabel key }

/-- Columns under a header, laid out in one of the ways. -/
structure Layout where
  strategy : Strategy
  header : Option String := none
  columns : List Column := []
  deriving DecidableEq, Repr

namespace Layout

/-- The layout in another way, unless bare lines were asked for. -/
def prefer (layout : Layout) (strategy : Strategy) : Layout :=
  if layout.strategy = .grep then layout else { layout with strategy }

/-- Is the column shown in this layout? -/
def shows (layout : Layout) (column : Column) : Bool :=
  match column.visibility with
  | .always => true
  | .verbose => layout.strategy == .verbose
  | .compact => layout.strategy != .verbose

/-- The columns that are shown. -/
def visible (layout : Layout) : List Column :=
  layout.columns.filter layout.shows

end Layout

/-- The value of a row in a column, empty where the row has none. -/
def cell (row : Row) (column : Column) : List Char :=
  ((Dictionary.get? row column.key).getD "").toList

/-- The value of a row in a column, on one line. -/
def cellLine (row : Row) (column : Column) : List Char :=
  Text.singleLine (cell row column)

/-- A text filled up with spaces to a width, however large it is. Formatters that keep a width in
sixteen bits refuse one above 65535, which is assumed away here. -/
def pad (width : Nat) (cs : List Char) : List Char :=
  cs ++ List.replicate (width - cs.length) ' '

/-- The width of a banner. -/
def bannerWidth : Nat := 72

/-- Rules above and below a header that stands in the middle between them. -/
def banner (colors : Bool) (header : String) : List Char :=
  let rule := List.replicate bannerWidth '-'
  let margin := (bannerWidth - header.toList.length) / 2
  rule ++ '\n' :: List.replicate margin ' ' ++ (Text.paint colors .bold header).toList ++
    '\n' :: rule ++ ['\n', '\n']

namespace Layout

/-- The banner of the header, nothing without a header. -/
def bannerText (layout : Layout) (colors : Bool) : List Char :=
  match layout.header with
  | some header => banner colors header
  | none => []

/-- The width of a column: of its label or of its widest value. -/
def columnWidth (rows : List Row) (column : Column) : Nat :=
  rows.foldl (fun width row => max width (cellLine row column).length) column.label.toList.length

/-- Texts in columns of the given widths, two spaces apart, without the spaces at the end. -/
def tableLine (texts : List (List Char)) (widths : List Nat) : List Char :=
  Text.trimEnd (List.intercalate [' ', ' '] (List.zipWith (fun cs w => pad w cs) texts widths))

/-- Rows as a table. -/
def renderTable (layout : Layout) (colors : Bool) (rows : List Row) : List Char :=
  let columns := layout.visible
  let widths := columns.map (columnWidth rows)
  let titles := tableLine (columns.map fun c => c.label.toList) widths
  let rule := List.replicate titles.length '-'
  let lines := rows.map fun row => tableLine (columns.map (cellLine row)) widths
  layout.bannerText colors ++ (titles :: rule :: lines).flatMap fun line => line ++ ['\n']

/-- The lines of one column of a record, whose values begin behind `width` characters and a
space. -/
def recordLines (width : Nat) (row : Row) (column : Column) : List (List Char) :=
  let label := column.label.toList ++ [':']
  let values := Text.lines (cell row column)
  Text.trimEnd (pad width label ++ ' ' :: values.headD []) ::
    values.tail.map fun line => List.replicate width ' ' ++ ' ' :: line

/-- The width of the labels of a record, each with its colon. -/
def labelWidth (columns : List Column) : Nat :=
  columns.foldl (fun width c => max width (c.label.toList.length + 1)) 0

/-- Rows as records, an empty line behind each. -/
def renderRecords (layout : Layout) (colors : Bool) (rows : List Row) : List Char :=
  let columns := layout.visible
  let width := labelWidth columns
  let block := fun row => columns.flatMap (recordLines width row) ++ [[]]
  layout.bannerText colors ++ (rows.flatMap block).flatMap fun line => line ++ ['\n']

/-- Rows as bare lines. -/
def renderGrep (layout : Layout) (rows : List Row) : List Char :=
  rows.flatMap fun row =>
    List.intercalate ['\t'] (layout.visible.map (cellLine row)) ++ ['\n']

/-- The text of some rows. -/
def renderItems (layout : Layout) (colors : Bool) (rows : List Row) : String :=
  .ofList <| match layout.strategy with
    | .table => layout.renderTable colors rows
    | .verbose => layout.renderRecords colors rows
    | .grep => layout.renderGrep rows

/-- The text of a single row: a record, unless bare lines were asked for. -/
def renderItem (layout : Layout) (colors : Bool) (row : Row) : String :=
  .ofList <| match layout.strategy with
    | .table | .verbose => layout.renderRecords colors [row]
    | .grep => layout.renderGrep [row]

end Layout

end HostConsole.Output
