import Strongbox.Text.Width

/-!
# Tables for people

A table is drawn in a frame, with its columns side by side and a double line under its header.  A
cell with several lines makes its row as high.
-/

namespace Strongbox.Text

/-- A table of text.  Rows may differ in length. -/
structure Table where
  header : Option (List String)
  rows : List (List String)

namespace Table

/-- The lines of a cell. -/
def cellLines (cell : String) : List String :=
  let (current, done) := cell.toList.foldr
    (fun c (current, done) =>
      if c = '\n' then ([], String.ofList current :: done) else (c :: current, done))
    ([], [])
  String.ofList current :: done

/-- All rows, the header first. -/
def allRows (t : Table) : List (List String) :=
  t.header.toList ++ t.rows

/-- The width of a cell. -/
def cellWidth (cell : String) : Nat :=
  ((cellLines cell).map displayWidth).foldl max 0

/-- The widths of the columns of some rows.  No column is narrower than one character. -/
def columnWidths (rows : List (List String)) : List Nat :=
  let columns := (rows.map List.length).foldl max 0
  (List.range columns).map fun i =>
    (rows.map fun row => cellWidth ((row[i]?).getD "")).foldl max 1

/-- A text with blanks around it and up to the width of its column. -/
def padded (width : Nat) (line : String) : String :=
  " " ++ line ++ String.ofList (List.replicate (width - displayWidth line) ' ') ++ " "

/-- The lines that a row is drawn with. -/
def rowLines (widths : List Nat) (row : List String) : List String :=
  let cells := widths.zipIdx.map fun (width, i) =>
    (width, match row[i]? with
      | some cell => cellLines cell
      | none => [""])
  let height := (cells.map fun (_, lines) => lines.length).foldl max 0
  (List.range height).map fun n =>
    "│" ++ " ".intercalate (cells.map fun (width, lines) => padded width ((lines[n]?).getD ""))
      ++ "│"

/-- A horizontal line across all columns. -/
def rule (widths : List Nat) (left line right : Char) : String :=
  let inner := widths.foldl (fun total width => total + width + 2) 0 + (widths.length - 1)
  String.ofList (left :: List.replicate inner line ++ [right])

/-- The table as text. -/
def render (t : Table) : String :=
  let widths := columnWidths t.allRows
  let headerLines := match t.header with
    | some header => rowLines widths header ++ [rule widths '╞' '═' '╡']
    | none => []
  "\n".intercalate
    (rule widths '┌' '─' '┐' :: headerLines ++ t.rows.flatMap (rowLines widths)
      ++ [rule widths '└' '─' '┘'])

end Table

end Strongbox.Text
