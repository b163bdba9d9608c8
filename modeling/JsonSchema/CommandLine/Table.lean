import JsonSchema.Text.Digits
import JsonSchema.Unicode.Width

/-!
# Tables of text

A table is drawn with box characters: a frame, a double line under the head and dashed lines between rows
and columns.  A column is as wide as its widest line, with a blank on either side.
-/

set_option autoImplicit false

namespace JsonSchema.CommandLine

/-- The lines of a cell. -/
def cellLines (cell : String) : List String := (splitAtChar '\n' cell.toList).map String.ofList

def cellWidth (cell : String) : Nat :=
  ((cellLines cell).map Unicode.textWidth).foldl max 0

/-- The width of each column of rows that are equally long. -/
def columnWidths (head : List String) (rows : List (List String)) : List Nat :=
  rows.foldl (fun widths row => List.zipWith max widths (row.map cellWidth)) (head.map cellWidth)

/-- A horizontal line: its ends, what it crosses columns with, and what it is made of. -/
def rule (left line cross right : Char) (widths : List Nat) : String :=
  let spans := widths.map fun w => String.ofList (List.replicate (w + 2) line)
  String.singleton left ++ (String.singleton cross).intercalate spans ++ String.singleton right

/-- A line of a cell, filled up to the width of its column. -/
def paddedLine (width : Nat) (line : String) : String :=
  " " ++ line ++ String.ofList (List.replicate (width - Unicode.textWidth line) ' ') ++ " "

/-- The lines of a row; shorter cells are filled up below. -/
def rowLines (widths : List Nat) (row : List String) : List String :=
  let cells := row.map cellLines
  let height := (cells.map List.length).foldl max 0
  (List.range height).map fun i =>
    "│" ++ "┆".intercalate (List.zipWith (fun width lines => paddedLine width (lines[i]?.getD "")) widths cells)
      ++ "│"

/-- The rows with dashed lines between them. -/
def bodyLines (widths : List Nat) (rows : List (List String)) : List String :=
  List.flatten ((rows.map (rowLines widths)).intersperse [rule '├' '╌' '┼' '┤' widths])

/-- The lines of a table with a head. -/
def tableLines (head : List String) (rows : List (List String)) : List String :=
  let widths := columnWidths head rows
  [rule '┌' '─' '┬' '┐' widths] ++ rowLines widths head ++ [rule '╞' '═' '╪' '╡' widths] ++
    bodyLines widths rows ++ [rule '└' '─' '┴' '┘' widths]

end JsonSchema.CommandLine
