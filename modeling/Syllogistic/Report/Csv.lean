/-!
# Comma-separated lines

A cell is quoted when it holds a separator, a quote or a line break, and a quote
inside it is written twice. Lines end in a line feed. The reader at the end of
this file knows nothing of what was written: it takes any text apart into lines
of cells.
-/

namespace Syllogistic.Csv

/-- Whether a character can only stand in a quoted cell. -/
def needsQuotes (c : Char) : Bool :=
  c == ',' || c == '"' || c == '\n' || c == '\r'

/-- The characters of a cell inside quotes. -/
def doubled (cell : List Char) : List Char :=
  cell.flatMap fun c => if c = '"' then ['"', '"'] else [c]

/-- The written form of a cell. -/
def cell (text : List Char) : List Char :=
  if text.any needsQuotes then '"' :: doubled text ++ ['"'] else text

/-- The written form of a cell's text. -/
def escape (text : String) : String :=
  String.ofList (cell text.toList)

/-- The written form of cells with commas between them. -/
def cells : List String → List Char
  | [] => []
  | [last] => cell last.toList
  | first :: rest => cell first.toList ++ ',' :: cells rest

/-- The written form of a line. -/
def line (texts : List String) : List Char :=
  cells texts ++ ['\n']

/-- The written form of a table. -/
def table (rows : List (List String)) : String :=
  String.ofList (rows.flatMap line)

/-! ## Reading

The reader is between cells, inside a plain cell, inside quotes, or behind a
quote that either ends the quotes or is the first of two. -/

/-- Where a reader of a table is. -/
inductive Place where
  | start
  | plain
  | quoted
  | afterQuote
  deriving DecidableEq, Repr

/-- Reads a table. `cell` and `row` hold what is read of the current cell and of
the current row, the last first. A quote inside a plain cell, text behind closed
quotes, and quotes that are never closed are refused. -/
def readFrom (place : Place) (cell : List Char) (row : List String) :
    List Char → Option (List (List String))
  | [] =>
    match place with
    | .start => if row.isEmpty then some [] else some [(String.ofList cell.reverse :: row).reverse]
    | .quoted => none
    | .plain | .afterQuote => some [(String.ofList cell.reverse :: row).reverse]
  | c :: rest =>
    let endCell := String.ofList cell.reverse :: row
    match place with
    | .quoted =>
      if c = '"' then readFrom .afterQuote cell row rest else readFrom .quoted (c :: cell) row rest
    | .start | .plain | .afterQuote =>
      if c = ',' then readFrom .start [] endCell rest
      else if c = '\n' then (readFrom .start [] [] rest).map (endCell.reverse :: ·)
      else if c = '"' then
        match place with
        | .start => readFrom .quoted [] row rest
        | .afterQuote => readFrom .quoted ('"' :: cell) row rest
        | _ => none
      else
        match place with
        | .afterQuote => none
        | _ => readFrom .plain (c :: cell) row rest

/-- The rows of a table, if the text is one. -/
def read (text : String) : Option (List (List String)) :=
  readFrom .start [] [] text.toList

end Syllogistic.Csv
