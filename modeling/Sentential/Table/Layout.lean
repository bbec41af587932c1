import Sentential.Table
import Sentential.Text.Lines

/-!
# The printed form of a table

A table is printed as one line of names and one line for each row. A column is as wide as its
name, counted in characters, and at least wide enough for one letter; a space separates it from
the next. Truth values are the letters T and F, at the left of their columns. A bar stands before
the results. Every line ends with a newline.

The width of a column is a number of 16 bits. A table with a longer name cannot be printed: the
line of names breaks off before that name, and what stands before it is all that appears.
-/

namespace Sentential

namespace Table

/-- A text followed by as many spaces as it lacks to be `width` characters long. -/
def padded (width : Nat) (text : String) : String :=
  text ++ String.ofList (List.replicate (width - text.length) ' ')

/-- Cells, each with a space after it. -/
def cells (texts : List String) : String := String.join (texts.map (· ++ " "))

/-- The line of names. -/
def header (table : Table) : String := cells table.names ++ "| result"

/-- The line of a row, for columns of the given widths. -/
def rowLine (widths : List Nat) (row : Row) : String :=
  let letters := List.zipWith (fun value width => padded width (truthLetter value))
    row.assignment.values widths
  cells letters ++ "| " ++ truthLetter row.result

/-- All lines: the names, then the rows. -/
def lines (table : Table) : List String :=
  table.header :: table.rows.map (rowLine (table.names.map String.length))

/-- The largest width of a column. -/
def maxWidth : Nat := 2 ^ (16 : Nat) - 1

/-- Whether a column can be as wide as its name. -/
def fits (name : String) : Bool := name.length ≤ maxWidth

/-- The printed form, unless some column is too wide. -/
def text (table : Table) : Except ContractViolation String :=
  if table.names.all fits then .ok (Text.ofLines table.lines) else .error .columnTooWide

/-- What appears of a table that has a column too wide: the names before the first such column,
on a line that is not ended. -/
def brokenHeader (table : Table) : String := cells (table.names.takeWhile fits)

end Table

end Sentential
