import Sentential.CommandLine.Options
import Sentential.Table.Layout

/-!
# Reports

A call that asks for the table of an expression is answered by lines of text, with the records of
the log in between if they were asked for. The first two lines describe the expression and are
printed even if there is no table. The last lines count the rows that satisfy the expression and say
whether these are all rows or none.

The exit code is 0 if the table was printed, 1 if the expression is malformed or has too many
variables, and 101 after a breach of contract, such as a table too large for memory or a column too
wide to be printed.

How the arguments of a call are read, and how a record of the log is set on a line, is not laid down
here: a reader makes options of the arguments, or it stops the program with an answer of its own.
-/

namespace Sentential

namespace CommandLine

/-- What a call leads to: no sentence, a sentence without a table, or a table. -/
inductive Finding where
  | malformed (error : SyntaxError)
  | untabulated (sentence : Sentence) (failure : Failure)
  | tabulated (sentence : Sentence) (table : Table)
deriving DecidableEq

/-- Reads an expression and builds its table within a limit. -/
def Finding.ofText (limit : VariableLimit) (expression : String) : Finding :=
  match Sentence.parse expression with
  | .error error => .malformed error
  | .ok sentence =>
    match Table.within limit sentence with
    | .error failure => .untabulated sentence failure
    | .ok table => .tabulated sentence table

/-- A line of the report, or a record of the log. -/
inductive Output where
  | line (text : String)
  | record (event : Event)
deriving DecidableEq

/-- What the program leaves behind: its exit code, what it printed in complete lines, the beginning
of a line that it did not finish, and a complaint. -/
structure Report where
  exitCode : Nat
  output : List Output
  unfinished : String
  complaint : Option String
deriving DecidableEq

namespace Output

/-- What is printed on a line, if `setOut` sets a record of the log on one. -/
def text (setOut : Event → String) : Output → String
  | .line text => text
  | .record event => setOut event

/-- The line of a report. -/
def line? : Output → Option String
  | .line text => some text
  | .record _ => none

/-- The record of the log. -/
def record? : Output → Option Event
  | .line _ => none
  | .record event => some event

/-- The lines of a report alone. -/
def linesOf (output : List Output) : List String := output.filterMap line?

/-- The records of the log alone. -/
def recordsOf (output : List Output) : List Event := output.filterMap record?

@[simp] theorem linesOf_append (front back : List Output) :
    linesOf (front ++ back) = linesOf front ++ linesOf back := List.filterMap_append

@[simp] theorem recordsOf_append (front back : List Output) :
    recordsOf (front ++ back) = recordsOf front ++ recordsOf back := List.filterMap_append

@[simp] theorem linesOf_lines (lines : List String) : linesOf (lines.map line) = lines := by
  simp [linesOf, List.filterMap_map, Function.comp_def, line?]

@[simp] theorem recordsOf_lines (lines : List String) : recordsOf (lines.map line) = [] := by
  simp [recordsOf, List.filterMap_map, Function.comp_def, record?]

@[simp] theorem linesOf_records (events : List Event) : linesOf (events.map record) = [] := by
  simp [linesOf, List.filterMap_map, Function.comp_def, line?]

@[simp] theorem recordsOf_records (events : List Event) :
    recordsOf (events.map record) = events := by
  simp [recordsOf, List.filterMap_map, Function.comp_def, record?]

/-- Without records among the output, nothing is printed but the lines of the report. -/
theorem map_text (setOut : Event → String) (output : List Output) (quiet : recordsOf output = []) :
    output.map (text setOut) = linesOf output := by
  induction output with
  | nil => rfl
  | cons first later inductionHypothesis =>
    cases first with
    | line text => exact congrArg (text :: ·) (inductionHypothesis quiet)
    | record event => exact absurd quiet (List.cons_ne_nil _ _)

end Output

namespace Report

/-- The lines of the report without the records of the log. -/
def lines (report : Report) : List String := Output.linesOf report.output

/-- The records of the log that are among the output. -/
def records (report : Report) : List Event := Output.recordsOf report.output

/-- The text of the report without the log. -/
def text (report : Report) : String := Text.ofLines report.lines ++ report.unfinished

/-- All that is printed, if `setOut` sets a record of the log on a line. -/
def printed (setOut : Event → String) (report : Report) : String :=
  Text.ofLines (report.output.map (Output.text setOut)) ++ report.unfinished

/-- Without records among the output, the text of the report is all that is printed. -/
theorem printed_eq_text {report : Report} (quiet : report.records = [])
    (setOut : Event → String) : report.printed setOut = report.text := by
  rw [printed, Output.map_text setOut report.output quiet, text, lines]

end Report

/-- The exit code after a failure. -/
def failureCode : Failure → Nat
  | .malformed _ => 1
  | .tooManyVariables _ _ => 1
  | .violation _ => 101

/-- The lines that describe a sentence. -/
def description (sentence : Sentence) : List String :=
  ["expr = " ++ sentence.formula.text ++ " (size " ++ toString sentence.formula.size
      ++ ", depth " ++ toString sentence.formula.height ++ ")",
    "rows = " ++ toString sentence.rowCount]

/-- The names and the assignments of the true rows, each on a line. -/
def trueRows (table : Table) : List String :=
  " ".intercalate table.names :: table.satisfying.map fun row => row.assignment.text

/-- The line that counts the true rows; `elapsed` is the time spent, in seconds. -/
def summary (elapsed : String) (table : Table) : String :=
  toString table.satisfyingCount ++ " of " ++ toString table.size
    ++ " rows satisfy the expression (" ++ elapsed ++ " s)"

/-- The line for a table whose results are all the same; no line for any other. -/
def verdict (table : Table) : List String :=
  if table.isTautology then ["The expression is a tautology"]
  else if table.isContradiction then ["The expression is a contradiction"]
  else []

namespace Options

/-- Records of events, as far as they are shown. -/
def log (options : Options) (events : List Event) : List Output :=
  (options.shown events).map Output.record

/-- What is printed of an expression that is accepted, before its table is built. -/
def opening (options : Options) (sentence : Sentence) : List Output :=
  options.log (Event.ofTokens options.expression
      ++ [.sentenceParsed options.expression sentence])
    ++ (description sentence).map Output.line

/-- The report on a table that is shown by the given lines. They stand between the description of
the sentence and the count of its true rows. -/
def tableReport (options : Options) (elapsed : String) (sentence : Sentence) (table : Table)
    (shown : List String) : Report :=
  { exitCode := 0
    output := options.opening sentence ++ options.log (Event.ofTable sentence table)
      ++ (shown ++ summary elapsed table :: verdict table).map Output.line
    unfinished := ""
    complaint := none }

/-- The report on a finding. If only the true rows are wanted, no columns are printed, and their
width does not matter. -/
def reportOn (options : Options) (elapsed : String) : Finding → Report
  | .malformed error =>
    { exitCode := failureCode (.malformed error)
      output := options.log (Event.ofTokens options.expression)
      unfinished := ""
      complaint := some error.message }
  | .untabulated sentence failure =>
    { exitCode := failureCode failure
      output := options.opening sentence ++ options.log (Event.ofFailure sentence failure)
      unfinished := ""
      complaint := some failure.message }
  | .tabulated sentence table =>
    if options.onlyTrue then options.tableReport elapsed sentence table (trueRows table)
    else
      match table.text with
      | .ok _ => options.tableReport elapsed sentence table table.lines
      | .error breach =>
        { exitCode := failureCode (.violation breach)
          output := options.opening sentence ++ options.log (Event.ofTable sentence table)
          unfinished := table.brokenHeader
          complaint := some breach.message }

/-- What the options lead to. -/
def finding (options : Options) : Finding := Finding.ofText options.limit options.expression

/-- The report that is asked for, if the table took the time `elapsed`. -/
def report (options : Options) (elapsed : String) : Report :=
  options.reportOn elapsed options.finding

end Options

/-- The answer with which a reader of arguments stops the program. -/
structure Stop where
  exitCode : Nat
  lines : List String
  complaint : Option String
deriving DecidableEq

/-- The report of a program that was stopped. -/
def Stop.report (stop : Stop) : Report :=
  { exitCode := stop.exitCode
    output := stop.lines.map Output.line
    unfinished := ""
    complaint := stop.complaint }

/-- The report on a call with the given arguments, as `read` reads them, if the table took the time
`elapsed`. -/
def program (read : List String → Except Stop Options) (arguments : List String)
    (elapsed : String) : Report :=
  match read arguments with
  | .error stop => stop.report
  | .ok options => options.report elapsed

end CommandLine

end Sentential
