import Sentential.CommandLine
import Sentential.CommandLine.Seconds

/-!
# The program

Reads the arguments, measures the time taken to build the table, and prints the report: its lines
and the records of the log to standard output, and its complaint, if there is one, to standard
error.
-/

namespace Sentential.CommandLine

/-- A record of the log, with its detail in front. -/
def setOut (event : Event) : String :=
  match event.detail with
  | .debug => "[DEBUG] " ++ event.message
  | .trace => "[TRACE] " ++ event.message

/-- Builds the table that is asked for and reports on it with the time this took. -/
def Options.execute (options : Options) : IO Report := do
  let started ← IO.monoNanosNow
  let finding ← IO.lazyPure fun _ => options.finding
  let finished ← IO.monoNanosNow
  return options.reportOn (seconds (thousandths (inSeconds (finished - started)))) finding

end Sentential.CommandLine

open Sentential in
/-- The entry point. -/
def main (arguments : List String) : IO UInt32 := do
  let report ←
    match CommandLine.readArguments arguments with
    | .error stop => pure stop.report
    | .ok options => options.execute
  IO.print (report.printed CommandLine.setOut)
  if let some complaint := report.complaint then
    IO.eprintln complaint
  return report.exitCode.toUInt32
