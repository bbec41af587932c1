import Sentential.Event

/-!
# Options

A call gives one expression. It may allow another number of variables than the standard one, or any
number; ask for the true rows only; and ask for the log, once for its coarser records and more often
for all of them.
-/

namespace Sentential

namespace CommandLine

/-- What a call asks for. -/
structure Options where
  /-- The expression, as it was given. -/
  expression : String
  /-- The number of variables that is allowed, if it was given. -/
  mostVariables : Option Nat
  /-- Whether any number of variables is allowed. -/
  unbounded : Bool
  /-- Whether only the true rows are to be shown. -/
  onlyTrue : Bool
  /-- How often the log was asked for. -/
  verbosity : Nat
deriving DecidableEq

/-- Whether a record of this detail is shown if the log was asked for so many times. -/
def showsDetail : (verbosity : Nat) → Detail → Bool
  | 0, _ => false
  | 1, .debug => true
  | 1, .trace => false
  | _ + 2, _ => true

namespace Options

/-- The limit in force: there is none if any number of variables is allowed, whatever other number
was given. -/
def limit (options : Options) : VariableLimit :=
  if options.unbounded then .unbounded
  else .atMost (options.mostVariables.getD VariableLimit.standardCount)

/-- Those of some events that are shown. -/
def shown (options : Options) (events : List Event) : List Event :=
  events.filter fun event => showsDetail options.verbosity event.detail

@[simp] theorem shown_append (options : Options) (front back : List Event) :
    options.shown (front ++ back) = options.shown front ++ options.shown back :=
  List.filter_append front back

end Options

end CommandLine

end Sentential
