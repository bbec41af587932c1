import Sentential.CommandLine.Report

/-!
# The command line

The program prints the truth table of one expression. Its arguments are

    [--max-vars N] [--unbounded] [--only-true] [-v]... [--] EXPRESSION

Options may stand before and after the expression, and `--` ends them, so that an expression may
begin with a hyphen. Each is given at most once, apart from `-v`, or `--verbose`, which is counted,
also where several are joined in one argument as in `-vv`. The options that set a limit on the
number of variables exclude each other. A call for help or for the version is answered at once. If
the arguments are at fault, the exit code is 2.

This is one way to read arguments. Nothing that is said of reports depends on it.
-/

namespace Sentential

namespace CommandLine

/-- What is wrong with the arguments. -/
inductive UsageError where
  | missingExpression
  | surplusArgument (argument : String)
  | unknownOption (argument : String)
  | repeatedOption (option : String)
  | missingLimit
  | invalidLimit (value : String)
  | contradictoryLimits
deriving DecidableEq

/-- The message of a usage error. -/
def UsageError.message : UsageError → String
  | .missingExpression => "the expression is missing"
  | .surplusArgument argument => "unexpected argument '" ++ argument ++ "'"
  | .unknownOption argument => "unknown option '" ++ argument ++ "'"
  | .repeatedOption option => "the option '" ++ option ++ "' is given more than once"
  | .missingLimit => "a number is missing after '--max-vars'"
  | .invalidLimit value => "'" ++ value ++ "' is not a number of variables"
  | .contradictoryLimits => "'--unbounded' and '--max-vars' exclude each other"

/-- The answer to arguments that are at fault. -/
def UsageError.stop (error : UsageError) : Stop := ⟨2, [], some error.message⟩

/-- The answer to a call for help. -/
def helpStop : Stop :=
  ⟨0, ["truth-table [--max-vars N] [--unbounded] [--only-true] [-v]... [--] EXPRESSION"], none⟩

/-- The answer to a call for the version. -/
def versionStop : Stop := ⟨0, ["truth-table 0.1.0"], none⟩

/-- A number in decimal digits, possibly after a plus sign, if it is at most `largestCount`. -/
def readCount? (text : String) : Option Nat :=
  let digits := match text.toList with
    | '+' :: digits => digits
    | digits => digits
  if digits.isEmpty || !digits.all Char.isDigit then none
  else
    let number := Nat.ofDigitChars 10 digits 0
    if number ≤ largestCount then some number else none

/-- What an argument is by its text alone. -/
inductive Argument where
  | plain (text : String)
  | separator
  | limit (value : Option String)
  | unbounded
  | onlyTrue
  | verbose (times : Nat)
  | help
  | version
  | unknown (text : String)
deriving DecidableEq

/-- Tells what letters behind a single hyphen ask for. Those that count come first; the first other
letter decides. -/
def Argument.ofLetters (text : String) (letters : List Char) : Argument :=
  match letters.dropWhile fun letter => letter == 'v' with
  | [] => .verbose letters.length
  | 'h' :: _ => .help
  | 'V' :: _ => .version
  | _ => .unknown text

/-- Tells what an argument is. A lone hyphen may be an expression; anything else that begins with
one is an option. A limit may be joined to its option by an equals sign. -/
def Argument.ofString (text : String) : Argument :=
  if text.toList.head? ≠ some '-' ∨ text = "-" then .plain text
  else if text = "--" then .separator
  else if text = "--max-vars" then .limit none
  else if text = "--unbounded" then .unbounded
  else if text = "--only-true" then .onlyTrue
  else if text = "--verbose" then .verbose 1
  else if text = "--help" then .help
  else if text = "--version" then .version
  else
    let option := "--max-vars=".toList
    match text.toList with
    | '-' :: '-' :: _ =>
      if option.isPrefixOf text.toList then
        .limit (some (String.ofList (text.toList.drop option.length)))
      else .unknown text
    | letters => .ofLetters text letters.tail

/-- What the arguments read so far say. -/
structure Arguments where
  expression : Option String
  mostVariables : Option Nat
  unbounded : Bool
  onlyTrue : Bool
  verbosity : Nat
deriving DecidableEq

namespace Arguments

/-- Nothing has been read. -/
def empty : Arguments :=
  { expression := none, mostVariables := none, unbounded := false, onlyTrue := false,
    verbosity := 0 }

/-- Takes an argument as the expression. There is only one. -/
def withExpression (arguments : Arguments) (expression : String) : Except Stop Arguments :=
  match arguments.expression with
  | some _ => .error (UsageError.surplusArgument expression).stop
  | none => .ok { arguments with expression := some expression }

/-- Takes a value as the limit on the number of variables. -/
def withLimit (arguments : Arguments) (value : String) : Except Stop Arguments :=
  match arguments.mostVariables with
  | some _ => .error (UsageError.repeatedOption "--max-vars").stop
  | none =>
    match readCount? value with
    | none => .error (UsageError.invalidLimit value).stop
    | some most => .ok { arguments with mostVariables := some most }

/-- Takes an argument that stands by itself. -/
def withArgument (arguments : Arguments) : Argument → Except Stop Arguments
  | .plain expression => arguments.withExpression expression
  | .separator => .ok arguments
  | .limit (some value) => arguments.withLimit value
  | .limit none => .error UsageError.missingLimit.stop
  | .unbounded =>
    if arguments.unbounded then .error (UsageError.repeatedOption "--unbounded").stop
    else .ok { arguments with unbounded := true }
  | .onlyTrue =>
    if arguments.onlyTrue then .error (UsageError.repeatedOption "--only-true").stop
    else .ok { arguments with onlyTrue := true }
  | .verbose times => .ok { arguments with verbosity := arguments.verbosity + times }
  | .help => .error helpStop
  | .version => .error versionStop
  | .unknown text => .error (UsageError.unknownOption text).stop

/-- Takes all arguments, from the left. An option for the limit takes the argument after it as its
value, and what follows the separator is no option. -/
def withAll (arguments : Arguments) : List String → Except Stop Arguments
  | [] => .ok arguments
  | text :: rest =>
    match Argument.ofString text with
    | .separator => rest.foldlM withExpression arguments
    | .limit none =>
      match rest with
      | [] => .error UsageError.missingLimit.stop
      | value :: rest => do
        let arguments ← arguments.withLimit value
        withAll arguments rest
    | argument => do
      let arguments ← arguments.withArgument argument
      withAll arguments rest

/-- What the complete arguments ask for. -/
def options (arguments : Arguments) : Except Stop Options :=
  match arguments.expression with
  | none => .error UsageError.missingExpression.stop
  | some expression =>
    if arguments.unbounded ∧ arguments.mostVariables.isSome then
      .error UsageError.contradictoryLimits.stop
    else
      .ok {
        expression
        mostVariables := arguments.mostVariables
        unbounded := arguments.unbounded
        onlyTrue := arguments.onlyTrue
        verbosity := arguments.verbosity }

end Arguments

/-- What the arguments of a call ask for. -/
def readArguments (arguments : List String) : Except Stop Options := do
  let read ← Arguments.empty.withAll arguments
  read.options

/-- The report on a call with the given arguments, if the table took the time `elapsed`. -/
def run (arguments : List String) (elapsed : String) : Report :=
  program readArguments arguments elapsed

/-- What does not begin with a hyphen is an expression. -/
theorem Argument.ofString_eq_plain {text : String} (noHyphen : text.toList.head? ≠ some '-') :
    Argument.ofString text = .plain text := if_pos (.inl noHyphen)

/-- An expression alone asks for the whole of its table within the standard limit. -/
theorem readArguments_alone {expression : String}
    (noHyphen : expression.toList.head? ≠ some '-') :
    readArguments [expression] = .ok ⟨expression, none, false, false, 0⟩ := by
  simp [readArguments, Arguments.withAll, Argument.ofString_eq_plain noHyphen,
    Arguments.withArgument, Arguments.withExpression, Arguments.empty, Arguments.options, bind,
    Except.bind]

/-- The option for the true rows asks for these alone. -/
theorem readArguments_onlyTrue {expression : String}
    (noHyphen : expression.toList.head? ≠ some '-') :
    readArguments ["--only-true", expression] = .ok ⟨expression, none, false, true, 0⟩ := by
  have option : Argument.ofString "--only-true" = .onlyTrue := by decide +kernel
  simp [readArguments, Arguments.withAll, option, Argument.ofString_eq_plain noHyphen,
    Arguments.withArgument, Arguments.withExpression, Arguments.empty, Arguments.options, bind,
    Except.bind]

end CommandLine

end Sentential
