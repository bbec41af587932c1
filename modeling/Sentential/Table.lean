import Sentential.Enumeration
import Sentential.Evaluation
import Sentential.Failure

/-!
# Truth tables

The truth table of a sentence has one column for each variable and one row for each assignment
to them, in the order of enumeration. A row holds the assignment and the truth value of the
sentence under it. Since the number of rows doubles with each variable, a limit on the number of
variables can be set, which is checked before any row is built. Even without one, a table whose rows
memory cannot address is refused.
-/

namespace Sentential

/-- One row: an assignment and the truth value under it. -/
structure Row where
  assignment : Assignment
  result : Bool
deriving DecidableEq

/-- The variables of a sentence and all rows, in the order of enumeration. -/
structure Table where
  names : List String
  rows : List Row
deriving DecidableEq

/-- A bound on the number of distinct variables. -/
inductive VariableLimit where
  | atMost (count : Nat)
  | unbounded
deriving DecidableEq

namespace VariableLimit

/-- The number of variables that is allowed where the caller sets no limit. -/
def standardCount : Nat := 20

/-- The limit in force where the caller sets none. -/
def standard : VariableLimit := .atMost standardCount

/-- Checks a number of variables against a limit. -/
def check (limit : VariableLimit) (count : Nat) : Except Failure Unit :=
  match limit with
  | .unbounded => .ok ()
  | .atMost most => if most < count then .error (.tooManyVariables count most) else .ok ()

end VariableLimit

namespace Table

/-- The table of a sentence, however many rows it has. -/
def ofSentence (sentence : Sentence) : Except ContractViolation Table :=
  let assignments := (Enumeration.ofNames sentence.names).toList
  let rows := assignments.mapM fun assignment =>
    (sentence.evaluate assignment).map fun result => Row.mk assignment result
  rows.map fun rows => { names := sentence.names, rows }

/-- The number of bytes that are set aside for a row. -/
def rowBytes : Nat := 48

/-- The largest number of rows whose bytes a signed number of 64 bits can count. -/
def maxRows : Nat := (2 ^ (63 : Nat) - 1) / rowBytes

/-- The table of a sentence, if memory can address its rows. Room for all rows is set aside before
the second one is built. -/
def build (sentence : Sentence) : Except ContractViolation Table :=
  if sentence.rowCount ≤ maxRows then ofSentence sentence else .error .tooManyRows

/-- The table of a sentence whose number of variables keeps within a limit. -/
def within (limit : VariableLimit) (sentence : Sentence) : Except Failure Table :=
  match limit.check sentence.names.length with
  | .error failure => .error failure
  | .ok () => (build sentence).mapError Failure.violation

/-- The table of the sentence that a text spells. -/
def ofText (limit : VariableLimit) (text : String) : Except Failure Table :=
  match Sentence.parse text with
  | .error error => .error (.malformed error)
  | .ok sentence => within limit sentence

/-- The number of rows. -/
def size (table : Table) : Nat := table.rows.length

/-- Whether there is no row. -/
def isEmpty (table : Table) : Bool := table.rows.isEmpty

/-- The results, in the order of the rows. -/
def results (table : Table) : List Bool := table.rows.map Row.result

/-- The rows whose result is true. -/
def satisfying (table : Table) : List Row := table.rows.filter Row.result

/-- The number of rows whose result is true. -/
def satisfyingCount (table : Table) : Nat := table.satisfying.length

/-- Whether every result is true. -/
def isTautology (table : Table) : Bool := table.results.all fun result => result

/-- Whether no result is true. -/
def isContradiction (table : Table) : Bool := !table.results.any fun result => result

end Table

end Sentential
