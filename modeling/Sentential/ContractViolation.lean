/-!
# Breaches of contract

Some operations rely on a promise of their caller: an assignment has one value for each name, an
index lies within the number of assignments, every variable that is evaluated has a value, a table
has no more rows than memory can address, and no column of a printed table is wider than a line of
print allows. A broken promise is no fault of the text. It stops the operation and is reported as
what it is, never replaced by a default value.
-/

namespace Sentential

/-- A promise that a caller did not keep. -/
inductive ContractViolation where
  /-- The numbers of names and of values differ. -/
  | misaligned (names values : Nat)
  /-- There is no assignment with this index to this number of names. -/
  | indexOutOfRange (index names : Nat)
  /-- A variable is evaluated that the assignment does not know. -/
  | missingVariable (name : String)
  /-- A table is built that has more rows than memory can address. -/
  | tooManyRows
  /-- A table is printed that has a column wider than the widest one allowed. -/
  | columnTooWide
deriving DecidableEq

/-- The message that states which promise was broken. -/
def ContractViolation.message : ContractViolation → String
  | .misaligned names values =>
    "assertion `left == right` failed: Assignment must have exactly one value per variable\n"
      ++ "  left: " ++ toString names ++ "\n right: " ++ toString values
  | .indexOutOfRange index names =>
    "Index " ++ toString index ++ " is out of range for " ++ toString names ++ " variables"
  | .missingVariable name => "Variable '" ++ name ++ "' is not in the assignment"
  | .tooManyRows => "capacity overflow"
  | .columnTooWide => "Formatting argument out of range"

end Sentential
