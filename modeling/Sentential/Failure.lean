import Sentential.ContractViolation
import Sentential.SyntaxError

/-!
# Why there is no truth table

A text has no truth table if it is malformed, or if it has more distinct variables than the
caller allows. A breach of contract is carried through as well: there may be more rows than memory
can address.
-/

namespace Sentential

/-- The reason why no truth table was built. -/
inductive Failure where
  | malformed (error : SyntaxError)
  | tooManyVariables (count limit : Nat)
  | violation (breach : ContractViolation)
deriving DecidableEq

namespace Failure

/-- The message of a failure. -/
def message : Failure → String
  | .malformed error => error.message
  | .tooManyVariables count limit =>
    "expression has " ++ toString count ++ " distinct variables, but at most "
      ++ toString limit ++ " are allowed"
  | .violation breach => breach.message

/-- The message of the error that a failure goes back to, if it goes back to one. -/
def source? : Failure → Option String
  | .malformed error => some error.message
  | .tooManyVariables _ _ => none
  | .violation _ => none

end Failure

end Sentential
