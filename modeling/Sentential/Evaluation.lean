import Sentential.Assignment
import Sentential.Sentence

/-!
# Evaluating formulas

A formula has a truth value under every assignment that knows its variables. Both operands of a
connective are always evaluated, the left one first, even if one of them decides the result. So
an unknown variable is never passed over, and the one reported is the first from the left.

There are two ways to ask: `value?` has no value if a variable is unknown, and `evaluate` treats
an unknown variable as a breach of contract and names it.
-/

namespace Sentential

namespace Formula

/-- The truth value under a valuation of all names. Each connective has a case of its own, which
says what the connective means without the function that evaluation applies. -/
def meaning (valuation : String → Bool) : Formula → Bool
  | .var name => valuation name
  | .not operand => !operand.meaning valuation
  | .binary .and left right => left.meaning valuation && right.meaning valuation
  | .binary .or left right => left.meaning valuation || right.meaning valuation
  | .binary .xor left right => left.meaning valuation != right.meaning valuation
  | .paren inner => inner.meaning valuation

/-- The truth value under an assignment, if it knows all variables of the formula. -/
def value? (assignment : Assignment) : Formula → Option Bool
  | .var name => assignment.value? name
  | .not operand => (operand.value? assignment).map fun value => !value
  | .binary connective left right =>
    match left.value? assignment with
    | none => none
    | some leftValue =>
      match right.value? assignment with
      | none => none
      | some rightValue => some (connective.apply leftValue rightValue)
  | .paren inner => inner.value? assignment

/-- The truth value under an assignment that has to know all variables of the formula. -/
def evaluate (assignment : Assignment) : Formula → Except ContractViolation Bool
  | .var name =>
    match assignment.value? name with
    | none => .error (.missingVariable name)
    | some value => .ok value
  | .not operand => (operand.evaluate assignment).map fun value => !value
  | .binary connective left right =>
    match left.evaluate assignment with
    | .error violation => .error violation
    | .ok leftValue =>
      match right.evaluate assignment with
      | .error violation => .error violation
      | .ok rightValue => .ok (connective.apply leftValue rightValue)
  | .paren inner => inner.evaluate assignment

/-- What evaluation applies to the values of the operands is what the connective means. -/
theorem meaning_binary (valuation : String → Bool) (connective : Connective)
    (left right : Formula) :
    (binary connective left right).meaning valuation
      = connective.apply (left.meaning valuation) (right.meaning valuation) := by
  cases connective with
  | and => rfl
  | or => rfl
  | xor => rfl

end Formula

/-- The truth value of a sentence under an assignment that has to know all its variables. -/
def Sentence.evaluate (assignment : Assignment) (sentence : Sentence) :
    Except ContractViolation Bool :=
  sentence.formula.evaluate assignment

end Sentential
