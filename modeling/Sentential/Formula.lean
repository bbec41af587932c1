import Sentential.Keyword

/-!
# Formulas

A formula is a variable, a negation, two formulas joined by a connective, or a formula in
parentheses. Parentheses are kept as nodes of their own, so a formula records how it was grouped.

The text of a formula puts every connective between square brackets. The brackets show how the
operands are grouped even where the formula has no parentheses.
-/

namespace Sentential

/-- A propositional formula. -/
inductive Formula where
  | var (name : String)
  | not (operand : Formula)
  | binary (connective : Connective) (left right : Formula)
  | paren (inner : Formula)
deriving DecidableEq

namespace Formula

/-- The text of a formula, with each connective and its operands between square brackets. -/
def text : Formula → String
  | .var name => name
  | .not operand => "not " ++ operand.text
  | .binary connective left right =>
    "[" ++ left.text ++ " " ++ connective.word ++ " " ++ right.text ++ "]"
  | .paren inner => "(" ++ inner.text ++ ")"

/-- The number of nodes, parentheses included. -/
def size : Formula → Nat
  | .var _ => 1
  | .not operand => 1 + operand.size
  | .binary _ left right => 1 + left.size + right.size
  | .paren inner => 1 + inner.size

/-- The number of nodes on the longest way from the root to a variable. -/
def height : Formula → Nat
  | .var _ => 1
  | .not operand => 1 + operand.height
  | .binary _ left right => 1 + max left.height right.height
  | .paren inner => 1 + inner.height

/-- The names in `seen` followed by the names of the formula that are not yet among them, in the
order in which they first occur from left to right. -/
def collect (seen : List String) : Formula → List String
  | .var name => if name ∈ seen then seen else seen ++ [name]
  | .not operand => operand.collect seen
  | .binary _ left right => right.collect (left.collect seen)
  | .paren inner => inner.collect seen

/-- The distinct names of the formula's variables, in the order of their first occurrence. -/
def names (formula : Formula) : List String := formula.collect []

end Formula

end Sentential
