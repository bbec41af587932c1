import Sentential.Formula
import Sentential.Token.Lexer

/-!
# Reading a formula from tokens

A formula is a chain of operands joined by connectives. All connectives share one level of
precedence and are grouped from the left. An operand is a variable, the negation of an operand,
or a formula in parentheses, so a negation applies to the operand directly after it.

The height of the tree is bounded by a limit. The bound is kept in two ways. Negations and open
parentheses are counted while they are entered: a level beyond the limit is refused before
anything inside it is read, so the depth of the recursion never exceeds the limit, however long
or malformed the text. And every finished tree is refused if it is too high, at the token of its
root.
-/

namespace Sentential

/-- What a step of reading comes to. Both outcomes keep the tokens not yet read. An accepted
formula is given with its height. -/
inductive Outcome where
  | accepted (formula : Formula) (height : Nat) (unread : List Located)
  | refused (error : SyntaxError) (unread : List Located)
deriving DecidableEq

namespace Outcome

/-- Accepts a formula unless it is higher than `limit`; `position` is the place of its root. -/
def bounded (limit position : Nat) (formula : Formula) (height : Nat) (unread : List Located) :
    Outcome :=
  if height ≤ limit then .accepted formula height unread
  else .refused ⟨.tooDeep, position⟩ unread

/-- Completes the negation at `position`, given what reading its operand came to. -/
def negated (limit position : Nat) : Outcome → Outcome
  | .refused error unread => .refused error unread
  | .accepted inner height unread => bounded limit position (.not inner) (height + 1) unread

/-- Completes the parenthesis opened at `position`, given what reading its inside came to: the
next token has to close it. -/
def enclosed (finish limit position : Nat) : Outcome → Outcome
  | .refused error unread => .refused error unread
  | .accepted _ _ [] => .refused ⟨.unclosedParen, finish⟩ []
  | .accepted inner height (⟨.closeParen, _⟩ :: unread) =>
    bounded limit position (.paren inner) (height + 1) unread
  | .accepted _ _ (⟨token, offset⟩ :: unread) =>
    .refused ⟨.unexpectedToken token.text, offset⟩ unread

end Outcome

namespace Formula

/-- Extends the formula `left`, of the given height, by the connectives and operands that follow.
Each one makes the tree higher, so the limit on the height also bounds the chain. A tree that
becomes too high is noticed after its right operand, and reported at its connective. -/
def chain (limit : Nat) (operand : List Located → Outcome) (left : Formula) (height : Nat) :
    List Located → Outcome
  | ⟨.reserved (.binary connective), position⟩ :: rest =>
    match operand rest with
    | .refused error unread => .refused error unread
    | .accepted right rightHeight unread =>
      if fits : 1 + max height rightHeight ≤ limit then
        chain limit operand (.binary connective left right) (1 + max height rightHeight) unread
      else .refused ⟨.tooDeep, position⟩ unread
  | tokens => .accepted left height tokens
termination_by limit - height

/-- Reads a chain of operands, each by `operand`. -/
def expression (limit : Nat) (operand : List Located → Outcome) (tokens : List Located) : Outcome :=
  match operand tokens with
  | .refused error unread => .refused error unread
  | .accepted left height unread => chain limit operand left height unread

/-- Reads one operand from the tokens of a text of `finish` bytes. At most `levels` further
negations and parentheses may be entered. -/
def operand (finish limit : Nat) : (levels : Nat) → List Located → Outcome
  | _, [] => .refused ⟨.missingOperand, finish⟩ []
  | _, ⟨.identifier name, _⟩ :: rest => .accepted (.var name) 1 rest
  | _, ⟨.reserved (.binary connective), position⟩ :: rest =>
    .refused ⟨.reservedWord (.binary connective), position⟩ rest
  | _, ⟨.closeParen, position⟩ :: rest => .refused ⟨.unmatchedParen, position⟩ rest
  | 0, ⟨.reserved .not, position⟩ :: rest => .refused ⟨.tooDeep, position⟩ rest
  | 0, ⟨.openParen, position⟩ :: rest => .refused ⟨.tooDeep, position⟩ rest
  | levels + 1, ⟨.reserved .not, position⟩ :: rest =>
    (operand finish limit levels rest).negated limit position
  | levels + 1, ⟨.openParen, position⟩ :: rest =>
    (expression limit (operand finish limit levels) rest).enclosed finish limit position

/-- Reads a formula from the tokens of a text of `finish` bytes. The formula may be `limit` high,
and as many negations and parentheses may be open at a time. -/
def read (finish limit : Nat) (tokens : List Located) : Outcome :=
  expression limit (operand finish limit limit) tokens

end Formula

end Sentential
