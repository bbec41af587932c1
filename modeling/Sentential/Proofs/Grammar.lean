import Sentential.Formula.Reader

/-!
# The grammar of formulas

Every formula is written by one sequence of tokens. Only parentheses that are nodes of the formula
are written; how a chain of connectives is grouped is not, so different formulas may be written
alike. The canonical formulas are those whose chains are grouped from the left: what a negation
applies to, and what stands to the right of a connective, is never a bare chain.

A formula may also be found at the front of a longer sequence. The relation `Spelled` keeps the
tokens that are left over, and has one rule for each kind of node.
-/

namespace Sentential.Formula

/-- The tokens that a formula is written with. -/
def tokens : Formula → List Token
  | .var name => [.identifier name]
  | .not operand => .reserved .not :: operand.tokens
  | .binary connective left right =>
    left.tokens ++ .reserved (.binary connective) :: right.tokens
  | .paren inner => .openParen :: (inner.tokens ++ [.closeParen])

/-- True at the formulas that can stand as an operand without being grouped otherwise. -/
def isOperand : Formula → Bool
  | .var _ | .not _ | .paren _ => true
  | .binary _ _ _ => false

/-- True at the formulas whose chains of connectives are all grouped from the left. -/
def isCanonical : Formula → Bool
  | .var _ => true
  | .not operand => operand.isOperand && operand.isCanonical
  | .binary _ left right => left.isCanonical && (right.isOperand && right.isCanonical)
  | .paren inner => inner.isCanonical

/-- `Spelled formula tokens unread`: the formula is written by the tokens that stand before
`unread` in `tokens`, wherever in the text they are. -/
inductive Spelled : Formula → List Located → List Located → Prop where
  | var {name : String} {position : Nat} {unread : List Located} :
      Spelled (.var name) (⟨.identifier name, position⟩ :: unread) unread
  | not {operand : Formula} {position : Nat} {rest unread : List Located}
      (inner : Spelled operand rest unread) :
      Spelled (.not operand) (⟨.reserved .not, position⟩ :: rest) unread
  | binary {connective : Connective} {left right : Formula} {position : Nat}
      {tokens rest unread : List Located}
      (before : Spelled left tokens (⟨.reserved (.binary connective), position⟩ :: rest))
      (after : Spelled right rest unread) :
      Spelled (.binary connective left right) tokens unread
  | paren {formula : Formula} {position closing : Nat} {rest unread : List Located}
      (inner : Spelled formula rest (⟨.closeParen, closing⟩ :: unread)) :
      Spelled (.paren formula) (⟨.openParen, position⟩ :: rest) unread

/-- The tokens of a formula, at any places, spell it before whatever follows them. -/
theorem spelled_append (formula : Formula) (read unread : List Located)
    (written : read.map Located.token = formula.tokens) :
    formula.Spelled (read ++ unread) unread := by
  induction formula generalizing read unread with
  | var name =>
    obtain ⟨⟨token, position⟩, rfl, same⟩ := List.map_eq_singleton_iff.mp written
    subst same
    exact .var
  | not operand inductionHypothesis =>
    obtain ⟨⟨token, position⟩, rest, rfl, same, inner⟩ := List.map_eq_cons_iff.mp written
    subst same
    exact .not (inductionHypothesis rest unread inner)
  | binary connective left right leftHypothesis rightHypothesis =>
    obtain ⟨before, others, rfl, leftWritten, othersWritten⟩ := List.map_eq_append_iff.mp written
    obtain ⟨⟨token, position⟩, after, rfl, same, rightWritten⟩ :=
      List.map_eq_cons_iff.mp othersWritten
    subst same
    rw [List.append_assoc]
    exact .binary (leftHypothesis before _ leftWritten) (rightHypothesis after unread rightWritten)
  | paren inner inductionHypothesis =>
    obtain ⟨⟨token, position⟩, others, rfl, same, othersWritten⟩ := List.map_eq_cons_iff.mp written
    subst same
    obtain ⟨rest, closing, rfl, innerWritten, closed⟩ := List.map_eq_append_iff.mp othersWritten
    obtain ⟨⟨token, offset⟩, rfl, same⟩ := List.map_eq_singleton_iff.mp closed
    subst same
    rw [List.cons_append, List.append_assoc]
    exact .paren (inductionHypothesis rest _ innerWritten)

/-- What is spelled is written by exactly the tokens that are no longer left over. -/
theorem Spelled.exists_read {formula : Formula} {tokens unread : List Located}
    (spelled : formula.Spelled tokens unread) :
    ∃ read, tokens = read ++ unread ∧ read.map Located.token = formula.tokens := by
  induction spelled with
  | @var name position unread => exact ⟨[⟨.identifier name, position⟩], rfl, rfl⟩
  | @not operand position rest unread inner inductionHypothesis =>
    obtain ⟨read, rfl, written⟩ := inductionHypothesis
    exact ⟨⟨.reserved .not, position⟩ :: read, rfl, by simp [Formula.tokens, written]⟩
  | @binary connective left right position tokens rest unread before after leftHypothesis
      rightHypothesis =>
    obtain ⟨leftRead, rfl, leftWritten⟩ := leftHypothesis
    obtain ⟨rightRead, rfl, rightWritten⟩ := rightHypothesis
    refine ⟨leftRead ++ ⟨.reserved (.binary connective), position⟩ :: rightRead, by simp, ?_⟩
    simp [Formula.tokens, leftWritten, rightWritten]
  | @paren formula position closing rest unread inner inductionHypothesis =>
    obtain ⟨read, rfl, written⟩ := inductionHypothesis
    refine ⟨⟨.openParen, position⟩ :: (read ++ [⟨.closeParen, closing⟩]), by simp, ?_⟩
    simp [Formula.tokens, written]

/-- A whole sequence spells a formula exactly if it consists of the formula's tokens. -/
theorem spelled_nil_iff (formula : Formula) (tokens : List Located) :
    formula.Spelled tokens [] ↔ tokens.map Located.token = formula.tokens := by
  constructor
  · intro spelled
    obtain ⟨read, rfl, written⟩ := spelled.exists_read
    rwa [List.append_nil]
  · intro written
    have spelled := spelled_append formula tokens [] written
    rwa [List.append_nil] at spelled

/-- No formula is without tokens, and each level of its tree needs one of its own. -/
theorem height_le_length_tokens (formula : Formula) : formula.height ≤ formula.tokens.length := by
  induction formula with
  | var name => exact Nat.le_refl 1
  | not operand inductionHypothesis =>
    simp only [height, tokens, List.length_cons]
    omega
  | binary connective left right leftHypothesis rightHypothesis =>
    simp only [height, tokens, List.length_append, List.length_cons]
    omega
  | paren inner inductionHypothesis =>
    simp only [height, tokens, List.length_cons, List.length_append, List.length_nil]
    omega

/-- The tokens that a formula takes are at least as many as its tree is high. -/
theorem Spelled.height_le {formula : Formula} {tokens unread : List Located}
    (spelled : formula.Spelled tokens unread) :
    formula.height + unread.length ≤ tokens.length := by
  obtain ⟨read, rfl, written⟩ := spelled.exists_read
  have enough := height_le_length_tokens formula
  rw [← written, List.length_map] at enough
  rw [List.length_append]
  omega

end Sentential.Formula
