import Sentential.Proofs.Reading
import Sentential.Sentence

/-!
# Places have no part in reading

The reader of formulas looks at the tokens and not at the places where they stand. So if all tokens
and the end of the text are moved, reading comes to the same formula as before, or to the same
refusal, at the place to which its own place was moved.
-/

namespace Sentential

/-- The token in another place. -/
def Located.moved (move : Nat → Nat) (located : Located) : Located :=
  ⟨located.token, move located.position⟩

/-- The error reported in another place. -/
def SyntaxError.moved (move : Nat → Nat) (error : SyntaxError) : SyntaxError :=
  ⟨error.cause, move error.position⟩

/-- The outcome of reading tokens that were moved. -/
def Outcome.moved (move : Nat → Nat) : Outcome → Outcome
  | .accepted formula height unread => .accepted formula height (unread.map (Located.moved move))
  | .refused error unread => .refused (error.moved move) (unread.map (Located.moved move))

namespace Formula

variable {finish limit : Nat} (move : Nat → Nat)

/-- A finished tree is bounded by its height alone. -/
theorem bounded_moved (position : Nat) (formula : Formula) (height : Nat) (unread : List Located) :
    Outcome.bounded limit (move position) formula height (unread.map (Located.moved move))
      = (Outcome.bounded limit position formula height unread).moved move := by
  unfold Outcome.bounded
  by_cases fits : height ≤ limit
  · rw [if_pos fits, if_pos fits]
    rfl
  · rw [if_neg fits, if_neg fits]
    rfl

/-- A negation is completed alike. -/
theorem negated_moved (position : Nat) (outcome : Outcome) :
    (outcome.moved move).negated limit (move position)
      = (outcome.negated limit position).moved move := by
  cases outcome with
  | refused error unread => rfl
  | accepted inner height unread => exact bounded_moved move position (.not inner) _ unread

/-- A group is completed alike: the token after its inside is the same one. -/
theorem enclosed_moved (position : Nat) (outcome : Outcome) :
    (outcome.moved move).enclosed (move finish) limit (move position)
      = (outcome.enclosed finish limit position).moved move := by
  cases outcome with
  | refused error unread => rfl
  | accepted inner height unread =>
    rcases unread with _ | ⟨⟨token, offset⟩, further⟩
    · rfl
    · cases token with
      | closeParen => exact bounded_moved move position (.paren inner) _ further
      | openParen | identifier _ | reserved _ => rfl

section Operands

variable (operand other : List Located → Outcome)
  (alike : ∀ tokens, other (tokens.map (Located.moved move)) = (operand tokens).moved move)

include alike

/-- A chain goes on alike after each operand. -/
theorem chain_moved (left : Formula) (height : Nat) (tokens : List Located) :
    chain limit other left height (tokens.map (Located.moved move))
      = (chain limit operand left height tokens).moved move := by
  fun_induction chain limit operand left height tokens with
  | case1 left height connective position rest error unread refused =>
    rw [List.map_cons, Located.moved, chain, alike, refused]
    rfl
  | case2 left height connective position rest right rightHeight unread accepted fits
      inductionHypothesis =>
    rw [List.map_cons, Located.moved, chain, alike, accepted]
    exact (dif_pos fits).trans inductionHypothesis
  | case3 left height connective position rest right rightHeight unread accepted exceeds =>
    rw [List.map_cons, Located.moved, chain, alike, accepted]
    exact dif_neg exceeds
  | case4 left height tokens noConnective =>
    apply chain_of_connectiveNext
    rcases tokens with _ | ⟨⟨token, position⟩, rest⟩
    · rfl
    · cases token with
      | openParen | closeParen | identifier _ => rfl
      | reserved keyword =>
        cases keyword with
        | not => rfl
        | binary connective => exact absurd rfl (noConnective connective position rest)

/-- An expression is read alike. -/
theorem expression_moved (tokens : List Located) :
    expression limit other (tokens.map (Located.moved move))
      = (expression limit operand tokens).moved move := by
  unfold expression
  rw [alike]
  cases operand tokens with
  | refused error unread => rfl
  | accepted left height unread => exact chain_moved move operand other alike left height unread

end Operands

/-- An operand is read alike, whatever levels may still be entered. -/
theorem operand_moved (finish limit levels : Nat) (tokens : List Located) :
    operand (move finish) limit levels (tokens.map (Located.moved move))
      = (operand finish limit levels tokens).moved move := by
  induction levels, tokens using operand_induction with
  | ended levels => rw [List.map_nil, operand, operand]; rfl
  | name levels name position rest
  | connective levels connective position rest
  | closing levels position rest
  | lastNegation position rest
  | lastGroup position rest =>
    rw [List.map_cons, Located.moved, operand, operand]
    rfl
  | negation levels position rest inductionHypothesis =>
    rw [List.map_cons, Located.moved, operand, operand, inductionHypothesis]
    exact negated_moved move position _
  | group levels position rest inductionHypothesis =>
    rw [List.map_cons, Located.moved, operand, operand,
      expression_moved move _ _ inductionHypothesis]
    exact enclosed_moved move position _

end Formula

/-- Tokens that were moved are the same sentence, or are refused alike at the moved place. -/
theorem Sentence.ofTokens_moved (move : Nat → Nat) (finish : Nat) (tokens : List Located) :
    ofTokens (move finish) (tokens.map (Located.moved move))
      = (ofTokens finish tokens).mapError (SyntaxError.moved move) := by
  cases tokens with
  | nil => rfl
  | cons first rest =>
    have alike : Formula.read (move finish) maxHeight ((first :: rest).map (Located.moved move))
        = (Formula.read finish maxHeight (first :: rest)).moved move :=
      Formula.expression_moved move _ _ (Formula.operand_moved move finish maxHeight maxHeight) _
    rw [List.map_cons] at alike ⊢
    rw [ofTokens, ofTokens, alike]
    cases Formula.read finish maxHeight (first :: rest) with
    | refused error unread => rfl
    | accepted formula height unread =>
      rcases unread with _ | ⟨⟨token, position⟩, further⟩
      · rfl
      · cases token with
        | openParen | closeParen | identifier _ | reserved _ => rfl

end Sentential
