import Sentential.Proofs.Parsing

/-!
# The first token that cannot stand where it is

A sequence of tokens can be checked without building a formula. It is enough to know whether an
operand is due or something that follows one, and how many parentheses are open. Each token either
moves this state or cannot stand where it is, and the end of the text is judged by the state that
was reached.

The reader of formulas gives the same verdict: the same cause at the same place for a malformed
text, and acceptance otherwise. It differs only where it refuses a formula as too deep, which no
text of at most `maxHeight` tokens brings about.
-/

namespace Sentential.Viability

open Formula

/-- What is due next: an operand, or a connective or closing parenthesis that follows one. -/
inductive Due where
  | operand
  | connective
deriving DecidableEq

/-- What is due next and how many parentheses are open. -/
structure State where
  due : Due
  pending : Nat
deriving DecidableEq

/-- The state at the beginning of a text. -/
def State.initial : State := ⟨.operand, 0⟩

/-- The state after a token, or why the token cannot stand in its place. -/
def step (state : State) (located : Located) : Except SyntaxError State :=
  match state.due, located.token with
  | .operand, .identifier _ => .ok ⟨.connective, state.pending⟩
  | .operand, .reserved .not => .ok state
  | .operand, .openParen => .ok ⟨.operand, state.pending + 1⟩
  | .operand, .closeParen => .error ⟨.unmatchedParen, located.position⟩
  | .operand, .reserved (.binary connective) =>
    .error ⟨.reservedWord (.binary connective), located.position⟩
  | .connective, .reserved (.binary _) => .ok ⟨.operand, state.pending⟩
  | .connective, .closeParen =>
    match state.pending with
    | 0 => .error ⟨.unmatchedParen, located.position⟩
    | outer + 1 => .ok ⟨.connective, outer⟩
  | .connective, token => .error ⟨.unexpectedToken token.text, located.position⟩

/-- What the end of a text of `finish` bytes comes to in a state. -/
def ended (finish : Nat) : State → Except SyntaxError Unit
  | ⟨.operand, _⟩ => .error ⟨.missingOperand, finish⟩
  | ⟨.connective, 0⟩ => .ok ()
  | ⟨.connective, _ + 1⟩ => .error ⟨.unclosedParen, finish⟩

/-- What the tokens to the end of a text of `finish` bytes come to from a state on. -/
def verdict (finish : Nat) (state : State) : List Located → Except SyntaxError Unit
  | [] => ended finish state
  | located :: rest =>
    match step state located with
    | .error error => .error error
    | .ok next => verdict finish next rest

/-- What reading has to come to if the scan is in `state` before `tokens`: an accepted formula takes
the scan to the state after an operand, with as many parentheses open as before, and a refusal is
the verdict of the scan, unless a formula was too deep. -/
def Agrees (finish : Nat) (state : State) (tokens : List Located) : Outcome → Prop
  | .accepted _ _ unread =>
    verdict finish state tokens = verdict finish ⟨.connective, state.pending⟩ unread
  | .refused error _ => error.cause = .tooDeep ∨ verdict finish state tokens = .error error

variable {finish limit : Nat}

/-- What the scan has passed on the way, with as many parentheses open, makes no difference. -/
theorem Agrees.of_moved {state next : State} {tokens rest : List Located} {outcome : Outcome}
    (moved : verdict finish state tokens = verdict finish next rest)
    (same : next.pending = state.pending)
    (agrees : Agrees finish next rest outcome) : Agrees finish state tokens outcome := by
  cases outcome with
  | accepted formula height unread =>
    have further : verdict finish next rest = verdict finish ⟨.connective, next.pending⟩ unread :=
      agrees
    rw [same] at further
    exact moved.trans further
  | refused error unread =>
    rcases agrees with deep | refused
    · exact .inl deep
    · exact .inr (moved.trans refused)

/-- A bound on the height adds no refusal but for the height. -/
theorem bounded_agrees {state : State} {tokens unread : List Located} (position : Nat)
    (formula : Formula) (height : Nat)
    (moved : verdict finish state tokens = verdict finish ⟨.connective, state.pending⟩ unread) :
    Agrees finish state tokens (Outcome.bounded limit position formula height unread) := by
  unfold Outcome.bounded
  split
  · exact moved
  · exact .inl rfl

/-- A negation leaves an operand due, with the same parentheses open. -/
theorem negated_agrees {pending : Nat} {rest : List Located} {outcome : Outcome} (position : Nat)
    (agrees : Agrees finish ⟨.operand, pending⟩ rest outcome) :
    Agrees finish ⟨.operand, pending⟩ (⟨.reserved .not, position⟩ :: rest)
      (outcome.negated limit position) := by
  cases outcome with
  | refused error unread => exact agrees
  | accepted inner height unread => exact bounded_agrees position (.not inner) _ agrees

/-- What follows the inside of a parenthesis is judged alike: there only a closing parenthesis can
stand, since a connective would have been read. -/
theorem enclosed_agrees {pending : Nat} {rest : List Located} {outcome : Outcome} (position : Nat)
    (agrees : Agrees finish ⟨.operand, pending + 1⟩ rest outcome)
    (last : ∀ formula height unread, outcome = .accepted formula height unread →
      connectiveNext unread = false) :
    Agrees finish ⟨.operand, pending⟩ (⟨.openParen, position⟩ :: rest)
      (outcome.enclosed finish limit position) := by
  cases outcome with
  | refused error unread => exact agrees
  | accepted inner height unread =>
    have stopped := last inner height unread rfl
    match unread with
    | [] => exact .inr agrees
    | ⟨.closeParen, _⟩ :: further => exact bounded_agrees position (.paren inner) _ agrees
    | ⟨.openParen, _⟩ :: _ => exact .inr agrees
    | ⟨.identifier _, _⟩ :: _ => exact .inr agrees
    | ⟨.reserved .not, _⟩ :: _ => exact .inr agrees
    | ⟨.reserved (.binary _), _⟩ :: _ => exact absurd stopped Bool.noConfusion

/-- Along a chain each connective makes an operand due, and each operand makes another connective
possible. -/
theorem chain_agrees (operand : List Located → Outcome) (pending : Nat)
    (agrees : ∀ tokens, Agrees finish ⟨.operand, pending⟩ tokens (operand tokens))
    (left : Formula) (height : Nat) (tokens : List Located) :
    Agrees finish ⟨.connective, pending⟩ tokens (chain limit operand left height tokens) := by
  fun_induction chain limit operand left height tokens with
  | case1 left height connective position rest error unread refused =>
    have after := agrees rest
    rw [refused] at after
    exact after
  | case2 left height connective position rest right rightHeight unread accepted fits
      inductionHypothesis =>
    have after := agrees rest
    rw [accepted] at after
    exact inductionHypothesis.of_moved after rfl
  | case3 left height connective position rest right rightHeight unread accepted exceeds =>
    exact .inl rfl
  | case4 left height tokens noConnective => exact rfl

/-- An expression begins where an operand is due. -/
theorem expression_agrees (operand : List Located → Outcome) (pending : Nat)
    (agrees : ∀ tokens, Agrees finish ⟨.operand, pending⟩ tokens (operand tokens))
    (tokens : List Located) :
    Agrees finish ⟨.operand, pending⟩ tokens (expression limit operand tokens) := by
  have begun := agrees tokens
  unfold expression
  cases first : operand tokens with
  | refused error unread =>
    rw [first] at begun
    exact begun
  | accepted left height unread =>
    rw [first] at begun
    have moved : verdict finish ⟨.operand, pending⟩ tokens
        = verdict finish ⟨.connective, pending⟩ unread := begun
    exact (chain_agrees operand pending agrees left height unread).of_moved moved rfl

/-- Wherever an operand is due, reading one agrees with the scan, however many parentheses are open
and however many may still be entered. -/
theorem operand_agrees (finish limit levels : Nat) (tokens : List Located) (pending : Nat) :
    Agrees finish ⟨.operand, pending⟩ tokens (operand finish limit levels tokens) := by
  induction levels, tokens using operand_induction generalizing pending with
  | ended levels | connective levels connective position rest | closing levels position rest =>
    rw [operand]
    exact .inr rfl
  | lastNegation position rest | lastGroup position rest =>
    rw [operand]
    exact .inl rfl
  | name levels name position rest =>
    rw [operand]
    exact rfl
  | negation levels position rest inductionHypothesis =>
    rw [operand]
    exact negated_agrees position (inductionHypothesis rest pending)
  | group levels position rest inductionHypothesis =>
    rw [operand]
    refine enclosed_agrees position (expression_agrees _ (pending + 1)
      (fun tokens => inductionHypothesis tokens (pending + 1)) rest) ?_
    intro formula height unread reading
    exact connectiveNext_of_expression _ _ _ _ _ reading

/-- A refusal as too deep needs more tokens than there are levels that may still be entered. -/
def NeedsTokens (levels : Nat) (tokens : List Located) : Outcome → Prop
  | .accepted _ _ _ => True
  | .refused error _ => error.cause = .tooDeep → levels < tokens.length

/-- A tree that takes as many tokens as it is high is refused only if those exceed the limit. -/
theorem bounded_needsTokens {levels : Nat} {tokens : List Located} (within : levels ≤ limit)
    (position : Nat) (formula : Formula) (height : Nat) (unread : List Located)
    (taken : height ≤ tokens.length) :
    NeedsTokens levels tokens (Outcome.bounded limit position formula height unread) := by
  unfold Outcome.bounded
  split
  · trivial
  · intro _
    omega

/-- A negation takes a token of its own for the level that it enters. -/
theorem negated_needsTokens {levels : Nat} {rest : List Located} {outcome : Outcome}
    (within : levels + 1 ≤ limit) (position : Nat) (needs : NeedsTokens levels rest outcome)
    (taken : ∀ formula height unread, outcome = .accepted formula height unread →
      height + unread.length ≤ rest.length) :
    NeedsTokens (levels + 1) (⟨.reserved .not, position⟩ :: rest)
      (outcome.negated limit position) := by
  cases outcome with
  | refused error unread => exact fun deep => Nat.succ_lt_succ (needs deep)
  | accepted inner height unread =>
    have bound := taken inner height unread rfl
    exact bounded_needsTokens within _ _ _ _ (by rw [List.length_cons]; omega)

/-- So does a parenthesis. -/
theorem enclosed_needsTokens {levels : Nat} {rest : List Located} {outcome : Outcome}
    (within : levels + 1 ≤ limit) (position : Nat) (needs : NeedsTokens levels rest outcome)
    (taken : ∀ formula height unread, outcome = .accepted formula height unread →
      height + unread.length ≤ rest.length) :
    NeedsTokens (levels + 1) (⟨.openParen, position⟩ :: rest)
      (outcome.enclosed finish limit position) := by
  unfold Outcome.enclosed
  split
  · exact fun deep => Nat.succ_lt_succ (needs deep)
  · exact fun deep => absurd deep SyntaxError.Cause.noConfusion
  · rename_i inner height closing unread
    have bound := taken inner height _ rfl
    exact bounded_needsTokens within _ _ _ _ (by rw [List.length_cons]; omega)
  · exact fun deep => absurd deep SyntaxError.Cause.noConfusion

section Operands

variable (operand : List Located → Outcome) {levels : Nat} (within : levels ≤ limit)
  (sound : ∀ tokens formula height unread, operand tokens = .accepted formula height unread →
    formula.isOperand = true ∧ Reads limit tokens formula height unread)
  (needs : ∀ tokens, NeedsTokens levels tokens (operand tokens))

include within sound needs

/-- A chain has a token for every level that it adds to the formula it began with. -/
theorem chain_needsTokens (start : List Located) (left : Formula) (height : Nat)
    (tokens : List Located) (before : height + tokens.length ≤ start.length) :
    NeedsTokens levels start (chain limit operand left height tokens) := by
  fun_induction chain limit operand left height tokens with
  | case1 left height connective position rest error unread refused =>
    have inside := needs rest
    rw [refused] at inside
    intro deep
    have enough := inside deep
    rw [List.length_cons] at before
    omega
  | case2 left height connective position rest right rightHeight unread accepted fits
      inductionHypothesis =>
    have taken := (sound _ _ _ _ accepted).2.height_le
    rw [List.length_cons] at before
    exact inductionHypothesis (by omega)
  | case3 left height connective position rest right rightHeight unread accepted exceeds =>
    have taken := (sound _ _ _ _ accepted).2.height_le
    rw [List.length_cons] at before
    intro _
    omega
  | case4 left height tokens noConnective => trivial

/-- An expression is refused as too deep only if more tokens are left than levels. -/
theorem expression_needsTokens (tokens : List Located) :
    NeedsTokens levels tokens (expression limit operand tokens) := by
  have begun := needs tokens
  unfold expression
  cases first : operand tokens with
  | refused error unread =>
    rw [first] at begun
    exact begun
  | accepted left height unread =>
    exact chain_needsTokens operand within sound needs tokens left height unread
      (sound _ _ _ _ first).2.height_le

end Operands

/-- An operand is refused as too deep only if more tokens are left than levels. -/
theorem operand_needsTokens (finish : Nat) (positive : 0 < limit) (levels : Nat)
    (within : levels ≤ limit) (tokens : List Located) :
    NeedsTokens levels tokens (operand finish limit levels tokens) := by
  induction levels, tokens using operand_induction with
  | ended levels | connective levels connective position rest | closing levels position rest =>
    rw [operand]
    exact fun deep => absurd deep SyntaxError.Cause.noConfusion
  | lastNegation position rest | lastGroup position rest =>
    rw [operand]
    exact fun _ => Nat.succ_pos rest.length
  | name levels name position rest =>
    rw [operand]
    trivial
  | negation levels position rest inductionHypothesis =>
    rw [operand]
    refine negated_needsTokens within position (inductionHypothesis rest (by omega)) ?_
    intro formula height unread accepted
    exact (operand_sound finish positive _ _ _ _ _ accepted).2.height_le
  | group levels position rest inductionHypothesis =>
    rw [operand]
    have sound := operand_sound finish positive levels
    refine enclosed_needsTokens within position (expression_needsTokens _ (by omega) sound
      (fun tokens => inductionHypothesis tokens (by omega)) rest) ?_
    intro formula height unread accepted
    exact (expression_sound _ sound _ _ _ _ accepted).height_le

/-- A sequence of tokens is a sentence or is refused just as the scan has it, unless a formula in it
is too deep. What is left over after a formula is judged with no parenthesis open. -/
theorem ofTokens_agrees (finish : Nat) (tokens : List Located) (present : tokens ≠ []) :
    (∃ position, Sentence.ofTokens finish tokens = .error ⟨.tooDeep, position⟩) ∨
      (Sentence.ofTokens finish tokens).map (fun _ => ()) = verdict finish .initial tokens := by
  have agrees : Agrees finish .initial tokens (Formula.read finish maxHeight tokens) :=
    expression_agrees _ 0 (fun tokens => operand_agrees finish maxHeight maxHeight tokens 0) tokens
  match tokens with
  | [] => exact absurd rfl present
  | first :: rest =>
    rw [Sentence.ofTokens]
    cases reading : Formula.read finish maxHeight (first :: rest) with
    | refused error unread =>
      rw [reading] at agrees
      rcases agrees with deep | refused
      · refine .inl ⟨error.position, ?_⟩
        rw [← deep]
      · exact .inr refused.symm
    | accepted formula height unread =>
      rw [reading] at agrees
      have last := connectiveNext_of_expression _ _ _ _ _ reading
      have moved : verdict finish .initial (first :: rest) = verdict finish ⟨.connective, 0⟩ unread :=
        agrees
      refine .inr ?_
      rw [moved]
      rcases unread with _ | ⟨⟨token, position⟩, further⟩
      · rfl
      · cases token with
        | closeParen => rfl
        | openParen => rfl
        | identifier name => rfl
        | reserved keyword =>
          cases keyword with
          | not => rfl
          | binary connective => exact absurd last Bool.noConfusion

/-- No sequence of at most `maxHeight` tokens is refused as too deep. -/
theorem ofTokens_ne_tooDeep (finish position : Nat) (tokens : List Located)
    (few : tokens.length ≤ maxHeight) :
    Sentence.ofTokens finish tokens ≠ .error ⟨.tooDeep, position⟩ := by
  have positive : 0 < maxHeight := by decide
  have needs : NeedsTokens maxHeight tokens (Formula.read finish maxHeight tokens) :=
    expression_needsTokens _ (Nat.le_refl _) (operand_sound finish positive maxHeight)
      (operand_needsTokens finish positive maxHeight (Nat.le_refl _)) tokens
  intro refused
  unfold Sentence.ofTokens at refused
  split at refused
  · simp at refused
  · split at refused
    · rename_i error unread reading
      rw [reading] at needs
      have deep : error.cause = .tooDeep := by rw [Except.error.inj refused]
      exact absurd (needs deep) (Nat.not_lt_of_le few)
    · simp at refused
    · simp at refused
    · simp at refused

/-- The parser and the scan with one counter agree on every text that has tokens. Unless the text
is refused as too deep, it is a sentence exactly if the scan accepts it, and is otherwise refused
with the cause and the place that the scan finds. With at most `maxHeight` tokens there is no
exception. -/
theorem parse_agrees_with_scan (text : String) (tokens : List Located)
    (tokenized : tokenize text = .ok tokens) (present : tokens ≠ []) :
    ((∃ position, Sentence.parse text = .error ⟨.tooDeep, position⟩) ∨
      (Sentence.parse text).map (fun _ => ()) = verdict text.utf8ByteSize .initial tokens) ∧
    (tokens.length ≤ maxHeight →
      (Sentence.parse text).map (fun _ => ()) = verdict text.utf8ByteSize .initial tokens) := by
  have parsed : Sentence.parse text = Sentence.ofTokens text.utf8ByteSize tokens := by
    rw [Sentence.parse, tokenized]
  rw [parsed]
  have agrees := ofTokens_agrees text.utf8ByteSize tokens present
  refine ⟨agrees, ?_⟩
  intro few
  rcases agrees with ⟨position, deep⟩ | same
  · exact absurd deep (ofTokens_ne_tooDeep _ position tokens few)
  · exact same

/-- An identifier after a closed group is refused where it stands, with the outer group still
open. -/
theorem parse_agrees_after_group :
    (Sentence.parse "not (p or (q) r").map (fun _ => ())
      = .error ⟨.unexpectedToken "identifier 'r'", 14⟩ := by
  have tokenized : tokenize "not (p or (q) r" = .ok
      [⟨.reserved .not, 0⟩, ⟨.openParen, 4⟩, ⟨.identifier "p", 5⟩, ⟨.reserved (.binary .or), 7⟩,
        ⟨.openParen, 10⟩, ⟨.identifier "q", 11⟩, ⟨.closeParen, 12⟩, ⟨.identifier "r", 14⟩] := by
    decide +kernel
  exact (parse_agrees_with_scan _ _ tokenized (by simp)).2 (by decide)

end Sentential.Viability
