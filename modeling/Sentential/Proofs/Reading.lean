import Sentential.Proofs.Grammar

/-!
# Reading is exactly the grammar

The reader of formulas accepts the canonical formulas that keep within the limit on the height,
each from the tokens that spell it, and nothing else. Reading is a function, so no sequence of
tokens spells two canonical formulas.

The two bounds of the reader agree. A formula within the limit never meets the bound on open
negations and parentheses, which its own height keeps away from; a canonical formula beyond the
limit is refused, and for no other reason than its height.
-/

namespace Sentential.Formula

variable {finish limit : Nat}

/-- Whether a connective comes next. -/
def connectiveNext : List Located → Bool
  | ⟨.reserved (.binary _), _⟩ :: _ => true
  | _ => false

/-- What holds of a formula that was accepted from the front of `tokens`, with `unread` left. -/
structure Reads (limit : Nat) (tokens : List Located) (formula : Formula) (height : Nat)
    (unread : List Located) : Prop where
  canonical : formula.isCanonical = true
  spelled : formula.Spelled tokens unread
  height_eq : height = formula.height
  fits : height ≤ limit

/-- A formula takes at least as many tokens as its tree is high. -/
theorem Reads.height_le {tokens unread : List Located} {formula : Formula} {height : Nat}
    (reads : Reads limit tokens formula height unread) :
    height + unread.length ≤ tokens.length := by
  rw [reads.height_eq]
  exact reads.spelled.height_le

/-- Induction along the reading of operands, over the levels that may still be entered and the
first token. A group is read as an expression, so its case may use every sequence of tokens. -/
@[elab_as_elim]
theorem operand_induction {motive : Nat → List Located → Prop}
    (ended : ∀ levels, motive levels [])
    (name : ∀ levels name position rest, motive levels (⟨.identifier name, position⟩ :: rest))
    (connective : ∀ levels connective position rest,
      motive levels (⟨.reserved (.binary connective), position⟩ :: rest))
    (closing : ∀ levels position rest, motive levels (⟨.closeParen, position⟩ :: rest))
    (lastNegation : ∀ position rest, motive 0 (⟨.reserved .not, position⟩ :: rest))
    (lastGroup : ∀ position rest, motive 0 (⟨.openParen, position⟩ :: rest))
    (negation : ∀ levels position rest, (∀ tokens, motive levels tokens) →
      motive (levels + 1) (⟨.reserved .not, position⟩ :: rest))
    (group : ∀ levels position rest, (∀ tokens, motive levels tokens) →
      motive (levels + 1) (⟨.openParen, position⟩ :: rest))
    (levels : Nat) (tokens : List Located) : motive levels tokens := by
  induction levels generalizing tokens with
  | zero =>
    match tokens with
    | [] => exact ended 0
    | ⟨.identifier word, position⟩ :: rest => exact name 0 word position rest
    | ⟨.reserved (.binary kind), position⟩ :: rest => exact connective 0 kind position rest
    | ⟨.closeParen, position⟩ :: rest => exact closing 0 position rest
    | ⟨.reserved .not, position⟩ :: rest => exact lastNegation position rest
    | ⟨.openParen, position⟩ :: rest => exact lastGroup position rest
  | succ levels inductionHypothesis =>
    match tokens with
    | [] => exact ended (levels + 1)
    | ⟨.identifier word, position⟩ :: rest => exact name (levels + 1) word position rest
    | ⟨.reserved (.binary kind), position⟩ :: rest =>
      exact connective (levels + 1) kind position rest
    | ⟨.closeParen, position⟩ :: rest => exact closing (levels + 1) position rest
    | ⟨.reserved .not, position⟩ :: rest =>
      exact negation levels position rest inductionHypothesis
    | ⟨.openParen, position⟩ :: rest => exact group levels position rest inductionHypothesis

/-- A finished tree is accepted as it is, and only within the limit. -/
theorem bounded_eq_accepted {position height read : Nat} {formula result : Formula}
    {rest unread : List Located}
    (reading : Outcome.bounded limit position formula height rest = .accepted result read unread) :
    height ≤ limit ∧ formula = result ∧ height = read ∧ rest = unread := by
  unfold Outcome.bounded at reading
  split at reading
  · rename_i fits
    obtain ⟨rfl, rfl, rfl⟩ := Outcome.accepted.inj reading
    exact ⟨fits, rfl, rfl, rfl⟩
  · exact absurd reading Outcome.noConfusion

/-- A negation is accepted only around an accepted operand. -/
theorem negated_eq_accepted {outcome : Outcome} {position height : Nat} {formula : Formula}
    {unread : List Located}
    (reading : outcome.negated limit position = .accepted formula height unread) :
    ∃ inner innerHeight, outcome = .accepted inner innerHeight unread ∧
      formula = .not inner ∧ height = innerHeight + 1 ∧ height ≤ limit := by
  cases outcome with
  | refused error rest => exact absurd reading Outcome.noConfusion
  | accepted inner innerHeight rest =>
    obtain ⟨fits, rfl, rfl, rfl⟩ := bounded_eq_accepted reading
    exact ⟨inner, innerHeight, rfl, rfl, rfl, fits⟩

/-- A group is accepted only around an accepted formula that a closing parenthesis follows. -/
theorem enclosed_eq_accepted {outcome : Outcome} {position height : Nat} {formula : Formula}
    {unread : List Located}
    (reading : outcome.enclosed finish limit position = .accepted formula height unread) :
    ∃ inner innerHeight closing,
      outcome = .accepted inner innerHeight (⟨.closeParen, closing⟩ :: unread) ∧
      formula = .paren inner ∧ height = innerHeight + 1 ∧ height ≤ limit := by
  unfold Outcome.enclosed at reading
  split at reading
  · exact absurd reading Outcome.noConfusion
  · exact absurd reading Outcome.noConfusion
  · rename_i inner innerHeight closing rest
    obtain ⟨fits, rfl, rfl, rfl⟩ := bounded_eq_accepted reading
    exact ⟨inner, innerHeight, closing, rfl, rfl, rfl, fits⟩
  · exact absurd reading Outcome.noConfusion

/-- A chain ends only where no connective follows. -/
theorem connectiveNext_of_chain (operand : List Located → Outcome) (left : Formula) (height : Nat)
    (tokens : List Located) (formula : Formula) (read : Nat) (unread : List Located)
    (reading : chain limit operand left height tokens = .accepted formula read unread) :
    connectiveNext unread = false := by
  fun_induction chain limit operand left height tokens with
  | case1 left height connective position rest error further refused =>
    exact absurd reading Outcome.noConfusion
  | case2 left height connective position rest right rightHeight further accepted fits
      inductionHypothesis =>
    exact inductionHypothesis reading
  | case3 left height connective position rest right rightHeight further accepted exceeds =>
    exact absurd reading Outcome.noConfusion
  | case4 left height tokens noConnective =>
    obtain ⟨rfl, rfl, rfl⟩ := Outcome.accepted.inj reading
    unfold connectiveNext
    split
    · exact absurd rfl (noConnective _ _ _)
    · rfl

/-- An expression ends only where no connective follows. -/
theorem connectiveNext_of_expression (operand : List Located → Outcome) (tokens : List Located)
    (formula : Formula) (height : Nat) (unread : List Located)
    (reading : expression limit operand tokens = .accepted formula height unread) :
    connectiveNext unread = false := by
  unfold expression at reading
  split at reading
  · exact absurd reading Outcome.noConfusion
  · exact connectiveNext_of_chain _ _ _ _ _ _ _ reading

/-- A formula that was read is extended by a connective and the operand read after it. -/
theorem Reads.extend {start rest unread : List Located} {left right : Formula}
    {height rightHeight position : Nat} {connective : Connective}
    (before : Reads limit start left height (⟨.reserved (.binary connective), position⟩ :: rest))
    (single : right.isOperand = true) (after : Reads limit rest right rightHeight unread)
    (fits : 1 + max height rightHeight ≤ limit) :
    Reads limit start (.binary connective left right) (1 + max height rightHeight) unread := by
  refine ⟨?_, .binary before.spelled after.spelled, ?_, fits⟩
  · simp [isCanonical, before.canonical, single, after.canonical]
  · rw [Formula.height, ← before.height_eq, ← after.height_eq]

/-- Each operand of a chain is grouped to the right of all that was read before, so a chain that
begins canonical stays canonical. -/
theorem chain_sound (operand : List Located → Outcome)
    (sound : ∀ tokens formula height unread, operand tokens = .accepted formula height unread →
      formula.isOperand = true ∧ Reads limit tokens formula height unread)
    (start : List Located) (left : Formula) (height : Nat) (tokens : List Located)
    (before : Reads limit start left height tokens)
    (formula : Formula) (read : Nat) (unread : List Located)
    (reading : chain limit operand left height tokens = .accepted formula read unread) :
    Reads limit start formula read unread := by
  fun_induction chain limit operand left height tokens with
  | case1 left height connective position rest error further refused =>
    exact absurd reading Outcome.noConfusion
  | case2 left height connective position rest right rightHeight further accepted fits
      inductionHypothesis =>
    obtain ⟨single, after⟩ := sound _ _ _ _ accepted
    exact inductionHypothesis (before.extend single after fits) reading
  | case3 left height connective position rest right rightHeight further accepted exceeds =>
    exact absurd reading Outcome.noConfusion
  | case4 left height tokens noConnective =>
    obtain ⟨rfl, rfl, rfl⟩ := Outcome.accepted.inj reading
    exact before

/-- An expression is a chain that begins with its first operand. -/
theorem expression_sound (operand : List Located → Outcome)
    (sound : ∀ tokens formula height unread, operand tokens = .accepted formula height unread →
      formula.isOperand = true ∧ Reads limit tokens formula height unread)
    (tokens : List Located) (formula : Formula) (height : Nat) (unread : List Located)
    (reading : expression limit operand tokens = .accepted formula height unread) :
    Reads limit tokens formula height unread := by
  unfold expression at reading
  cases first : operand tokens with
  | refused error rest =>
    rw [first] at reading
    exact absurd reading Outcome.noConfusion
  | accepted left leftHeight rest =>
    rw [first] at reading
    obtain ⟨_, before⟩ := sound _ _ _ _ first
    exact chain_sound operand sound tokens left leftHeight rest before _ _ _ reading

/-- What is accepted as an operand is a canonical formula that is no chain, is spelled by the tokens
it was read from, and is given with its true height. -/
theorem operand_sound (finish : Nat) (positive : 0 < limit) (levels : Nat) (tokens : List Located)
    (formula : Formula) (height : Nat) (unread : List Located)
    (reading : operand finish limit levels tokens = .accepted formula height unread) :
    formula.isOperand = true ∧ Reads limit tokens formula height unread := by
  induction levels, tokens using operand_induction generalizing formula height unread with
  | ended levels | connective levels connective position rest | closing levels position rest =>
    simp [operand] at reading
  | lastNegation position rest | lastGroup position rest => simp [operand] at reading
  | name levels name position rest =>
    rw [operand] at reading
    obtain ⟨rfl, rfl, rfl⟩ := Outcome.accepted.inj reading
    exact ⟨rfl, rfl, .var, rfl, positive⟩
  | negation levels position rest inductionHypothesis =>
    rw [operand] at reading
    obtain ⟨inner, innerHeight, accepted, rfl, rfl, fits⟩ := negated_eq_accepted reading
    obtain ⟨single, reads⟩ := inductionHypothesis rest inner innerHeight unread accepted
    refine ⟨rfl, ?_, .not reads.spelled, ?_, fits⟩
    · simp [isCanonical, single, reads.canonical]
    · rw [Formula.height, reads.height_eq, Nat.add_comm]
  | group levels position rest inductionHypothesis =>
    rw [operand] at reading
    obtain ⟨inner, innerHeight, closing, accepted, rfl, rfl, fits⟩ := enclosed_eq_accepted reading
    have reads := expression_sound _ inductionHypothesis rest inner innerHeight _ accepted
    refine ⟨rfl, reads.canonical, .paren reads.spelled, ?_, fits⟩
    rw [Formula.height, reads.height_eq, Nat.add_comm]

/-- What is read is a canonical formula within the limit, spelled by the tokens before those that
are left over. -/
theorem read_sound (positive : 0 < limit) (tokens : List Located) (formula : Formula)
    (height : Nat) (unread : List Located)
    (reading : read finish limit tokens = .accepted formula height unread) :
    Reads limit tokens formula height unread :=
  expression_sound _ (operand_sound finish positive limit) tokens formula height unread reading

/-- What reading a spelled formula comes to: the expected outcome, or a refusal that the height of
the formula accounts for, be it over the limit or over the levels that may still be entered. -/
def Completes (limit levels : Nat) (formula : Formula) (expected outcome : Outcome) : Prop :=
  outcome = expected ∨
    (limit < formula.height ∨ levels < formula.height) ∧
      ∃ position unread, outcome = .refused ⟨.tooDeep, position⟩ unread

/-- A tree that is finished is accepted unless it is over the limit itself. -/
theorem bounded_completes (levels position : Nat) (formula : Formula) (unread : List Located) :
    Completes limit levels formula (.accepted formula formula.height unread)
      (Outcome.bounded limit position formula formula.height unread) := by
  unfold Outcome.bounded
  by_cases fits : formula.height ≤ limit
  · exact .inl (if_pos fits)
  · exact .inr ⟨.inl (Nat.lt_of_not_ge fits), position, unread, if_neg fits⟩

/-- A refusal for the height of a part is a refusal for the height of the whole. -/
theorem Completes.of_part {levels partLevels : Nat} {formula part : Formula} {outcome : Outcome}
    (expected : Outcome) (higher : part.height ≤ formula.height)
    (deeper : partLevels < part.height → levels < formula.height)
    (excess : limit < part.height ∨ partLevels < part.height)
    (refused : ∃ position unread, outcome = .refused ⟨.tooDeep, position⟩ unread) :
    Completes limit levels formula expected outcome := by
  refine .inr ⟨?_, refused⟩
  rcases excess with exceeds | exceeds
  · exact .inl (Nat.lt_of_lt_of_le exceeds higher)
  · exact .inr (deeper exceeds)

/-- An operand that was read begins a chain. -/
theorem expression_completes {levels : Nat} {formula : Formula} {tokens unread : List Located}
    (operand : List Located → Outcome)
    (completes : Completes limit levels formula (.accepted formula formula.height unread)
      (operand tokens)) :
    Completes limit levels formula (chain limit operand formula formula.height unread)
      (expression limit operand tokens) := by
  unfold expression
  rcases completes with accepted | ⟨excess, position, rest, refused⟩
  · rw [accepted]
    exact .inl rfl
  · rw [refused]
    exact .inr ⟨excess, position, rest, rfl⟩

/-- A chain that no connective follows is finished. -/
theorem chain_of_connectiveNext (operand : List Located → Outcome) (formula : Formula)
    (height : Nat) (tokens : List Located) (last : connectiveNext tokens = false) :
    chain limit operand formula height tokens = .accepted formula height tokens := by
  unfold connectiveNext at last
  split at last
  · exact absurd last Bool.noConfusion
  · rename_i noConnective
    rw [chain]
    exact noConnective

/-- A negation around an operand that was read. -/
theorem negated_completes {levels : Nat} {inner : Formula} {unread : List Located}
    {outcome : Outcome} (position : Nat)
    (completes : Completes limit levels inner (.accepted inner inner.height unread) outcome) :
    Completes limit (levels + 1) (.not inner)
      (.accepted (.not inner) (Formula.not inner).height unread)
      (outcome.negated limit position) := by
  have whole : (Formula.not inner).height = inner.height + 1 := by rw [height, Nat.add_comm]
  rcases completes with accepted | ⟨excess, place, rest, refused⟩
  · rw [accepted, Outcome.negated, ← whole]
    exact bounded_completes (levels + 1) position (.not inner) unread
  · rw [refused]
    exact .of_part _ (by omega) (by omega) excess ⟨place, rest, rfl⟩

/-- Parentheses around a formula that was read up to the closing one. -/
theorem enclosed_completes {levels : Nat} {inner : Formula} {unread : List Located}
    {outcome : Outcome} (position closing : Nat)
    (completes : Completes limit levels inner
      (.accepted inner inner.height (⟨.closeParen, closing⟩ :: unread)) outcome) :
    Completes limit (levels + 1) (.paren inner)
      (.accepted (.paren inner) (Formula.paren inner).height unread)
      (outcome.enclosed finish limit position) := by
  have whole : (Formula.paren inner).height = inner.height + 1 := by rw [height, Nat.add_comm]
  rcases completes with accepted | ⟨excess, place, rest, refused⟩
  · rw [accepted, Outcome.enclosed, ← whole]
    exact bounded_completes (levels + 1) position (.paren inner) unread
  · rw [refused]
    exact .of_part _ (by omega) (by omega) excess ⟨place, rest, rfl⟩

/-- A chain is extended by a connective whose right operand was read. -/
theorem chain_completes {levels position : Nat} {connective : Connective} {left right : Formula}
    {rest unread : List Located} (operand : List Located → Outcome)
    (completes : Completes limit levels right (.accepted right right.height unread)
      (operand rest)) :
    Completes limit levels (.binary connective left right)
      (chain limit operand (.binary connective left right)
        (Formula.binary connective left right).height unread)
      (chain limit operand left left.height
        (⟨.reserved (.binary connective), position⟩ :: rest)) := by
  have whole : (Formula.binary connective left right).height
      = 1 + max left.height right.height := rfl
  rw [chain, whole]
  rcases completes with accepted | ⟨excess, place, others, refused⟩
  · rw [accepted]
    by_cases fits : 1 + max left.height right.height ≤ limit
    · exact .inl (dif_pos fits)
    · exact .inr ⟨.inl (by omega), position, unread, dif_neg fits⟩
  · rw [refused]
    exact .of_part _ (by omega) (by omega) excess ⟨place, others, rfl⟩

/-- The lowest trees are those of single variables. -/
theorem height_pos (formula : Formula) : 0 < formula.height := by
  cases formula with
  | var name => exact Nat.one_pos
  | not inner | binary connective left right | paren inner =>
    rw [height]
    omega

/-- A canonical formula is read from the tokens that spell it, as an operand if it can be one, and
always as the beginning of a chain that whatever follows may extend. The levels to be entered are one
less than the formula is high, since a variable is at the bottom.

Induct on the formula. The left part of a chain is read first and is extended by the connective
that follows it, so its induction hypothesis has to speak of an expression with tokens left over. -/
theorem reading_completes (finish : Nat) (formula : Formula) (canonical : formula.isCanonical = true)
    (levels : Nat) (tokens unread : List Located) (spelled : formula.Spelled tokens unread) :
    (formula.isOperand = true →
      Completes limit (levels + 1) formula (.accepted formula formula.height unread)
        (operand finish limit levels tokens)) ∧
    Completes limit (levels + 1) formula
      (chain limit (operand finish limit levels) formula formula.height unread)
      (expression limit (operand finish limit levels) tokens) := by
  induction formula generalizing levels tokens unread with
  | var name =>
    have accepted : Completes limit (levels + 1) (.var name) (.accepted (.var name) 1 unread)
        (operand finish limit levels tokens) := by
      cases spelled
      exact .inl (by rw [operand])
    exact ⟨fun _ => accepted, expression_completes _ accepted⟩
  | not inner inductionHypothesis =>
    have completes : Completes limit (levels + 1) (.not inner)
        (.accepted (.not inner) (Formula.not inner).height unread)
        (operand finish limit levels tokens) := by
      simp only [isCanonical, Bool.and_eq_true] at canonical
      obtain ⟨single, innerCanonical⟩ := canonical
      cases spelled with
      | @not _ position rest _ innerSpelled =>
        cases levels with
        | zero =>
          have leaf := height_pos inner
          exact .inr ⟨.inr (by rw [height]; omega), position, rest, by rw [operand]⟩
        | succ levels =>
          rw [operand]
          exact negated_completes position
            ((inductionHypothesis innerCanonical levels rest unread innerSpelled).1 single)
    exact ⟨fun _ => completes, expression_completes _ completes⟩
  | binary connective left right leftHypothesis rightHypothesis =>
    simp only [isCanonical, Bool.and_eq_true] at canonical
    obtain ⟨leftCanonical, single, rightCanonical⟩ := canonical
    refine ⟨fun impossible => absurd impossible Bool.noConfusion, ?_⟩
    cases spelled with
    | @binary _ _ _ position _ rest _ leftSpelled rightSpelled =>
      rcases (leftHypothesis leftCanonical levels tokens _ leftSpelled).2 with
        begun | ⟨excess, refused⟩
      · rw [begun]
        exact chain_completes _
          ((rightHypothesis rightCanonical levels rest unread rightSpelled).1 single)
      · exact .of_part _ (by rw [height]; omega) (by rw [height]; omega) excess refused
  | paren inner inductionHypothesis =>
    have completes : Completes limit (levels + 1) (.paren inner)
        (.accepted (.paren inner) (Formula.paren inner).height unread)
        (operand finish limit levels tokens) := by
      cases spelled with
      | @paren _ position closing rest _ innerSpelled =>
        cases levels with
        | zero =>
          have leaf := height_pos inner
          exact .inr ⟨.inr (by rw [height]; omega), position, rest, by rw [operand]⟩
        | succ levels =>
          rw [operand]
          refine enclosed_completes position closing ?_
          have inside := (inductionHypothesis canonical levels rest _ innerSpelled).2
          rwa [chain_of_connectiveNext _ _ _ _ rfl] at inside
    exact ⟨fun _ => completes, expression_completes _ completes⟩

/-- A canonical formula within the limit is read in full from the tokens that spell it, unless a
connective follows that extends it. -/
theorem read_eq_accepted (formula : Formula) (canonical : formula.isCanonical = true)
    (fits : formula.height ≤ limit) (tokens unread : List Located)
    (spelled : formula.Spelled tokens unread) (last : connectiveNext unread = false) :
    read finish limit tokens = .accepted formula formula.height unread := by
  rcases (reading_completes finish formula canonical limit tokens unread spelled).2 with
    begun | ⟨excess, _⟩
  · rw [read, begun, chain_of_connectiveNext _ _ _ _ last]
  · omega

/-- A canonical formula beyond the limit is refused for its height. -/
theorem read_eq_tooDeep (finish : Nat) (positive : 0 < limit) (formula : Formula)
    (canonical : formula.isCanonical = true) (exceeds : limit < formula.height)
    (tokens unread : List Located) (spelled : formula.Spelled tokens unread)
    (last : connectiveNext unread = false) :
    ∃ position rest, read finish limit tokens = .refused ⟨.tooDeep, position⟩ rest := by
  rcases (reading_completes finish formula canonical limit tokens unread spelled).2 with
    begun | ⟨_, refused⟩
  · have accepted : read finish limit tokens = .accepted formula formula.height unread := by
      rw [read, begun, chain_of_connectiveNext _ _ _ _ last]
    have fits := (read_sound positive _ _ _ _ accepted).fits
    omega
  · exact refused

/-- Different canonical formulas are written by different tokens: with a limit that both keep
within, reading gives either one back. -/
theorem tokens_injective (first second : Formula) (firstCanonical : first.isCanonical = true)
    (secondCanonical : second.isCanonical = true) (same : first.tokens = second.tokens) :
    first = second := by
  let located := first.tokens.map fun token => Located.mk token 0
  let limit := max first.height second.height
  have written : located.map Located.token = first.tokens := by
    simp [located, Function.comp_def]
  have readFirst : read 0 limit located = .accepted first first.height [] :=
    read_eq_accepted first firstCanonical (Nat.le_max_left _ _) located []
      ((spelled_nil_iff first located).mpr written) rfl
  have readSecond : read 0 limit located = .accepted second second.height [] :=
    read_eq_accepted second secondCanonical (Nat.le_max_right _ _) located []
      ((spelled_nil_iff second located).mpr (written.trans same)) rfl
  exact (Outcome.accepted.inj (readFirst.symm.trans readSecond)).1

end Sentential.Formula
