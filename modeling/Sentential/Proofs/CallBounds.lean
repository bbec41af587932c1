import Sentential.Proofs.CallStack

/-!
# The bounds of the calls

In every state on the way the count of open levels is the number of levels that the waiting calls
have entered, and it keeps within the limit. The stack alternates between the two routines, so it is
bounded as well, whatever the tokens are and however many. No call hands back a different count than
it was made with, goes back in the tokens, or accepts a formula without taking a token.

What holds in every state is kept by each single step, and from there by every run.
-/

namespace Sentential

/-- An accepted formula is given with its height, and that is within the limit. -/
def Outcome.Truthful (limit : Nat) : Outcome → Prop
  | .accepted formula height _ => height = formula.height ∧ height ≤ limit
  | .refused _ _ => True

namespace CallStack

variable {finish limit : Nat}

/-! ## What every state on the way keeps -/

/-- Whether the call entered a level that is still open. -/
def Frame.isLevel : Frame → Bool
  | .negation _ | .group _ => true
  | .first | .right _ _ _ _ => false

/-- The number of open levels among the calls that wait. -/
def openLevels (frames : List Frame) : Nat := frames.countP Frame.isLevel

/-- A call that waits knows the height of what it has read. -/
def Frame.Truthful : Frame → Prop
  | .right left height _ _ => height = left.height
  | .first | .negation _ | .group _ => True

/-- The calls in front of which a routine can be called: an expression only at the outset and inside
a parenthesis, an operand only by an expression or a negation. -/
def Stacked : Routine → List Frame → Prop
  | .expression, [] => True
  | .expression, .group _ :: frames => Stacked .operand frames
  | .operand, .first :: frames => Stacked .expression frames
  | .operand, .right _ _ _ _ :: frames => Stacked .expression frames
  | .operand, .negation _ :: frames => Stacked .operand frames
  | _, _ => False

/-- What holds of the calls that wait and of the count. -/
structure Kept (limit : Nat) (frames : List Frame) (nesting : Nat) : Prop where
  counted : nesting = openLevels frames
  within : nesting ≤ limit
  truthful : ∀ frame ∈ frames, frame.Truthful

/-- What holds of every state on the way. -/
def Sound (limit : Nat) : State → Prop
  | .calling routine frames _ nesting => Kept limit frames nesting ∧ Stacked routine frames
  | .returning outcome frames nesting =>
    Kept limit frames nesting ∧ (∃ routine, Stacked routine frames) ∧ outcome.Truthful limit

/-- A call that entered a level is counted. -/
theorem openLevels_cons_of_level {frame : Frame} (level : frame.isLevel = true)
    (frames : List Frame) : openLevels (frame :: frames) = openLevels frames + 1 :=
  List.countP_cons_of_pos level

/-- Any other call is not counted. -/
theorem openLevels_cons_of_plain {frame : Frame} (plain : frame.isLevel = false)
    (frames : List Frame) : openLevels (frame :: frames) = openLevels frames :=
  List.countP_cons_of_neg (by simp [plain])

/-- A call that opens no level leaves the count as it is. -/
theorem Kept.push {frames : List Frame} {nesting : Nat} (kept : Kept limit frames nesting)
    {frame : Frame} (plain : frame.isLevel = false) (truthful : frame.Truthful) :
    Kept limit (frame :: frames) nesting := by
  constructor
  · rw [openLevels_cons_of_plain plain, ← kept.counted]
  · exact kept.within
  · exact List.forall_mem_cons.mpr ⟨truthful, kept.truthful⟩

/-- A call that opens a level is counted. -/
theorem Kept.enter {frames : List Frame} {nesting : Nat} (kept : Kept limit frames nesting)
    {frame : Frame} (level : frame.isLevel = true) (truthful : frame.Truthful)
    (room : nesting < limit) : Kept limit (frame :: frames) (nesting + 1) := by
  constructor
  · rw [openLevels_cons_of_level level, ← kept.counted]
  · exact room
  · exact List.forall_mem_cons.mpr ⟨truthful, kept.truthful⟩

/-- Without a call that opened no level the count is right as it is. -/
theorem Kept.pop {frame : Frame} {frames : List Frame} {nesting : Nat}
    (kept : Kept limit (frame :: frames) nesting) (plain : frame.isLevel = false) :
    Kept limit frames nesting := by
  constructor
  · rw [kept.counted, openLevels_cons_of_plain plain]
  · exact kept.within
  · exact (List.forall_mem_cons.mp kept.truthful).2

/-- Without a call that opened a level the count is less by one. -/
theorem Kept.leave {frame : Frame} {frames : List Frame} {nesting : Nat}
    (kept : Kept limit (frame :: frames) nesting) (level : frame.isLevel = true) :
    Kept limit frames (nesting - 1) := by
  constructor
  · rw [kept.counted, openLevels_cons_of_level level, Nat.add_sub_cancel]
  · exact Nat.le_trans (Nat.sub_le _ _) kept.within
  · exact (List.forall_mem_cons.mp kept.truthful).2

/-- A finished tree is accepted only within the limit. -/
theorem bounded_truthful {formula : Formula} {height : Nat} (known : height = formula.height)
    (position : Nat) (unread : List Located) :
    (Outcome.bounded limit position formula height unread).Truthful limit := by
  unfold Outcome.bounded
  by_cases fits : height ≤ limit
  · rw [if_pos fits]
    exact ⟨known, fits⟩
  · rw [if_neg fits]
    trivial

/-- The height of a negation follows from that of its operand. -/
theorem negated_truthful {outcome : Outcome} (truthful : outcome.Truthful limit) (position : Nat) :
    (outcome.negated limit position).Truthful limit := by
  cases outcome with
  | refused error unread => trivial
  | accepted inner height unread =>
    apply bounded_truthful
    rw [truthful.1, Formula.height, Nat.add_comm]

/-- The height of a group follows from that of its inside. -/
theorem enclosed_truthful {outcome : Outcome} (truthful : outcome.Truthful limit) (position : Nat) :
    (outcome.enclosed finish limit position).Truthful limit := by
  unfold Outcome.enclosed
  split
  · trivial
  · trivial
  · apply bounded_truthful
    rw [truthful.1, Formula.height, Nat.add_comm]
  · trivial

/-- Entering a level keeps what holds, since no level is entered beyond the limit. -/
theorem enter_sound {frames : List Frame} {nesting : Nat} (kept : Kept limit frames nesting)
    (called : Stacked .operand frames) (position : Nat) (frame : Frame) {routine : Routine}
    (level : frame.isLevel = true) (truthful : frame.Truthful)
    (stacked : Stacked routine (frame :: frames)) (rest : List Located) :
    Sound limit (enter limit position frame routine frames rest nesting) := by
  unfold enter
  by_cases room : nesting < limit
  · rw [if_pos room]
    exact ⟨kept.enter level truthful room, stacked⟩
  · rw [if_neg room]
    exact ⟨kept, ⟨_, called⟩, trivial⟩

/-- So does whatever the routine for an operand does first. -/
theorem begin_sound (positive : 0 < limit) {frames : List Frame} {nesting : Nat}
    (kept : Kept limit frames nesting) (stacked : Stacked .operand frames)
    (tokens : List Located) : Sound limit (begin finish limit frames nesting tokens) := by
  unfold begin
  split
  · exact ⟨kept, ⟨_, stacked⟩, trivial⟩
  · exact ⟨kept, ⟨_, stacked⟩, rfl, positive⟩
  · exact ⟨kept, ⟨_, stacked⟩, trivial⟩
  · exact ⟨kept, ⟨_, stacked⟩, trivial⟩
  · exact enter_sound kept stacked _ (.negation _) rfl trivial stacked _
  · exact enter_sound kept stacked _ (.group _) rfl trivial stacked _

/-- So does whatever the routine for an expression does next. -/
theorem proceed_sound {left : Formula} {height : Nat} (known : height = left.height)
    (fits : height ≤ limit) {frames : List Frame} {nesting : Nat}
    (kept : Kept limit frames nesting) (stacked : Stacked .expression frames)
    (tokens : List Located) : Sound limit (proceed left height frames nesting tokens) := by
  unfold proceed
  split
  · exact ⟨kept.push rfl known, stacked⟩
  · exact ⟨kept, ⟨_, stacked⟩, known, fits⟩

/-- A call that was called for by an expression waits in front of the calls before it. -/
theorem stacked_of_chain {routine : Routine} {frame : Frame} {frames : List Frame}
    (stacked : Stacked routine (frame :: frames)) (plain : frame.isLevel = false) :
    routine = .operand ∧ Stacked .expression frames := by
  cases frame with
  | negation position | group position => exact Bool.noConfusion plain
  | first | right left height connective position =>
    cases routine with
    | operand => exact ⟨rfl, stacked⟩
    | expression => exact stacked.elim

/-- So does a call for the inside of a level. -/
theorem stacked_of_level {routine : Routine} {frame : Frame} {frames : List Frame}
    (stacked : Stacked routine (frame :: frames)) (level : frame.isLevel = true) :
    Stacked .operand frames := by
  cases frame with
  | first | right left height connective position => exact Bool.noConfusion level
  | negation position =>
    cases routine with
    | operand => exact stacked
    | expression => exact stacked.elim
  | group position =>
    cases routine with
    | operand => exact stacked.elim
    | expression => exact stacked

/-- So does a call that is resumed: a level that is left is no longer counted. -/
theorem resume_sound {frame : Frame} {frames : List Frame} {nesting : Nat} {outcome : Outcome}
    (kept : Kept limit (frame :: frames) nesting) {routine : Routine}
    (stacked : Stacked routine (frame :: frames)) (truthful : outcome.Truthful limit) :
    Sound limit (resume finish limit frames nesting frame outcome) := by
  cases frame with
  | negation position =>
    exact ⟨kept.leave rfl, ⟨_, stacked_of_level stacked rfl⟩, negated_truthful truthful position⟩
  | group position =>
    exact ⟨kept.leave rfl, ⟨_, stacked_of_level stacked rfl⟩, enclosed_truthful truthful position⟩
  | first =>
    obtain ⟨_, below⟩ := stacked_of_chain stacked rfl
    cases outcome with
    | refused error unread => exact ⟨kept.pop rfl, ⟨_, below⟩, trivial⟩
    | accepted left height unread =>
      exact proceed_sound truthful.1 truthful.2 (kept.pop rfl) below unread
  | right left height connective position =>
    obtain ⟨_, below⟩ := stacked_of_chain stacked rfl
    cases outcome with
    | refused error unread => exact ⟨kept.pop rfl, ⟨_, below⟩, trivial⟩
    | accepted right rightHeight unread =>
      have leftHeight : height = left.height := kept.truthful _ List.mem_cons_self
      change Sound limit (if _ then _ else _)
      by_cases fits : 1 + max height rightHeight ≤ limit
      · rw [if_pos fits]
        apply proceed_sound _ fits (kept.pop rfl) below
        rw [Formula.height, leftHeight, truthful.1]
      · rw [if_neg fits]
        exact ⟨kept.pop rfl, ⟨_, below⟩, trivial⟩

/-- Every step keeps what holds. -/
theorem step_sound (positive : 0 < limit) {state next : State} (sound : Sound limit state)
    (stepped : step finish limit state = some next) : Sound limit next := by
  obtain ⟨frames, unread, nesting, rfl, rfl⟩ | ⟨frames, unread, nesting, rfl, rfl⟩ |
    ⟨outcome, frame, frames, nesting, rfl, rfl⟩ := step_cases stepped
  · obtain ⟨kept, stacked⟩ := sound
    exact ⟨kept.push rfl trivial, stacked⟩
  · obtain ⟨kept, stacked⟩ := sound
    exact begin_sound positive kept stacked unread
  · obtain ⟨kept, ⟨routine, stacked⟩, truthful⟩ := sound
    exact resume_sound kept stacked truthful

/-- So do any number of steps. -/
theorem reaches_sound (positive : 0 < limit) {state last : State} (sound : Sound limit state)
    (reaches : Reaches finish limit state last) : Sound limit last := by
  induction reaches with
  | refl => exact sound
  | tail _ stepped inductionHypothesis => exact step_sound positive inductionHypothesis stepped

/-- There are at most two calls for each open level, and one more for an operand. The induction
needs the sharper bound for expressions: they are called right inside a parenthesis, or first. -/
theorem length_of_stacked (routine : Routine) (frames : List Frame)
    (stacked : Stacked routine frames) : frames.length ≤ 2 * openLevels frames + 1 ∧
      (routine = .expression → frames.length ≤ 2 * openLevels frames) := by
  induction frames generalizing routine with
  | nil => exact ⟨Nat.zero_le _, fun _ => Nat.zero_le _⟩
  | cons frame frames inductionHypothesis =>
    cases level : frame.isLevel with
    | true =>
      have below := (inductionHypothesis _ (stacked_of_level stacked level)).1
      rw [openLevels_cons_of_level level, List.length_cons]
      constructor
      · omega
      · intro _
        omega
    | false =>
      obtain ⟨rfl, chained⟩ := stacked_of_chain stacked level
      have below := (inductionHypothesis _ chained).2 rfl
      rw [openLevels_cons_of_plain level, List.length_cons]
      constructor
      · omega
      · exact Routine.noConfusion

/-! ## Tokens are taken in order -/

/-- What one step does to the tokens: it takes some from the front or none, and a formula is
accepted only where a token was taken or a part of it was accepted before. -/
structure Advances (state next : State) : Prop where
  suffix : next.unread <:+ state.unread
  taken : next.isAccepted = true →
    state.isAccepted = true ∨ next.unread.length < state.unread.length

/-- A bound on the height takes no tokens. -/
theorem bounded_unread (position : Nat) (formula : Formula) (height : Nat)
    (unread : List Located) :
    (Outcome.bounded limit position formula height unread).unread = unread := by
  unfold Outcome.bounded
  split <;> rfl

/-- A negation is completed without taking tokens, and accepted only if its operand was. -/
theorem negated_unread (limit : Nat) (outcome : Outcome) (position : Nat) :
    (outcome.negated limit position).unread = outcome.unread ∧
      ((outcome.negated limit position).isAccepted = true → outcome.isAccepted = true) := by
  cases outcome with
  | refused error unread => exact ⟨rfl, id⟩
  | accepted inner height unread => exact ⟨bounded_unread position _ _ unread, fun _ => rfl⟩

/-- A group takes at most one more token, and is accepted only if its inside was. -/
theorem enclosed_unread (finish limit : Nat) (outcome : Outcome) (position : Nat) :
    (outcome.enclosed finish limit position).unread <:+ outcome.unread ∧
      ((outcome.enclosed finish limit position).isAccepted = true →
        outcome.isAccepted = true) := by
  unfold Outcome.enclosed
  split
  · exact ⟨List.suffix_rfl, id⟩
  · exact ⟨List.suffix_rfl, fun _ => rfl⟩
  · rw [bounded_unread]
    exact ⟨List.suffix_cons _ _, fun _ => rfl⟩
  · exact ⟨List.suffix_cons _ _, fun _ => rfl⟩

/-- Entering a level takes no further token, even where there is no room for the level. -/
theorem enter_unread (position : Nat) (frame : Frame) (routine : Routine) (frames : List Frame)
    (rest : List Located) (nesting : Nat) :
    (enter limit position frame routine frames rest nesting).unread = rest := by
  unfold enter
  split
  · rfl
  · rfl

/-- An operand takes its first token, whatever that is. -/
theorem begin_unread (frames : List Frame) (nesting : Nat) (located : Located)
    (rest : List Located) : (begin finish limit frames nesting (located :: rest)).unread = rest := by
  obtain ⟨token, position⟩ := located
  cases token with
  | identifier name | closeParen => rfl
  | openParen => exact enter_unread position _ _ frames rest nesting
  | reserved keyword =>
    cases keyword with
    | binary connective => rfl
    | not => exact enter_unread position _ _ frames rest nesting

/-- An operand is accepted only with its first token taken. -/
theorem begin_advances (frames : List Frame) (nesting : Nat) (tokens : List Located) :
    Advances (.calling .operand frames tokens nesting)
      (begin finish limit frames nesting tokens) := by
  cases tokens with
  | nil => exact ⟨List.suffix_rfl, fun accepted => absurd accepted Bool.noConfusion⟩
  | cons located rest =>
    constructor
    · rw [begin_unread]
      exact List.suffix_cons _ _
    · intro _
      rw [begin_unread]
      exact .inr (Nat.lt_succ_self _)

/-- An expression goes on with what was left over. -/
theorem proceed_unread (left : Formula) (height : Nat) (frames : List Frame) (nesting : Nat)
    (tokens : List Located) :
    (proceed left height frames nesting tokens).unread <:+ tokens := by
  unfold proceed
  split
  · exact List.suffix_cons _ _
  · exact List.suffix_rfl

/-- A call that is resumed goes on with what was left over, and accepts a formula only if it waited
for one that was accepted. -/
theorem resume_advances (frame : Frame) (frames : List Frame) (nesting : Nat) (outcome : Outcome) :
    Advances (.returning outcome (frame :: frames) nesting)
      (resume finish limit frames nesting frame outcome) := by
  cases frame with
  | negation position =>
    obtain ⟨same, accepted⟩ := negated_unread limit outcome position
    exact ⟨⟨[], same⟩, fun isAccepted => .inl (accepted isAccepted)⟩
  | group position =>
    obtain ⟨suffix, accepted⟩ := enclosed_unread finish limit outcome position
    exact ⟨suffix, fun isAccepted => .inl (accepted isAccepted)⟩
  | first =>
    cases outcome with
    | refused error unread => exact ⟨List.suffix_rfl, .inl⟩
    | accepted left height unread => exact ⟨proceed_unread _ _ _ _ _, fun _ => .inl rfl⟩
  | right left height connective position =>
    cases outcome with
    | refused error unread => exact ⟨List.suffix_rfl, .inl⟩
    | accepted right rightHeight unread =>
      refine ⟨?_, fun _ => .inl rfl⟩
      change State.unread (if _ then _ else _) <:+ unread
      split
      · exact proceed_unread _ _ _ _ _
      · exact List.suffix_rfl

/-- Every step takes tokens from the front or none. -/
theorem step_advances {state next : State} (stepped : step finish limit state = some next) :
    Advances state next := by
  obtain ⟨frames, unread, nesting, rfl, rfl⟩ | ⟨frames, unread, nesting, rfl, rfl⟩ |
    ⟨outcome, frame, frames, nesting, rfl, rfl⟩ := step_cases stepped
  · exact ⟨List.suffix_rfl, .inl⟩
  · exact begin_advances frames nesting unread
  · exact resume_advances frame frames nesting outcome

/-- So do two parts of a run, one after the other. -/
theorem Advances.trans {state between last : State} (first : Advances state between)
    (second : Advances between last) : Advances state last := by
  refine ⟨second.suffix.trans first.suffix, fun accepted => ?_⟩
  rcases second.taken accepted with before | fewer
  · rcases first.taken before with atFirst | already
    · exact .inl atFirst
    · exact .inr (Nat.lt_of_le_of_lt second.suffix.length_le already)
  · exact .inr (Nat.lt_of_lt_of_le fewer first.suffix.length_le)

/-- So do any number of steps. They accept a formula only if one was accepted at the outset or they
take a token. -/
theorem reaches_advances {state last : State} (reaches : Reaches finish limit state last) :
    Advances state last := by
  induction reaches with
  | refl => exact ⟨List.suffix_rfl, .inl⟩
  | tail _ stepped inductionHypothesis => exact inductionHypothesis.trans (step_advances stepped)

/-! ## The bounds of every run -/

/-- What holds when reading begins. -/
theorem start_sound (limit : Nat) (tokens : List Located) : Sound limit (start tokens) := by
  constructor
  · constructor
    · rfl
    · exact Nat.zero_le _
    · simp
  · trivial

/-- In a state on the way the count is right and keeps within the limit, so the stack is bounded. -/
theorem Sound.bounded {state : State} (sound : Sound limit state) :
    state.nesting = openLevels state.frames ∧ state.nesting ≤ limit ∧
      state.frames.length ≤ 2 * limit + 1 := by
  have bounded {routine : Routine} {frames : List Frame} {nesting : Nat}
      (kept : Kept limit frames nesting) (stacked : Stacked routine frames) :
      frames.length ≤ 2 * limit + 1 := by
    have height := (length_of_stacked routine frames stacked).1
    have counted := kept.counted
    have within := kept.within
    omega
  cases state with
  | calling routine frames unread nesting =>
    obtain ⟨kept, stacked⟩ := sound
    exact ⟨kept.counted, kept.within, bounded kept stacked⟩
  | returning outcome frames nesting =>
    obtain ⟨kept, ⟨routine, stacked⟩, _⟩ := sound
    exact ⟨kept.counted, kept.within, bounded kept stacked⟩

/-- A call hands back the count it was made with, goes on in the tokens, and accepts a formula only
with its height and only if it took a token. -/
theorem call_returns (positive : 0 < limit) {routine : Routine} {frames : List Frame}
    {unread : List Located} {nesting after : Nat} {outcome : Outcome}
    (sound : Sound limit (.calling routine frames unread nesting))
    (reaches : Reaches finish limit (.calling routine frames unread nesting)
      (.returning outcome frames after)) :
    after = nesting ∧ outcome.unread <:+ unread ∧
      ∀ formula height rest, outcome = .accepted formula height rest →
        rest.length < unread.length ∧ height = formula.height ∧ height ≤ limit := by
  have advances := reaches_advances reaches
  obtain ⟨kept, _, truthful⟩ := reaches_sound positive sound reaches
  -- The same calls wait before and after, and the count is theirs in both states.
  refine ⟨kept.counted.trans sound.1.counted.symm, advances.suffix, ?_⟩
  rintro formula height rest rfl
  have taken : rest.length < unread.length := (advances.taken rfl).resolve_left Bool.noConfusion
  exact ⟨taken, truthful.1, truthful.2⟩

/-- At the limit the routine for an operand calls nothing to read inside a negation or a
parenthesis. -/
theorem step_at_limit (frames : List Frame) (position : Nat) (rest : List Located) (token : Token)
    (opens : token = .reserved .not ∨ token = .openParen) :
    step finish limit (.calling .operand frames (⟨token, position⟩ :: rest) limit)
      = some (.returning (.refused ⟨.tooDeep, position⟩ rest) frames limit) := by
  rcases opens with rfl | rfl <;> exact congrArg some (if_neg (Nat.lt_irrefl limit))

/-- The calls of the reader are bounded on every sequence of tokens. The run from the outset ends in
what the reader comes to. At the limit a further level is refused before any call is made for its
inside. In every state on the way the count is the number of open levels among the calls that wait
and keeps within the limit. Every call comes to what the reader comes to, and however it returns, it
hands back the count that it was made with and has only gone on in the tokens; with a formula it
hands back its height, and it has taken a token. -/
theorem calls_are_bounded (finish : Nat) (tokens : List Located) :
    Reaches finish maxHeight (start tokens)
      (.returning (Formula.read finish maxHeight tokens) [] 0) ∧
    (∀ frames token position rest, token = .reserved .not ∨ token = .openParen →
      step finish maxHeight (.calling .operand frames (⟨token, position⟩ :: rest) maxHeight)
        = some (.returning (.refused ⟨.tooDeep, position⟩ rest) frames maxHeight)) ∧
    ∀ state, Reaches finish maxHeight (start tokens) state →
      (state.nesting = openLevels state.frames ∧ state.nesting ≤ maxHeight ∧
        state.frames.length ≤ 2 * maxHeight + 1) ∧
      state.unread <:+ tokens ∧
      ∀ routine frames unread nesting, state = .calling routine frames unread nesting →
        Reaches finish maxHeight state (.returning
          (routine.outcome finish maxHeight (maxHeight - nesting) unread) frames nesting) ∧
        ∀ outcome after, Reaches finish maxHeight state (.returning outcome frames after) →
          after = nesting ∧ outcome.unread <:+ unread ∧
          ∀ formula height rest, outcome = .accepted formula height rest →
            rest.length < unread.length ∧ height = formula.height ∧ height ≤ maxHeight := by
  have positive : 0 < maxHeight := by decide
  constructor
  · exact call_reaches .expression [] tokens 0 (Nat.zero_le _)
  constructor
  · intro frames token position rest opens
    exact step_at_limit frames position rest token opens
  intro state reaches
  have sound := reaches_sound positive (start_sound maxHeight tokens) reaches
  refine ⟨sound.bounded, (reaches_advances reaches).suffix, ?_⟩
  rintro routine frames unread nesting rfl
  constructor
  · exact call_reaches routine frames unread nesting sound.1.within
  · intro outcome after returned
    exact call_returns positive sound returned

/-- Reading `(p`, the operand inside the parenthesis is called with one open level and hands it
back, although the text is refused in the end for want of the closing parenthesis. -/
theorem calls_are_bounded_in_group :
    (Reaches 2 maxHeight (start [⟨.openParen, 0⟩, ⟨.identifier "p", 1⟩])
        (.calling .operand [.first, .group 0, .first] [⟨.identifier "p", 1⟩] 1) ∧
      1 = openLevels [.first, .group 0, .first] ∧ 1 ≤ maxHeight ∧ 3 ≤ 2 * maxHeight + 1 ∧
      [⟨.identifier "p", 1⟩] <:+ [⟨.openParen, 0⟩, (⟨.identifier "p", 1⟩ : Located)]) ∧
    (Reaches 2 maxHeight (.calling .operand [.first, .group 0, .first] [⟨.identifier "p", 1⟩] 1)
        (.returning (.accepted (.var "p") 1 []) [.first, .group 0, .first] 1) ∧
      1 = 1 ∧ [] <:+ [(⟨.identifier "p", 1⟩ : Located)] ∧
      0 < 1 ∧ 1 = (Formula.var "p").height ∧ 1 ≤ maxHeight) ∧
    step 2 maxHeight (.calling .operand [.first] [⟨.openParen, 0⟩] maxHeight)
      = some (.returning (.refused ⟨.tooDeep, 0⟩ []) [.first] maxHeight) ∧
    Reaches 2 maxHeight (start [⟨.openParen, 0⟩, ⟨.identifier "p", 1⟩])
      (.returning (.refused ⟨.unclosedParen, 2⟩ []) [] 0) := by
  obtain ⟨ends, refuses, along⟩ := calls_are_bounded 2 [⟨.openParen, 0⟩, ⟨.identifier "p", 1⟩]
  have called : Reaches 2 maxHeight (start [⟨.openParen, 0⟩, ⟨.identifier "p", 1⟩])
      (.calling .operand [.first, .group 0, .first] [⟨.identifier "p", 1⟩] 1) := by
    apply Reaches.head rfl
    apply Reaches.head rfl
    exact Reaches.single rfl
  have returned : Reaches 2 maxHeight
      (.calling .operand [.first, .group 0, .first] [⟨.identifier "p", 1⟩] 1)
      (.returning (.accepted (.var "p") 1 []) [.first, .group 0, .first] 1) :=
    Reaches.single rfl
  have refused : Formula.read 2 maxHeight [⟨.openParen, 0⟩, ⟨.identifier "p", 1⟩]
      = .refused ⟨.unclosedParen, 2⟩ [] := by
    simp [Formula.read, Formula.expression, Formula.operand, Formula.chain, maxHeight,
      Outcome.enclosed]
  obtain ⟨⟨counted, within, stacked⟩, suffix, returns⟩ := along _ called
  obtain ⟨_, handsBack⟩ := returns _ _ _ _ rfl
  obtain ⟨restored, onward, accepts⟩ := handsBack _ _ returned
  exact ⟨⟨called, counted, within, stacked, suffix⟩,
    ⟨returned, restored, onward, accepts _ _ _ rfl⟩, refuses _ _ _ _ (.inr rfl), refused ▸ ends⟩

end CallStack

end Sentential
