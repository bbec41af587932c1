import Mathlib.Logic.Relation
import Sentential.Proofs.Reading

/-!
# The calls of the reader

Reading a formula is a recursion of two routines that call each other: one reads an operand, the
other an expression. Here the recursion is carried out step by step, with the calls that have not
returned yet on a stack of frames. As it runs it counts the levels of negations and parentheses that
are open: a level is entered if there is room for it below the limit, counted while its inside is
read, and no longer counted once its inside has been read, be it accepted or refused.

Step by step, the two routines come to what the reader comes to.
-/

namespace Sentential

namespace Outcome

/-- The tokens that were not read. -/
def unread : Outcome → List Located
  | .accepted _ _ unread => unread
  | .refused _ unread => unread

/-- Whether a formula was accepted. -/
def isAccepted : Outcome → Bool
  | .accepted _ _ _ => true
  | .refused _ _ => false

end Outcome

namespace CallStack

open Formula

/-- The two routines that call each other. -/
inductive Routine where
  | operand
  | expression
deriving DecidableEq

/-- What a call waits for while another one runs on its behalf. -/
inductive Frame where
  /-- An expression waits for its first operand. -/
  | first
  /-- An expression waits for the operand to the right of a connective. -/
  | right (left : Formula) (height : Nat) (connective : Connective) (position : Nat)
  /-- An operand waits for what its negation applies to. -/
  | negation (position : Nat)
  /-- An operand waits for the inside of its parentheses. -/
  | group (position : Nat)
deriving DecidableEq

/-- A routine is called or has come to an outcome. Either way there are the calls that wait, the
innermost first, and the count of open levels. -/
inductive State where
  | calling (routine : Routine) (frames : List Frame) (unread : List Located) (nesting : Nat)
  | returning (outcome : Outcome) (frames : List Frame) (nesting : Nat)
deriving DecidableEq

namespace State

/-- The calls that wait. -/
def frames : State → List Frame
  | .calling _ frames _ _ => frames
  | .returning _ frames _ => frames

/-- The count of open levels. -/
def nesting : State → Nat
  | .calling _ _ _ nesting => nesting
  | .returning _ _ nesting => nesting

/-- The tokens that have not been read. -/
def unread : State → List Located
  | .calling _ _ unread _ => unread
  | .returning outcome _ _ => outcome.unread

/-- Whether a formula was just accepted. -/
def isAccepted : State → Bool
  | .calling _ _ _ _ => false
  | .returning outcome _ _ => outcome.isAccepted

end State

/-- Enters a level if there is room for it, and calls a routine for its inside. -/
def enter (limit position : Nat) (frame : Frame) (routine : Routine) (frames : List Frame)
    (rest : List Located) (nesting : Nat) : State :=
  if nesting < limit then .calling routine (frame :: frames) rest (nesting + 1)
  else .returning (.refused ⟨.tooDeep, position⟩ rest) frames nesting

/-- What the routine for an operand does first. -/
def begin (finish limit : Nat) (frames : List Frame) (nesting : Nat) : List Located → State
  | [] => .returning (.refused ⟨.missingOperand, finish⟩ []) frames nesting
  | ⟨.identifier name, _⟩ :: rest => .returning (.accepted (.var name) 1 rest) frames nesting
  | ⟨.reserved (.binary connective), position⟩ :: rest =>
    .returning (.refused ⟨.reservedWord (.binary connective), position⟩ rest) frames nesting
  | ⟨.closeParen, position⟩ :: rest =>
    .returning (.refused ⟨.unmatchedParen, position⟩ rest) frames nesting
  | ⟨.reserved .not, position⟩ :: rest =>
    enter limit position (.negation position) .operand frames rest nesting
  | ⟨.openParen, position⟩ :: rest =>
    enter limit position (.group position) .expression frames rest nesting

/-- What the routine for an expression does once it has read `left`. -/
def proceed (left : Formula) (height : Nat) (frames : List Frame) (nesting : Nat) :
    List Located → State
  | ⟨.reserved (.binary connective), position⟩ :: rest =>
    .calling .operand (.right left height connective position :: frames) rest nesting
  | tokens => .returning (.accepted left height tokens) frames nesting

/-- What a waiting call does with the outcome of the call that it waited for. A level is closed
whatever the outcome is. -/
def resume (finish limit : Nat) (frames : List Frame) (nesting : Nat) : Frame → Outcome → State
  | .negation position, outcome =>
    .returning (outcome.negated limit position) frames (nesting - 1)
  | .group position, outcome =>
    .returning (outcome.enclosed finish limit position) frames (nesting - 1)
  | .first, .accepted left height unread => proceed left height frames nesting unread
  | .first, .refused error unread => .returning (.refused error unread) frames nesting
  | .right left height connective position, .accepted right rightHeight unread =>
    if 1 + max height rightHeight ≤ limit then
      proceed (.binary connective left right) (1 + max height rightHeight) frames nesting unread
    else .returning (.refused ⟨.tooDeep, position⟩ unread) frames nesting
  | .right _ _ _ _, .refused error unread => .returning (.refused error unread) frames nesting

/-- One step. There is none once no call waits for the outcome. -/
def step (finish limit : Nat) : State → Option State
  | .calling .expression frames unread nesting =>
    some (.calling .operand (.first :: frames) unread nesting)
  | .calling .operand frames unread nesting => some (begin finish limit frames nesting unread)
  | .returning outcome (frame :: frames) nesting =>
    some (resume finish limit frames nesting frame outcome)
  | .returning _ [] _ => none

/-- Some steps lead from the one state to the other. -/
def Reaches (finish limit : Nat) : State → State → Prop :=
  Relation.ReflTransGen fun state next => step finish limit state = some next

/-- The state in which reading begins. -/
def start (tokens : List Located) : State := .calling .expression [] tokens 0

/-- What a routine of the reader comes to. -/
def Routine.outcome (finish limit levels : Nat) : Routine → List Located → Outcome
  | .operand => Formula.operand finish limit levels
  | .expression => Formula.expression limit (Formula.operand finish limit levels)

variable {finish limit : Nat}

/-- A step calls the operand that an expression begins with, begins with an operand, or resumes the
innermost of the calls that wait. -/
theorem step_cases {state next : State} (stepped : step finish limit state = some next) :
    (∃ frames unread nesting, state = .calling .expression frames unread nesting ∧
      next = .calling .operand (.first :: frames) unread nesting) ∨
    (∃ frames unread nesting, state = .calling .operand frames unread nesting ∧
      next = begin finish limit frames nesting unread) ∨
    ∃ outcome frame frames nesting, state = .returning outcome (frame :: frames) nesting ∧
      next = resume finish limit frames nesting frame outcome := by
  match state with
  | .calling .expression frames unread nesting =>
    exact .inl ⟨frames, unread, nesting, rfl, (Option.some.inj stepped).symm⟩
  | .calling .operand frames unread nesting =>
    exact .inr (.inl ⟨frames, unread, nesting, rfl, (Option.some.inj stepped).symm⟩)
  | .returning outcome (frame :: frames) nesting =>
    exact .inr (.inr ⟨outcome, frame, frames, nesting, rfl, (Option.some.inj stepped).symm⟩)
  | .returning outcome [] nesting => exact absurd stepped (Option.some_ne_none next).symm

/-! ## The steps carry out the recursion -/

/-- One step on the way. -/
theorem Reaches.head {state next last : State} (stepped : step finish limit state = some next)
    (further : Reaches finish limit next last) : Reaches finish limit state last :=
  Relation.ReflTransGen.head stepped further

/-- A single step. -/
theorem Reaches.single {state next : State} (stepped : step finish limit state = some next) :
    Reaches finish limit state next :=
  Relation.ReflTransGen.single stepped

/-- A chain comes to what the reader comes to, provided that its operands do. The induction is along
the chain: each operand returns to the expression, which then goes on or gives up. -/
theorem chain_reaches (operand : List Located → Outcome) (nesting : Nat)
    (reaches : ∀ frames tokens, Reaches finish limit (.calling .operand frames tokens nesting)
      (.returning (operand tokens) frames nesting))
    (left : Formula) (height : Nat) (frames : List Frame) (tokens : List Located) :
    Reaches finish limit (proceed left height frames nesting tokens)
      (.returning (chain limit operand left height tokens) frames nesting) := by
  fun_induction chain limit operand left height tokens with
  | case1 left height connective position rest error unread refused =>
    have called := reaches (.right left height connective position :: frames) rest
    rw [refused] at called
    exact called.trans (.single rfl)
  | case2 left height connective position rest right rightHeight unread accepted fits
      inductionHypothesis =>
    have called := reaches (.right left height connective position :: frames) rest
    rw [accepted] at called
    apply called.trans
    apply Reaches.head _ inductionHypothesis
    exact congrArg some (if_pos fits)
  | case3 left height connective position rest right rightHeight unread accepted exceeds =>
    have called := reaches (.right left height connective position :: frames) rest
    rw [accepted] at called
    apply called.trans
    apply Reaches.single
    exact congrArg some (if_neg exceeds)
  | case4 left height tokens noConnective =>
    rw [proceed]
    · exact .refl
    · exact noConnective

/-- An expression comes to what the reader comes to, provided that its operands do. -/
theorem expression_reaches (operand : List Located → Outcome) (nesting : Nat)
    (reaches : ∀ frames tokens, Reaches finish limit (.calling .operand frames tokens nesting)
      (.returning (operand tokens) frames nesting))
    (frames : List Frame) (tokens : List Located) :
    Reaches finish limit (.calling .expression frames tokens nesting)
      (.returning (expression limit operand tokens) frames nesting) := by
  apply Reaches.head rfl
  apply (reaches (.first :: frames) tokens).trans
  unfold expression
  cases operand tokens with
  | refused error unread => exact .single rfl
  | accepted left height unread =>
    exact .head rfl (chain_reaches operand nesting reaches left height frames unread)

/-- An operand comes to what the reader comes to that may still enter the levels left below the
limit. The calls that wait are as before, and so is the count. -/
theorem operand_reaches (levels : Nat) (tokens : List Located) (frames : List Frame) (nesting : Nat)
    (left : levels + nesting = limit) :
    Reaches finish limit (.calling .operand frames tokens nesting)
      (.returning (operand finish limit levels tokens) frames nesting) := by
  induction levels, tokens using operand_induction generalizing frames nesting with
  | ended levels
  | name levels name position rest
  | connective levels connective position rest
  | closing levels position rest =>
    rw [operand]
    exact .single rfl
  | lastNegation position rest
  | lastGroup position rest =>
    rw [operand]
    -- With no level left the count stands at the limit, so the routine finds no room either.
    have full : ¬ nesting < limit := by omega
    exact .single (congrArg some (if_neg full))
  | negation levels position rest inductionHypothesis =>
    rw [operand]
    have room : nesting < limit := by omega
    have entered : step finish limit
        (.calling .operand frames (⟨.reserved .not, position⟩ :: rest) nesting)
          = some (.calling .operand (.negation position :: frames) rest (nesting + 1)) :=
      congrArg some (if_pos room)
    apply Reaches.head entered
    apply (inductionHypothesis rest (.negation position :: frames) (nesting + 1) (by omega)).trans
    exact .single rfl
  | group levels position rest inductionHypothesis =>
    rw [operand]
    have room : nesting < limit := by omega
    have entered : step finish limit
        (.calling .operand frames (⟨.openParen, position⟩ :: rest) nesting)
          = some (.calling .expression (.group position :: frames) rest (nesting + 1)) :=
      congrArg some (if_pos room)
    apply Reaches.head entered
    have inside := fun frames tokens => inductionHypothesis tokens frames (nesting + 1) (by omega)
    apply (expression_reaches _ (nesting + 1) inside (.group position :: frames) rest).trans
    exact .single rfl

/-- A call of either routine comes to what the reader comes to. -/
theorem call_reaches (routine : Routine) (frames : List Frame) (tokens : List Located)
    (nesting : Nat) (within : nesting ≤ limit) :
    Reaches finish limit (.calling routine frames tokens nesting)
      (.returning (routine.outcome finish limit (limit - nesting) tokens) frames nesting) := by
  have left : limit - nesting + nesting = limit := Nat.sub_add_cancel within
  cases routine with
  | operand => exact operand_reaches _ tokens frames nesting left
  | expression =>
    apply expression_reaches
    intro frames tokens
    exact operand_reaches _ tokens frames nesting left

end CallStack

end Sentential
