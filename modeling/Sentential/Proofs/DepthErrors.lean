import Mathlib.Data.List.DropRight
import Sentential.Proofs.LexicalErrors
import Sentential.Proofs.Reading
import Sentential.Sentence

/-!
# The token that makes a formula too deep

A text that is refused as too deep is refused at one of its tokens, and that token is to blame. It
is a negation or an opening parenthesis in front of which as many levels are open as are allowed, or
it is the root of a tree that comes out one level too high. What follows the token, or follows that
tree, has no part in it, so the text may be malformed there.

Which levels are open in front of a token is found by going along the tokens. An operand ends every
negation directly in front of it, and a closing parenthesis ends a group, which is an operand again.
-/

namespace Sentential

/-- Whether a token opens a level: a negation or an opening parenthesis. -/
def Token.opens : Token → Bool
  | .reserved .not | .openParen => true
  | .reserved (.binary _) | .closeParen | .identifier _ => false

/-- The levels that stay open behind an operand: it ends the negations directly in front of it. -/
def behindOperand (opened : List Located) : List Located :=
  opened.dropWhile fun level => level.token = .reserved .not

/-- The levels that are open behind some tokens, the innermost first, each given by the token that
opened it; `opened` are those open before. -/
def enclosing (opened : List Located) : List Located → List Located
  | [] => opened
  | ⟨.identifier _, _⟩ :: rest => enclosing (behindOperand opened) rest
  | ⟨.reserved (.binary _), _⟩ :: rest => enclosing opened rest
  | ⟨.reserved .not, position⟩ :: rest => enclosing (⟨.reserved .not, position⟩ :: opened) rest
  | ⟨.openParen, position⟩ :: rest => enclosing (⟨.openParen, position⟩ :: opened) rest
  | ⟨.closeParen, _⟩ :: rest => enclosing (behindOperand opened.tail) rest

/-- Going along the tokens may be interrupted anywhere. -/
theorem enclosing_append (opened front rest : List Located) :
    enclosing opened (front ++ rest) = enclosing (enclosing opened front) rest := by
  fun_induction enclosing opened front with
  | case1 opened => rfl
  | case2 opened name position front inductionHypothesis
  | case3 opened connective position front inductionHypothesis
  | case4 opened position front inductionHypothesis
  | case5 opened position front inductionHypothesis
  | case6 opened position front inductionHypothesis => exact inductionHypothesis

/-- An open level was open before, or it is one of the tokens and opens a level. -/
theorem mem_enclosing (opened tokens : List Located) (level : Located)
    (member : level ∈ enclosing opened tokens) :
    level ∈ opened ∨ (level ∈ tokens ∧ level.token.opens = true) := by
  have stays : ∀ levels : List Located, level ∈ behindOperand levels → level ∈ levels :=
    fun levels inside => (List.dropWhile_sublist _).subset inside
  fun_induction enclosing opened tokens with
  | case1 opened => exact .inl member
  | case2 opened name position rest inductionHypothesis =>
    rcases inductionHypothesis member with before | ⟨later, opens⟩
    · exact .inl (stays opened before)
    · exact .inr ⟨List.mem_cons_of_mem _ later, opens⟩
  | case3 opened connective position rest inductionHypothesis =>
    rcases inductionHypothesis member with before | ⟨later, opens⟩
    · exact .inl before
    · exact .inr ⟨List.mem_cons_of_mem _ later, opens⟩
  | case4 opened position rest inductionHypothesis
  | case5 opened position rest inductionHypothesis =>
    rcases inductionHypothesis member with before | ⟨later, opens⟩
    · rcases List.mem_cons.mp before with rfl | earlier
      · exact .inr ⟨List.mem_cons_self, rfl⟩
      · exact .inl earlier
    · exact .inr ⟨List.mem_cons_of_mem _ later, opens⟩
  | case6 opened position rest inductionHypothesis =>
    rcases inductionHypothesis member with before | ⟨later, opens⟩
    · exact .inl (List.mem_of_mem_tail (stays opened.tail before))
    · exact .inr ⟨List.mem_cons_of_mem _ later, opens⟩

/-- Behind an operand no further negation is ended by another one. -/
theorem behindOperand_idem (opened : List Located) :
    behindOperand (behindOperand opened) = behindOperand opened :=
  List.dropWhile_idempotent _ opened

namespace Formula

/-- The parts of a formula below its root. -/
def parts : Formula → List Formula
  | .var _ => []
  | .not operand => operand :: operand.parts
  | .binary _ left right => (left :: left.parts) ++ (right :: right.parts)
  | .paren inner => inner :: inner.parts

/-- A part of a formula is not as high as the whole. -/
theorem height_lt_of_mem_parts (formula part : Formula) (member : part ∈ formula.parts) :
    part.height < formula.height := by
  induction formula with
  | var name => exact absurd member List.not_mem_nil
  | not operand inductionHypothesis | paren operand inductionHypothesis =>
    rw [height]
    rcases List.mem_cons.mp member with rfl | deeper
    · omega
    · have below := inductionHypothesis deeper
      omega
  | binary connective left right leftHypothesis rightHypothesis =>
    rw [height]
    rcases List.mem_append.mp member with inLeft | inRight
    · rcases List.mem_cons.mp inLeft with rfl | deeper
      · omega
      · have below := leftHypothesis deeper
        omega
    · rcases List.mem_cons.mp inRight with rfl | deeper
      · omega
      · have below := rightHypothesis deeper
        omega

/-- The formula is written by the tokens `left`, the token of its root, and the tokens `right`. A
variable has no operator at its root. -/
def RootedAt (left : List Token) (root : Token) (right : List Token) : Formula → Prop
  | .var _ => False
  | .not operand => left = [] ∧ root = .reserved .not ∧ right = operand.tokens
  | .binary connective first second =>
    left = first.tokens ∧ root = .reserved (.binary connective) ∧ right = second.tokens
  | .paren inner => left = [] ∧ root = .openParen ∧ right = inner.tokens ++ [.closeParen]

/-- These are all tokens of the formula. -/
theorem RootedAt.tokens_eq {formula : Formula} {left right : List Token} {root : Token}
    (rooted : formula.RootedAt left root right) : left ++ root :: right = formula.tokens := by
  cases formula with
  | var name => exact rooted.elim
  | not operand | binary connective first second | paren inner =>
    obtain ⟨rfl, rfl, rfl⟩ := rooted
    rfl

/-- The root is a negation, an opening parenthesis or a connective. -/
theorem RootedAt.operator {formula : Formula} {left right : List Token} {root : Token}
    (rooted : formula.RootedAt left root right) :
    root.opens = true ∨ ∃ connective, root = .reserved (.binary connective) := by
  cases formula with
  | var name => exact rooted.elim
  | binary connective first second => exact .inr ⟨connective, rooted.2.1⟩
  | not operand | paren inner =>
    obtain ⟨_, rfl, _⟩ := rooted
    exact .inl rfl

/-- Behind the tokens of a formula the levels are open that are open behind an operand: those that
are opened inside are ended inside. -/
theorem Spelled.enclosing_eq {formula : Formula} {tokens unread : List Located}
    (spelled : formula.Spelled tokens unread) (opened : List Located) :
    enclosing opened tokens = enclosing (behindOperand opened) unread := by
  induction spelled generalizing opened with
  | var => rfl
  | @not operand position rest unread inner inductionHypothesis =>
    exact inductionHypothesis (⟨.reserved .not, position⟩ :: opened)
  | @binary connective left right position tokens rest unread before after leftHypothesis
      rightHypothesis =>
    rw [leftHypothesis, enclosing, rightHypothesis, behindOperand_idem]
  | @paren formula position closing rest unread inner inductionHypothesis =>
    exact inductionHypothesis (⟨.openParen, position⟩ :: opened)

/-- So it is behind exactly the tokens of a formula. -/
theorem enclosing_of_written (formula : Formula) (read : List Located)
    (written : read.map Located.token = formula.tokens) (opened : List Located) :
    enclosing opened read = behindOperand opened :=
  ((spelled_nil_iff formula read).mpr written).enclosing_eq opened

/-- Some of the tokens around `culprit` are those of a formula that has it at its root and is one
level higher than `limit`, while all its parts keep within the limit. -/
def TooHigh (limit : Nat) (before : List Located) (culprit : Located) (after : List Located) :
    Prop :=
  ∃ (formula : Formula) (earlier left right later : List Located),
    before = earlier ++ left ∧ after = right ++ later ∧
    (left ++ culprit :: right).map Located.token = formula.tokens ∧
    formula.RootedAt (left.map Located.token) culprit.token (right.map Located.token) ∧
    formula.isCanonical = true ∧ formula.height = limit + 1 ∧
    ∀ part ∈ formula.parts, part.height ≤ limit

/-- The token at `position` is to blame, if `opened` are the levels open in front of the tokens. -/
def Blames (limit : Nat) (opened tokens : List Located) (position : Nat) : Prop :=
  ∃ (before : List Located) (culprit : Located) (after : List Located),
    tokens = before ++ culprit :: after ∧ culprit.position = position ∧
    ((culprit.token.opens = true ∧ (enclosing opened before).length = limit) ∨
      TooHigh limit before culprit after)

/-- A refusal as too deep blames a token. -/
def Justified (limit : Nat) (opened tokens : List Located) : Outcome → Prop
  | .accepted _ _ _ => True
  | .refused error _ => error.cause = .tooDeep → Blames limit opened tokens error.position

variable {finish limit : Nat} {opened : List Located}

/-- A formula is one level too high if its height says so. -/
theorem tooHigh_of_rooted (formula : Formula) (earlier left right later : List Located)
    (culprit : Located) (canonical : formula.isCanonical = true)
    (rooted : formula.RootedAt (left.map Located.token) culprit.token (right.map Located.token))
    (high : formula.height = limit + 1) :
    TooHigh limit (earlier ++ left) culprit (right ++ later) := by
  refine ⟨formula, earlier, left, right, later, rfl, rfl, ?_, rooted, canonical, high, ?_⟩
  · rw [List.map_append, List.map_cons, rooted.tokens_eq]
  · intro part member
    have below := height_lt_of_mem_parts formula part member
    omega

/-- More tokens in front make a tree no less high. -/
theorem TooHigh.append {before after : List Located} {culprit : Located}
    (high : TooHigh limit before culprit after) (front : List Located) :
    TooHigh limit (front ++ before) culprit after := by
  obtain ⟨formula, earlier, left, right, later, rfl, split, rest⟩ := high
  exact ⟨formula, front ++ earlier, left, right, later, (List.append_assoc _ _ _).symm, split, rest⟩

/-- With more tokens in front, the same token is to blame. -/
theorem Blames.append {rest : List Located} {position : Nat} (front : List Located)
    (blames : Blames limit (enclosing opened front) rest position) :
    Blames limit opened (front ++ rest) position := by
  obtain ⟨before, culprit, after, rfl, place, cause⟩ := blames
  refine ⟨front ++ before, culprit, after, (List.append_assoc _ _ _).symm, place, ?_⟩
  rcases cause with ⟨opens, full⟩ | high
  · refine .inl ⟨opens, ?_⟩
    rwa [enclosing_append]
  · exact .inr (high.append front)

/-- A token that opens a level is to blame where all levels are open. -/
theorem blames_at_limit (full : opened.length = limit) (culprit : Located)
    (opens : culprit.token.opens = true) (rest : List Located) :
    Blames limit opened (culprit :: rest) culprit.position :=
  ⟨[], culprit, rest, rfl, rfl, .inl ⟨opens, full⟩⟩

/-- A finished tree is refused only if it is one level too high, at the token of its root. -/
theorem bounded_justified {formula : Formula} {height : Nat} {right unread : List Located}
    (culprit : Located) (canonical : formula.isCanonical = true)
    (rooted : formula.RootedAt [] culprit.token (right.map Located.token))
    (known : height = formula.height) (near : height ≤ limit + 1) :
    Justified limit opened (culprit :: (right ++ unread))
      (Outcome.bounded limit culprit.position formula height unread) := by
  unfold Outcome.bounded
  by_cases fits : height ≤ limit
  · rw [if_pos fits]
    trivial
  · rw [if_neg fits]
    intro _
    have exceeds : formula.height = limit + 1 := by omega
    exact ⟨[], culprit, right ++ unread, rfl, rfl,
      .inr (tooHigh_of_rooted formula [] [] right unread culprit canonical rooted exceeds)⟩

/-- A negation is refused for its own height or for a token in its operand. -/
theorem negated_justified {rest : List Located} {outcome : Outcome} (position : Nat)
    (justified : Justified limit (⟨.reserved .not, position⟩ :: opened) rest outcome)
    (sound : ∀ formula height unread, outcome = .accepted formula height unread →
      formula.isOperand = true ∧ Reads limit rest formula height unread) :
    Justified limit opened (⟨.reserved .not, position⟩ :: rest)
      (outcome.negated limit position) := by
  cases outcome with
  | refused error unread => exact fun deep => .append [⟨.reserved .not, position⟩] (justified deep)
  | accepted inner height unread =>
    obtain ⟨single, reads⟩ := sound inner height unread rfl
    obtain ⟨read, rfl, written⟩ := reads.spelled.exists_read
    refine bounded_justified ⟨.reserved .not, position⟩ ?_ ⟨rfl, rfl, written⟩ ?_
      (Nat.succ_le_succ reads.fits)
    · rw [isCanonical, single, reads.canonical]
      rfl
    · rw [Formula.height, ← reads.height_eq, Nat.add_comm]

/-- A group is refused for its own height or for a token inside it. -/
theorem enclosed_justified {rest : List Located} {outcome : Outcome} (position : Nat)
    (justified : Justified limit (⟨.openParen, position⟩ :: opened) rest outcome)
    (sound : ∀ formula height unread, outcome = .accepted formula height unread →
      Reads limit rest formula height unread) :
    Justified limit opened (⟨.openParen, position⟩ :: rest)
      (outcome.enclosed finish limit position) := by
  unfold Outcome.enclosed
  split
  · exact fun deep => .append [⟨.openParen, position⟩] (justified deep)
  · exact fun deep => absurd deep SyntaxError.Cause.noConfusion
  · rename_i inner height closing unread
    have reads := sound inner height _ rfl
    obtain ⟨read, split, written⟩ := reads.spelled.exists_read
    have whole : rest = (read ++ [⟨.closeParen, closing⟩]) ++ unread := by
      rw [split, List.append_assoc, List.singleton_append]
    subst whole
    refine bounded_justified ⟨.openParen, position⟩ reads.canonical ⟨rfl, rfl, ?_⟩ ?_
      (Nat.succ_le_succ reads.fits)
    · rw [List.map_append, written, List.map_singleton]
    · rw [Formula.height, ← reads.height_eq, Nat.add_comm]
  · exact fun deep => absurd deep SyntaxError.Cause.noConfusion

section Operands

variable (operand : List Located → Outcome) (closed : behindOperand opened = opened)
  (sound : ∀ tokens formula height unread, operand tokens = .accepted formula height unread →
    formula.isOperand = true ∧ Reads limit tokens formula height unread)
  (justified : ∀ tokens, Justified limit opened tokens (operand tokens))

include closed sound justified

/-- A chain is refused for a token in one of its operands, or for the connective that makes it too
high: the tree before it and its right operand keep within the limit. In front of each operand the
same levels are open as in front of the chain. -/
theorem chain_justified (start : List Located) (left : Formula) (height : Nat)
    (tokens : List Located) (before : Reads limit start left height tokens) :
    Justified limit opened start (chain limit operand left height tokens) := by
  fun_induction chain limit operand left height tokens with
  | case1 left height connective position rest error unread refused =>
    have inside := justified rest
    rw [refused] at inside
    obtain ⟨read, rfl, written⟩ := before.spelled.exists_read
    have here : enclosing opened (read ++ [⟨.reserved (.binary connective), position⟩]) = opened := by
      rw [enclosing_append, enclosing_of_written left read written, closed]
      rfl
    intro deep
    rw [← List.singleton_append, ← List.append_assoc]
    apply Blames.append
    rw [here]
    exact inside deep
  | case2 left height connective position rest right rightHeight unread accepted fits
      inductionHypothesis =>
    obtain ⟨single, after⟩ := sound _ _ _ _ accepted
    exact inductionHypothesis (before.extend single after fits)
  | case3 left height connective position rest right rightHeight unread accepted exceeds =>
    obtain ⟨single, after⟩ := sound _ _ _ _ accepted
    obtain ⟨leftRead, rfl, leftWritten⟩ := before.spelled.exists_read
    obtain ⟨rightRead, rfl, rightWritten⟩ := after.spelled.exists_read
    intro _
    refine ⟨leftRead, ⟨.reserved (.binary connective), position⟩, rightRead ++ unread, rfl, rfl,
      .inr ?_⟩
    refine tooHigh_of_rooted (.binary connective left right) [] leftRead rightRead unread _
      ?_ ⟨leftWritten, rfl, rightWritten⟩ ?_
    · simp [isCanonical, before.canonical, single, after.canonical]
    · have leftFits := before.fits
      have rightFits := after.fits
      rw [Formula.height, ← before.height_eq, ← after.height_eq]
      omega
  | case4 left height tokens noConnective => trivial

/-- An expression is refused for a token in its first operand or in the chain. -/
theorem expression_justified (tokens : List Located) :
    Justified limit opened tokens (expression limit operand tokens) := by
  have begun := justified tokens
  unfold expression
  cases first : operand tokens with
  | refused error unread =>
    rw [first] at begun
    exact begun
  | accepted left height unread =>
    exact chain_justified operand closed sound justified tokens left height unread
      (sound _ _ _ _ first).2

end Operands

/-- An operand is refused as too deep for a reason, if as many levels may still be entered as are
left below the limit. -/
theorem operand_justified (finish : Nat) (positive : 0 < limit) (levels : Nat)
    (tokens opened : List Located) (left : levels + opened.length = limit) :
    Justified limit opened tokens (operand finish limit levels tokens) := by
  induction levels, tokens using operand_induction generalizing opened with
  | ended levels | connective levels connective position rest | closing levels position rest =>
    rw [operand]
    exact fun deep => absurd deep SyntaxError.Cause.noConfusion
  | lastNegation position rest | lastGroup position rest =>
    rw [operand]
    intro _
    exact blames_at_limit (by omega) _ rfl rest
  | name levels name position rest =>
    rw [operand]
    trivial
  | negation levels position rest inductionHypothesis =>
    rw [operand]
    refine negated_justified position
      (inductionHypothesis rest _ (by rw [List.length_cons]; omega)) ?_
    intro formula height unread accepted
    exact operand_sound finish positive _ _ _ _ _ accepted
  | group levels position rest inductionHypothesis =>
    rw [operand]
    have sound := operand_sound finish positive levels
    refine enclosed_justified position (expression_justified _ rfl sound
      (fun tokens => inductionHypothesis tokens _ (by rw [List.length_cons]; omega)) rest) ?_
    intro formula height unread accepted
    exact expression_sound _ sound _ _ _ _ accepted

end Formula

namespace Sentence

open Formula

/-- Tokens are refused as too deep for a reason. -/
theorem blames_of_ofTokens {finish position : Nat} {tokens : List Located}
    (refused : ofTokens finish tokens = .error ⟨.tooDeep, position⟩) :
    Blames maxHeight [] tokens position := by
  have positive : 0 < maxHeight := by decide
  have justified : Justified maxHeight [] tokens (Formula.read finish maxHeight tokens) :=
    expression_justified _ rfl (operand_sound finish positive maxHeight)
      (fun tokens => operand_justified finish positive maxHeight tokens [] rfl) tokens
  unfold ofTokens at refused
  split at refused
  · simp at refused
  · split at refused
    · rename_i error unread reading
      rw [reading] at justified
      obtain rfl := Except.error.inj refused
      exact justified rfl
    · simp at refused
    · simp at refused
    · simp at refused

/-- Splitting a text into tokens goes to no depth. -/
theorem tokenize_ne_tooDeep (text : String) (position : Nat) :
    tokenize text ≠ .error ⟨.tooDeep, position⟩ := by
  intro failed
  obtain ⟨_, _, _, _, violation⟩ := violated_of_scan text.toList [] 0 _ failed
  cases violation

/-- Opening parentheses in consecutive places. -/
def openings (start count : Nat) : List Located :=
  (List.range' start count).map fun position => ⟨.openParen, position⟩

/-- A text of opening parentheses has nothing but these tokens. -/
theorem scan_openings (count : Nat) (found : List Located) (position : Nat) :
    Token.scan found position (List.replicate count '(')
      = .ok (found.reverse ++ openings position count) := by
  induction count generalizing found position with
  | zero => rw [List.replicate_zero, Token.scan, openings, List.range'_zero, List.map_nil,
      List.append_nil]
  | succ count inductionHypothesis =>
    rw [List.replicate_succ, (scan_paren found position _).1, inductionHypothesis,
      List.reverse_cons, List.append_assoc, openings, openings, List.range'_succ, List.map_cons,
      List.singleton_append]

/-- With more opening parentheses than levels, the first one beyond the levels is refused. -/
theorem operand_openings (finish limit levels start more : Nat) :
    ∃ unread, Formula.operand finish limit levels (openings start (levels + 1 + more))
      = .refused ⟨.tooDeep, start + levels⟩ unread := by
  induction levels generalizing start with
  | zero =>
    rw [Nat.zero_add, Nat.add_comm, openings, List.range'_succ, List.map_cons, Formula.operand]
    exact ⟨_, rfl⟩
  | succ levels inductionHypothesis =>
    obtain ⟨unread, refused⟩ := inductionHypothesis (start + 1)
    have further : levels + 1 + 1 + more = levels + 1 + more + 1 := by omega
    have place : start + 1 + levels = start + (levels + 1) := by omega
    rw [place] at refused
    rw [further, openings, List.range'_succ, List.map_cons, Formula.operand]
    change ∃ unread, (expression limit _ (openings (start + 1) (levels + 1 + more))).enclosed _ _ _
      = _
    rw [expression, refused]
    exact ⟨unread, rfl⟩

/-- However many opening parentheses a text has beyond the limit, it is refused at the first one
beyond it. -/
theorem parse_openings (more : Nat) :
    parse (String.ofList (List.replicate (maxHeight + 1 + more) '('))
      = .error ⟨.tooDeep, maxHeight⟩ := by
  have tokenized : tokenize (String.ofList (List.replicate (maxHeight + 1 + more) '('))
      = .ok (openings 0 (maxHeight + 1 + more)) := by
    rw [tokenize, String.toList_ofList, scan_openings]
    rfl
  obtain ⟨unread, refused⟩ := operand_openings
    (String.ofList (List.replicate (maxHeight + 1 + more) '(')).utf8ByteSize maxHeight maxHeight 0
    more
  have count : maxHeight + 1 + more = maxHeight + more + 1 := by omega
  rw [parse, tokenized]
  rw [count, openings, List.range'_succ, List.map_cons] at refused ⊢
  simp only [ofTokens, Formula.read, expression, refused, Nat.zero_add]

/-- Every refusal as too deep is justified and points at the culprit, whether or not the rest of the
text is well formed. The place is that of a token, and the token is a negation or an opening
parenthesis in front of which `maxHeight` levels are open, or it is the root of a tree that is
written by the tokens around it and is one level too high, while everything below the root keeps
within the limit. -/
theorem tooDeep_is_justified (text : String) (position : Nat)
    (refused : parse text = .error ⟨.tooDeep, position⟩) :
    ∃ (before : List Located) (culprit : Located) (after : List Located),
      tokenize text = .ok (before ++ culprit :: after) ∧ culprit.position = position ∧
      (culprit.token.opens = true ∨
        ∃ connective, culprit.token = .reserved (.binary connective)) ∧
      ((culprit.token.opens = true ∧ (enclosing [] before).length = maxHeight ∧
          ∀ level ∈ enclosing [] before, level ∈ before ∧ level.token.opens = true) ∨
        TooHigh maxHeight before culprit after) := by
  unfold parse at refused
  cases tokenized : tokenize text with
  | error error =>
    rw [tokenized] at refused
    obtain rfl := Except.error.inj refused
    exact absurd tokenized (tokenize_ne_tooDeep text position)
  | ok tokens =>
    rw [tokenized] at refused
    obtain ⟨before, culprit, after, rfl, place, cause⟩ := blames_of_ofTokens refused
    refine ⟨before, culprit, after, rfl, place, ?_, ?_⟩
    · rcases cause with ⟨opens, _⟩ | ⟨formula, _, _, _, _, _, _, _, rooted, _⟩
      · exact .inl opens
      · exact rooted.operator
    · rcases cause with ⟨opens, full⟩ | high
      · refine .inl ⟨opens, full, ?_⟩
        intro level member
        exact (mem_enclosing [] before level member).resolve_left List.not_mem_nil
      · exact .inr high

/-- Of six hundred opening parentheses that are never closed, the first one beyond the limit is
refused. -/
theorem tooDeep_is_justified_unclosed :
    parse (String.ofList (List.replicate 600 '(')) = .error ⟨.tooDeep, 512⟩ ∧
    ∃ (before : List Located) (culprit : Located) (after : List Located),
      tokenize (String.ofList (List.replicate 600 '(')) = .ok (before ++ culprit :: after) ∧
      culprit.position = 512 ∧
      ((culprit.token.opens = true ∧ (enclosing [] before).length = 512) ∨
        TooHigh 512 before culprit after) := by
  have refused : parse (String.ofList (List.replicate 600 '(')) = .error ⟨.tooDeep, 512⟩ :=
    parse_openings 87
  obtain ⟨before, culprit, after, tokenized, place, _, cause⟩ := tooDeep_is_justified _ _ refused
  refine ⟨refused, before, culprit, after, tokenized, place, ?_⟩
  exact cause.imp (fun ⟨opens, full, _⟩ => ⟨opens, full⟩) id

end Sentence

end Sentential
