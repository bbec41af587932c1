import Sentential.Proofs.LexicalErrors
import Sentential.Proofs.Parsing
import Sentential.Proofs.Spacing

/-!
# Joining two texts by a connective

Two texts that are sentences can be joined by a connective, with the second one in parentheses. The
tokens of the whole are those of both texts, and the formula joins their formulas, whatever the texts
look like. A sentence is read inside a group as it is read alone: the level of the group is taken from
those that may be entered, but the height of the sentence leaves one to spare.

So only the height of the whole can be too much. If the second sentence is as high as a sentence can
be, its group is too high already, which is noticed at the parenthesis. Otherwise the whole is what is
too high, which is noticed at the connective.
-/

namespace Sentential

open Text Segmentation

/-! ## The tokens of the whole -/

/-- A reserved word in any mixture of upper and lower case is read as such before a space, and the
space is passed over. -/
theorem scan_reserved_word (found : List Located) (position : Nat) {word : List Char}
    {keyword : Keyword} (reserved : IsReserved word keyword) (after : List Char) :
    Token.scan found position (word ++ ' ' :: after)
      = Token.scan (⟨.reserved keyword, position⟩ :: found) (position + byteLength word + 1) after := by
  have isWord := isWord_of_reserved reserved
  have stands : Stands word (' ' :: after) := by
    refine isWord.stands ?_ ?_
    · rintro c ⟨⟩
      exact space_apart.2
    · intro _ _
      exact ⟨' ', rfl, space_apart.1⟩
  have spells : Spells word (.reserved keyword) := ⟨isWord, reserved⟩
  rw [scan_lexeme found position stands spells, scan_space]

/-- A text that has tokens has the same ones after others, further on by the bytes before it. -/
theorem scan_later {text : List Char} {tokens : List Located}
    (read : Token.scan [] 0 text = .ok tokens) (found : List Located) (position : Nat) :
    Token.scan found position text
      = .ok (found.reverse ++ tokens.map (Located.moved (widened 0 position))) := by
  have moved := scan_moved text [] position (Nat.le_refl 0)
  rw [read, List.map_nil, Nat.zero_add] at moved
  rw [Token.scan_found, moved]
  rfl

/-- Moving tokens changes nothing but their places. -/
theorem map_token_moved (move : Nat → Nat) (tokens : List Located) :
    (tokens.map (Located.moved move)).map Located.token = tokens.map Located.token := by
  rw [List.map_map]
  rfl

/-- Two texts, the second one in parentheses, joined by a word. -/
def joinedTexts (first word second : String) : String :=
  first ++ " " ++ word ++ " (" ++ second ++ ")"

/-- The joined text has the tokens of both texts, those of the first in their places, and between
and behind them the reserved word and the parentheses. -/
theorem tokenize_joinedTexts {first word second : String} {keyword : Keyword}
    {before after : List Located} (reserved : IsReserved word.toList keyword)
    (firstRead : tokenize first = .ok before) (secondRead : tokenize second = .ok after) :
    ∃ (moved : List Located) (closing : Nat),
      moved.map Located.token = after.map Located.token ∧
      tokenize (joinedTexts first word second)
        = .ok (before ++ ⟨.reserved keyword, (first ++ " ").utf8ByteSize⟩
            :: ⟨.openParen, (first ++ " " ++ word ++ " ").utf8ByteSize⟩
            :: (moved ++ [⟨.closeParen, closing⟩])) := by
  have parts : (joinedTexts first word second).toList
      = first.toList ++ ' ' :: (word.toList ++ ' ' :: '(' :: (second.toList ++ [')'])) := by
    simp [joinedTexts]
  have gap : Apart first.toList
      (' ' :: (word.toList ++ ' ' :: '(' :: (second.toList ++ [')']))) := by
    rintro c _ _ d ⟨⟩
    exact space_apart.2
  have closed : Apart second.toList [')'] := by
    rintro c _ _ d ⟨⟩
    exact parens_apart.2.1
  have place : (first ++ " ").utf8ByteSize = byteLength first.toList + 1 := by
    rw [String.utf8ByteSize_append, byteLength_toList]
    rfl
  have opening : (first ++ " " ++ word ++ " ").utf8ByteSize
      = byteLength first.toList + 1 + byteLength word.toList + 1 := by
    rw [String.utf8ByteSize_append, String.utf8ByteSize_append, place, ← byteLength_toList word]
    rfl
  let inside := byteLength first.toList + 1 + byteLength word.toList + 1 + 1
  refine ⟨after.map (Located.moved (widened 0 inside)), inside + byteLength second.toList,
    map_token_moved _ after, ?_⟩
  rw [tokenize, parts, scan_append_of_ok gap firstRead, Nat.zero_add, scan_space,
    scan_reserved_word _ _ reserved, (scan_paren _ _ _).1,
    scan_append_of_ok closed (scan_later secondRead _ _), (scan_paren _ _ _).2, Token.scan, place,
    opening]
  simp only [List.reverse_cons, List.reverse_append, List.reverse_reverse, List.append_assoc,
    List.cons_append, List.nil_append, inside]

/-! ## Reading the whole -/

namespace Formula

variable {finish limit : Nat}

/-- A canonical formula within the limit is read inside a group if the levels that may be entered
there are one less than it is high. -/
theorem operand_group (levels : Nat) (formula : Formula) (canonical : formula.isCanonical = true)
    (fits : formula.height ≤ limit) (shallow : formula.height ≤ levels + 1)
    (position closing : Nat) (tokens unread : List Located)
    (written : tokens.map Located.token = formula.tokens) :
    operand finish limit (levels + 1)
        (⟨.openParen, position⟩ :: (tokens ++ ⟨.closeParen, closing⟩ :: unread))
      = Outcome.bounded limit position (.paren formula) (formula.height + 1) unread := by
  have spelled := spelled_append formula tokens (⟨.closeParen, closing⟩ :: unread) written
  rw [operand]
  rcases (reading_completes finish formula canonical levels _ _ spelled).2 with
    begun | ⟨excess, _⟩
  · rw [begun, chain_of_connectiveNext _ _ _ _ rfl]
    rfl
  · omega

/-- What reading comes to where two formulas are joined, the second one in parentheses: the formula
that joins them, if it keeps within the limit. If not, the group is refused if the second formula is as
high as the limit, and otherwise the whole. -/
theorem read_joined (positive : 0 < limit) (connective : Connective) (left right : Formula)
    (leftCanonical : left.isCanonical = true) (rightCanonical : right.isCanonical = true)
    (leftFits : left.height ≤ limit) (rightFits : right.height ≤ limit)
    (place opening closing : Nat) (before inside : List Located)
    (leftWritten : before.map Located.token = left.tokens)
    (rightWritten : inside.map Located.token = right.tokens) :
    read finish limit (before ++ ⟨.reserved (.binary connective), place⟩
        :: ⟨.openParen, opening⟩ :: (inside ++ [⟨.closeParen, closing⟩]))
      = if 1 + max left.height (right.height + 1) ≤ limit then
          .accepted (.binary connective left (.paren right))
            (1 + max left.height (right.height + 1)) []
        else .refused ⟨.tooDeep, if right.height = limit then opening else place⟩ [] := by
  obtain ⟨levels, rfl⟩ := Nat.exists_eq_add_one.mpr positive
  have spelled := spelled_append left before (⟨.reserved (.binary connective), place⟩
    :: ⟨.openParen, opening⟩ :: (inside ++ [⟨.closeParen, closing⟩])) leftWritten
  have reading := @reading_completes (levels + 1) finish left leftCanonical (levels + 1) _ _ spelled
  rcases reading.2 with begun | ⟨excess, _⟩
  · rw [read, begun, chain, operand_group levels right rightCanonical rightFits rightFits opening
      closing inside [] rightWritten, Outcome.bounded]
    by_cases highest : right.height = levels + 1
    · rw [if_pos highest, if_neg (by omega), if_neg (by omega)]
    · rw [if_neg highest, if_pos (by omega)]
      by_cases fits : 1 + max left.height (right.height + 1) ≤ levels + 1
      · rw [if_pos fits]
        exact (dif_pos fits).trans (chain_of_connectiveNext _ _ _ _ rfl)
      · rw [if_neg fits]
        exact dif_neg fits
  · omega

end Formula

namespace Sentence

open Formula

/-- Parsing is compositional. Let two texts be sentences, and let a text join the first one by a
connective, in any mixture of upper and lower case, with the second one in parentheses. If the formula
that joins theirs is no higher than `maxHeight`, the text is that sentence, and its variables are those
of the first sentence, followed by those of the second that the first has not. Otherwise the text is
too deep: at the added parenthesis if the second sentence has the greatest height, and at the
connective if not. -/
theorem parse_is_compositional (first word second : String) (connective : Connective)
    (left right : Sentence) (reserved : IsReserved word.toList (.binary connective))
    (firstAccepted : parse first = .ok left) (secondAccepted : parse second = .ok right) :
    (1 + max left.formula.height (right.formula.height + 1) ≤ maxHeight →
      ∃ sentence, parse (joinedTexts first word second) = .ok sentence ∧
        sentence.formula = .binary connective left.formula (.paren right.formula) ∧
        sentence.names = left.names ++ right.names.filter fun name => name ∉ left.names) ∧
    (maxHeight < 1 + max left.formula.height (right.formula.height + 1) →
      parse (joinedTexts first word second)
        = .error ⟨.tooDeep,
            if right.formula.height = maxHeight then (first ++ " " ++ word ++ " ").utf8ByteSize
            else (first ++ " ").utf8ByteSize⟩) := by
  obtain ⟨before, firstRead, leftRead⟩ := exists_tokens_of_parse firstAccepted
  obtain ⟨after, secondRead, rightRead⟩ := exists_tokens_of_parse secondAccepted
  obtain ⟨leftFormula, leftCanonical, leftWritten, leftFits, rfl⟩ :=
    (ofTokens_eq_ok_iff before left).mp leftRead
  obtain ⟨rightFormula, rightCanonical, rightWritten, rightFits, rfl⟩ :=
    (ofTokens_eq_ok_iff after right).mp rightRead
  obtain ⟨moved, closing, sameTokens, tokenized⟩ :=
    tokenize_joinedTexts reserved firstRead secondRead
  have reading := @read_joined (joinedTexts first word second).utf8ByteSize maxHeight (by decide)
    connective leftFormula rightFormula leftCanonical rightCanonical leftFits rightFits
    (first ++ " ").utf8ByteSize (first ++ " " ++ word ++ " ").utf8ByteSize closing before moved
    leftWritten (sameTokens.trans rightWritten)
  rw [parse_of_tokenize tokenized]
  constructor
  · intro fits
    rw [if_pos (show 1 + max leftFormula.height (rightFormula.height + 1) ≤ maxHeight from fits)]
      at reading
    exact ⟨_, ofTokens_of_accepted reading, rfl, collect_eq_append rightFormula leftFormula.names⟩
  · intro exceeds
    rw [if_neg (show ¬ 1 + max leftFormula.height (rightFormula.height + 1) ≤ maxHeight from
      Nat.not_le_of_lt exceeds)] at reading
    exact ofTokens_of_refused (by simp) reading

/-- A canonical formula that is written out is read as that formula. -/
theorem parse_written (formula : Formula) (canonical : formula.isCanonical = true)
    (fits : formula.height ≤ maxHeight)
    (named : ∀ name ∈ formula.occurrences, IsIdentifier name) :
    parse (String.ofList formula.written) = .ok (ofFormula formula) := by
  obtain ⟨tokens, tokenized, written⟩ := tokenize_written formula named
  rw [parse_of_tokenize tokenized]
  exact (ofTokens_eq_ok_iff tokens _).mpr ⟨formula, canonical, written, fits, rfl⟩

/-- A variable under a number of negations. -/
def negations : Nat → Formula
  | 0 => .var "p"
  | count + 1 => .not (negations count)

/-- Negations can be written out and are one level higher than they are many. -/
theorem negations_canonical (count : Nat) :
    (negations count).isOperand = true ∧ (negations count).isCanonical = true ∧
      (negations count).occurrences = ["p"] ∧ (negations count).height = count + 1 := by
  induction count with
  | zero => exact ⟨rfl, rfl, rfl, rfl⟩
  | succ count inductionHypothesis =>
    obtain ⟨single, canonical, occurring, levels⟩ := inductionHypothesis
    refine ⟨rfl, ?_, occurring, ?_⟩
    · rw [negations, isCanonical, single, canonical]
      rfl
    · rw [negations, Formula.height, levels, Nat.add_comm]

/-- Negations are a sentence as long as they keep within the limit. -/
theorem parse_negations (count : Nat) (fits : count < maxHeight) :
    parse (String.ofList (negations count).written) = .ok (ofFormula (negations count)) := by
  obtain ⟨_, canonical, occurring, levels⟩ := negations_canonical count
  refine parse_written (negations count) canonical (by omega) ?_
  rw [occurring]
  intro name member
  rw [List.mem_singleton.mp member]
  decide +kernel

/-- The second text brings one new variable. If its formula is as high as a sentence can be, the
parenthesis added around it is refused. -/
theorem parse_is_compositional_to_the_limit :
    (∃ sentence, parse "p and é XoR (é or\tq)" = .ok sentence ∧ sentence.names = ["p", "é", "q"]) ∧
      parse (joinedTexts "p" "and" (String.ofList (negations 511).written))
        = .error ⟨.tooDeep, 6⟩ := by
  constructor
  · have firstAccepted : parse "p and é"
        = .ok (ofFormula (.binary .and (.var "p") (.var "é"))) := by
      decide +kernel
    have secondAccepted : parse "é or\tq"
        = .ok (ofFormula (.binary .or (.var "é") (.var "q"))) := by
      decide +kernel
    obtain ⟨sentence, accepted, _, named⟩ :=
      (parse_is_compositional "p and é" "XoR" "é or\tq" .xor _ _ rfl firstAccepted
        secondAccepted).1 (by decide)
    exact ⟨sentence, accepted, named⟩
  · have single : parse "p" = .ok (ofFormula (.var "p")) := by decide +kernel
    obtain ⟨_, _, _, levels⟩ := negations_canonical 511
    have highest : (ofFormula (negations 511)).formula.height = maxHeight := levels
    have refused := (parse_is_compositional "p" "and" _ .and _ _ rfl single
      (parse_negations 511 (by decide))).2 (by rw [highest]; decide)
    rw [if_pos highest] at refused
    exact refused

end Sentence

end Sentential
