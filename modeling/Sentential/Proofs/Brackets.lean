import Sentential.Proofs.Parsing
import Sentential.Proofs.TableRows
import Sentential.Proofs.Written

/-!
# What the brackets of a printed formula show

The printed form of a formula has square brackets around each connective and its operands. Square
brackets are no part of the language, so the text can be read again only with something else in
their place.

Without the brackets, the printed form of a formula that was read is read as the same formula:
reading groups chains from the left, as the formula was grouped before. With parentheses in their
place, the printed form of any formula is read as that formula with parentheses around every
connective. These change neither its variables nor its truth table, so the brackets show what the
formula means.
-/

namespace Sentential

open Text Segmentation

/-- A text with other brackets in the place of the square ones. Empty ones delete them. -/
def Text.rebracketed (opening closing text : String) : String :=
  String.ofList (text.toList.flatMap fun c =>
    if c = '[' then opening.toList else if c = ']' then closing.toList else [c])

namespace Formula

/-- The printed form of a formula with the given brackets. -/
def bracketed (opening closing : List Char) : Formula → List Char
  | .var name => name.toList
  | .not operand => Keyword.not.word.toList ++ ' ' :: operand.bracketed opening closing
  | .binary connective left right =>
    opening ++ (left.bracketed opening closing ++ ' ' ::
      ((Keyword.binary connective).word.toList ++ ' ' ::
        (right.bracketed opening closing ++ closing)))
  | .paren inner => '(' :: (inner.bracketed opening closing ++ [')'])

/-- The formula with parentheses around every connective and its operands. -/
def grouped : Formula → Formula
  | .var name => .var name
  | .not operand => .not operand.grouped
  | .binary connective left right => .paren (.binary connective left.grouped right.grouped)
  | .paren inner => .paren inner.grouped

/-- A word has no square brackets to be replaced. -/
theorem flatMap_word (opening closing word : List Char)
    (letters : ∀ c ∈ word, isWordChar c = true) :
    (word.flatMap fun c => if c = '[' then opening else if c = ']' then closing else [c])
      = word := by
  induction word with
  | nil => rfl
  | cons c word inductionHypothesis =>
    have others : ∀ d ∈ word, isWordChar d = true :=
      fun d member => letters d (List.mem_cons_of_mem c member)
    have apart : c ≠ '[' ∧ c ≠ ']' := by
      constructor
      · rintro rfl
        exact absurd (letters '[' List.mem_cons_self) (by decide)
      · rintro rfl
        exact absurd (letters ']' List.mem_cons_self) (by decide)
    rw [List.flatMap_cons, if_neg apart.1, if_neg apart.2, inductionHypothesis others]
    rfl

/-- Replacing the square brackets in the text of a formula gives the printed form with the other
brackets, since no identifier has brackets in it. -/
theorem rebracketed_text (opening closing : String) (formula : Formula)
    (named : ∀ name ∈ formula.occurrences, IsIdentifier name) :
    rebracketed opening closing formula.text
      = String.ofList (formula.bracketed opening.toList closing.toList) := by
  refine congrArg String.ofList ?_
  induction formula with
  | var name =>
    exact flatMap_word _ _ _ (named name (List.mem_singleton_self name)).word.characters
  | not operand inductionHypothesis =>
    rw [text, String.toList_append, List.flatMap_append, inductionHypothesis named, bracketed]
    simp [Keyword.word]
  | binary connective left right leftHypothesis rightHypothesis =>
    have leftNamed := fun name member => named name (List.mem_append_left _ member)
    have rightNamed := fun name member => named name (List.mem_append_right _ member)
    have word := flatMap_word opening.toList closing.toList connective.word.toList
      (fun c member => ((reserved_letters (.binary connective)).2.1 c member).1)
    simp only [text, String.toList_append, List.flatMap_append, leftHypothesis leftNamed,
      rightHypothesis rightNamed, word, bracketed]
    simp [Keyword.word]
  | paren inner inductionHypothesis =>
    simp only [text, String.toList_append, List.flatMap_append, inductionHypothesis named,
      bracketed]
    simp

/-- Without brackets, the printed form is the formula written out. -/
theorem bracketed_nil (formula : Formula) : formula.bracketed [] [] = formula.written := by
  induction formula with
  | var name => rfl
  | not operand inductionHypothesis => rw [bracketed, inductionHypothesis, written]
  | binary connective left right leftHypothesis rightHypothesis =>
    rw [bracketed, leftHypothesis, rightHypothesis, List.append_nil, List.nil_append, written]
  | paren inner inductionHypothesis => rw [bracketed, inductionHypothesis, written]

/-- With parentheses for brackets, the printed form is the grouped formula written out. -/
theorem bracketed_parens (formula : Formula) :
    formula.bracketed ['('] [')'] = formula.grouped.written := by
  induction formula with
  | var name => rfl
  | not operand inductionHypothesis => rw [bracketed, inductionHypothesis, grouped, written]
  | binary connective left right leftHypothesis rightHypothesis =>
    rw [bracketed, leftHypothesis, rightHypothesis, grouped, written, written]
    simp only [List.append_assoc, List.cons_append, List.nil_append]
  | paren inner inductionHypothesis => rw [bracketed, inductionHypothesis, grouped, written]

/-- A grouped formula can stand as an operand. -/
theorem isOperand_grouped (formula : Formula) : formula.grouped.isOperand = true := by
  cases formula <;> rfl

/-- A grouped formula has no bare chains, so it is canonical. -/
theorem isCanonical_grouped (formula : Formula) : formula.grouped.isCanonical = true := by
  induction formula with
  | var name => rfl
  | not operand inductionHypothesis =>
    rw [grouped, isCanonical, isOperand_grouped, inductionHypothesis]
    rfl
  | binary connective left right leftHypothesis rightHypothesis =>
    rw [grouped, isCanonical, isCanonical, leftHypothesis, isOperand_grouped, rightHypothesis]
    rfl
  | paren inner inductionHypothesis => exact inductionHypothesis

/-- Grouping keeps the names of the leaves in their order. -/
theorem occurrences_grouped (formula : Formula) :
    formula.grouped.occurrences = formula.occurrences := by
  induction formula with
  | var name => rfl
  | not operand inductionHypothesis => exact inductionHypothesis
  | binary connective left right leftHypothesis rightHypothesis =>
    simp only [grouped, occurrences, leftHypothesis, rightHypothesis]
  | paren inner inductionHypothesis => exact inductionHypothesis

/-- Grouping makes no difference to the collecting of names. -/
theorem collect_grouped (formula : Formula) (seen : List String) :
    formula.grouped.collect seen = formula.collect seen := by
  induction formula generalizing seen with
  | var name => rfl
  | not operand inductionHypothesis => exact inductionHypothesis seen
  | binary connective left right leftHypothesis rightHypothesis =>
    simp only [grouped, collect, leftHypothesis, rightHypothesis]
  | paren inner inductionHypothesis => exact inductionHypothesis seen

/-- Grouping makes no difference to evaluation. -/
theorem evaluate_grouped (formula : Formula) (assignment : Assignment) :
    formula.grouped.evaluate assignment = formula.evaluate assignment := by
  induction formula with
  | var name => rfl
  | not operand inductionHypothesis => rw [grouped, evaluate, inductionHypothesis, evaluate]
  | binary connective left right leftHypothesis rightHypothesis =>
    simp only [grouped, evaluate, leftHypothesis, rightHypothesis]
  | paren inner inductionHypothesis => exact inductionHypothesis

/-- A grouped formula has the same variables. -/
theorem names_grouped (formula : Formula) : formula.grouped.names = formula.names :=
  collect_grouped formula []

/-- A grouped formula has the same truth table. -/
theorem ofSentence_grouped (formula : Formula) :
    Table.ofSentence (.ofFormula formula.grouped) = Table.ofSentence (.ofFormula formula) := by
  have evaluated : ∀ assignment,
      (Sentence.ofFormula formula.grouped).evaluate assignment
        = (Sentence.ofFormula formula).evaluate assignment := by
    intro assignment
    exact evaluate_grouped formula assignment
  have columns : (Sentence.ofFormula formula.grouped).names = (Sentence.ofFormula formula).names :=
    names_grouped formula
  simp only [Table.ofSentence, columns, evaluated]

end Formula

namespace Sentence

open Formula

/-- The variables of a text that was read are called by identifiers. -/
theorem identifier_of_ofTokens {finish : Nat} {text : String} {tokens : List Located}
    {sentence : Sentence} (tokenized : tokenize text = .ok tokens)
    (accepted : ofTokens finish tokens = .ok sentence) :
    ∀ name ∈ sentence.formula.occurrences, IsIdentifier name := by
  obtain ⟨formula, _, written, _, rfl⟩ := (ofTokens_eq_ok_iff tokens sentence).mp accepted
  intro name occurs
  refine identifier_of_tokenize text tokens tokenized name ?_
  rw [written]
  exact formula.identifier_mem_tokens name occurs

/-- Printing and reading again is the identity on what was read. If the square brackets are deleted
from the printed form of the formula of a text, what is left is read as the same sentence, however
the text was spaced and its reserved words were spelled. -/
theorem parse_without_brackets (text : String) (sentence : Sentence)
    (accepted : parse text = .ok sentence) :
    parse (rebracketed "" "" sentence.formula.text) = .ok sentence := by
  obtain ⟨tokens, tokenized, read⟩ := exists_tokens_of_parse accepted
  have named := identifier_of_ofTokens tokenized read
  obtain ⟨formula, canonical, _, fits, rfl⟩ := (ofTokens_eq_ok_iff tokens sentence).mp read
  obtain ⟨again, retokenized, written⟩ := tokenize_written formula named
  have printed : rebracketed "" "" formula.text = String.ofList formula.written := by
    rw [rebracketed_text "" "" formula named, ← bracketed_nil formula]
    rfl
  change parse (rebracketed "" "" formula.text) = _
  rw [printed, parse_of_tokenize retokenized]
  exact (ofTokens_eq_ok_iff again _).mpr ⟨formula, canonical, written, fits, rfl⟩

/-- A negation, a parenthesis and a chain, in an uncommon spelling, are printed in the usual one. -/
theorem parse_without_brackets_chain :
    ∃ sentence, parse "  NOT (p)anD\té1 xOr ( not\nq  ) " = .ok sentence ∧
      sentence.formula.text = "[[not (p) and é1] xor (not q)]" ∧
      parse (rebracketed "" "" sentence.formula.text) = .ok sentence := by
  let formula : Formula := .binary .xor (.binary .and (.not (.paren (.var "p"))) (.var "é1"))
    (.paren (.not (.var "q")))
  have accepted : parse "  NOT (p)anD\té1 xOr ( not\nq  ) " = .ok (ofFormula formula) := by
    decide +kernel
  exact ⟨ofFormula formula, accepted, by decide +kernel, parse_without_brackets _ _ accepted⟩

/-- The brackets of a printed formula show how it is grouped, for every formula whose variables are
called by identifiers, also where reading never gives such a tree. With parentheses for brackets the
printed form is read as the formula with every connective in parentheses, or is too deep if that is.
This formula has the same variables and the same truth table. -/
theorem parse_with_parens (formula : Formula)
    (named : ∀ name ∈ formula.names, IsIdentifier name) :
    (formula.grouped.height ≤ maxHeight →
      parse (rebracketed "(" ")" formula.text) = .ok (ofFormula formula.grouped)) ∧
    (maxHeight < formula.grouped.height →
      ∃ position, parse (rebracketed "(" ")" formula.text) = .error ⟨.tooDeep, position⟩) ∧
    formula.grouped.names = formula.names ∧
    Table.ofSentence (.ofFormula formula.grouped) = Table.ofSentence (.ofFormula formula) ∧
    Table.build (.ofFormula formula.grouped) = Table.build (.ofFormula formula) := by
  have occurring : ∀ name ∈ formula.occurrences, IsIdentifier name := by
    intro name occurs
    exact named name ((mem_names formula name).mpr occurs)
  have printed : rebracketed "(" ")" formula.text = String.ofList formula.grouped.written := by
    rw [rebracketed_text "(" ")" formula occurring, ← bracketed_parens formula]
    rfl
  obtain ⟨tokens, tokenized, written⟩ := tokenize_written formula.grouped (by
    rw [occurrences_grouped]
    exact occurring)
  rw [printed, parse_of_tokenize tokenized]
  refine ⟨?_, ?_, names_grouped formula, ofSentence_grouped formula, ?_⟩
  · intro fits
    exact (ofTokens_eq_ok_iff tokens _).mpr
      ⟨formula.grouped, isCanonical_grouped formula, written, fits, rfl⟩
  · intro exceeds
    exact ofTokens_eq_tooDeep _ tokens formula.grouped (isCanonical_grouped formula) written exceeds
  · have counted : (ofFormula formula.grouped).rowCount = (ofFormula formula).rowCount :=
      congrArg (fun names => 2 ^ names.length) (names_grouped formula)
    rw [Table.build, Table.build, counted, ofSentence_grouped]

/-- A negated chain that is grouped from the right keeps its grouping. As many negations as a tree
may have levels are one too many around a variable. -/
theorem parse_with_parens_negated :
    (∀ name ∈ (Formula.not (.binary .and (.var "p") (.binary .or (.var "q") (.var "P")))).names,
        IsIdentifier name) ∧
      parse "not (p and (q or P))" = .ok (ofFormula (.not (.paren (.binary .and (.var "p")
        (.paren (.binary .or (.var "q") (.var "P"))))))) ∧
      ∃ position, parse (rebracketed "(" ")" (Nat.repeat Formula.not maxHeight (.var "p")).text)
        = .error ⟨.tooDeep, position⟩ := by
  have named : ∀ name ∈ (Formula.not (.binary .and (.var "p")
      (.binary .or (.var "q") (.var "P")))).names, IsIdentifier name := by
    decide +kernel
  have printed : rebracketed "(" ")" (Formula.not (.binary .and (.var "p")
      (.binary .or (.var "q") (.var "P")))).text = "not (p and (q or P))" := by
    decide +kernel
  have grouped := (parse_with_parens _ named).1 (by decide)
  rw [printed] at grouped
  have leaf : ∀ count, (Nat.repeat Formula.not count (.var "p")).occurrences = ["p"] := by
    intro count
    induction count with
    | zero => rfl
    | succ count inductionHypothesis => exact inductionHypothesis
  have levels : ∀ count,
      (Nat.repeat Formula.not count (.var "p")).grouped.height = count + 1 := by
    intro count
    induction count with
    | zero => rfl
    | succ count inductionHypothesis =>
      exact (congrArg (1 + ·) inductionHypothesis).trans (Nat.add_comm 1 (count + 1))
  have deepNamed : ∀ name ∈ (Nat.repeat Formula.not maxHeight (.var "p")).names,
      IsIdentifier name := by
    intro name member
    rw [mem_names, leaf, List.mem_singleton] at member
    subst member
    decide +kernel
  refine ⟨named, grouped, (parse_with_parens _ deepNamed).2.1 ?_⟩
  rw [levels]
  exact Nat.lt_succ_self maxHeight

end Sentence

end Sentential
