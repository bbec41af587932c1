import Sentential.Proofs.Brackets

/-!
# The printed form tells the formula

The printed form of a formula has brackets around connectives but none around negations, and the
formula's own parentheses are printed as they are. Still no two formulas are printed alike, as long
as their variables are called by identifiers; the height does not matter, nor whether reading a text
ever gives such a tree.

With parentheses for its brackets, the printed form is a text whose tokens are those of the grouped
formula. A grouped formula is canonical, so it is told by its tokens. And grouping can be undone: a
parenthesis directly around a connective was put there by grouping, any other one was there before.
-/

namespace Sentential.Formula

open Text Segmentation

/-- A formula without the parentheses that stand directly around a connective. -/
def ungrouped : Formula → Formula
  | .var name => .var name
  | .not operand => .not operand.ungrouped
  | .binary connective left right => .binary connective left.ungrouped right.ungrouped
  | .paren (.binary connective left right) => .binary connective left.ungrouped right.ungrouped
  | .paren inner => .paren inner.ungrouped

/-- Around an operand a parenthesis is left where it is. -/
theorem ungrouped_paren (inner : Formula) (single : inner.isOperand = true) :
    (paren inner).ungrouped = .paren inner.ungrouped := by
  cases inner with
  | var name | not operand | paren inner => rfl
  | binary connective left right => exact absurd single Bool.false_ne_true

/-- Grouping can be undone. -/
theorem ungrouped_grouped (formula : Formula) : formula.grouped.ungrouped = formula := by
  induction formula with
  | var name => rfl
  | not operand inductionHypothesis => rw [grouped, ungrouped, inductionHypothesis]
  | binary connective left right leftHypothesis rightHypothesis =>
    rw [grouped, ungrouped, leftHypothesis, rightHypothesis]
  | paren inner inductionHypothesis =>
    rw [grouped, ungrouped_paren _ (isOperand_grouped inner), inductionHypothesis]

/-- What is printed has the tokens of the grouped formula, once its brackets are parentheses. -/
theorem tokenize_rebracketed (formula : Formula)
    (named : ∀ name ∈ formula.names, IsIdentifier name) :
    ∃ tokens, tokenize (rebracketed "(" ")" formula.text) = .ok tokens ∧
      tokens.map Located.token = formula.grouped.tokens := by
  have occurring : ∀ name ∈ formula.occurrences, IsIdentifier name := by
    intro name occurs
    exact named name ((mem_names formula name).mpr occurs)
  have printed : rebracketed "(" ")" formula.text = String.ofList formula.grouped.written := by
    rw [rebracketed_text "(" ")" formula occurring, ← bracketed_parens formula]
    rfl
  rw [printed]
  refine tokenize_written formula.grouped ?_
  rw [occurrences_grouped]
  exact occurring

/-- No two formulas are printed alike, whatever their height and shape, if all their variables are
called by identifiers. -/
theorem text_eq_iff (first second : Formula)
    (firstNamed : ∀ name ∈ first.names, IsIdentifier name)
    (secondNamed : ∀ name ∈ second.names, IsIdentifier name) :
    first.text = second.text ↔ first = second := by
  constructor
  · intro printed
    obtain ⟨tokens, tokenized, written⟩ := tokenize_rebracketed first firstNamed
    obtain ⟨others, retokenized, rewritten⟩ := tokenize_rebracketed second secondNamed
    rw [← printed, tokenized] at retokenized
    obtain rfl := Except.ok.inj retokenized
    have grouped : first.grouped = second.grouped :=
      tokens_injective _ _ (isCanonical_grouped first) (isCanonical_grouped second)
        (written.symm.trans rewritten)
    rw [← ungrouped_grouped first, grouped, ungrouped_grouped second]
  · exact congrArg text

/-- A conjunction that begins with a negation, a negated conjunction, and one with a parenthesis of its
own are printed differently. A text gives only the first and the last of them. -/
theorem text_eq_iff_of_negations :
    (∀ name ∈ ["p", "é1"], IsIdentifier name) ∧
      (binary .and (.not (.var "p")) (.var "é1")).text
        ≠ (not (.binary .and (.var "p") (.var "é1"))).text ∧
      (not (.paren (.binary .and (.var "p") (.var "é1")))).text
        ≠ (not (.binary .and (.var "p") (.var "é1"))).text := by
  have named : ∀ name ∈ ["p", "é1"], IsIdentifier name := by decide +kernel
  have begun := text_eq_iff (.binary .and (.not (.var "p")) (.var "é1"))
    (.not (.binary .and (.var "p") (.var "é1"))) named named
  have enclosed := text_eq_iff (.not (.paren (.binary .and (.var "p") (.var "é1"))))
    (.not (.binary .and (.var "p") (.var "é1"))) named named
  refine ⟨named, mt begun.mp ?_, mt enclosed.mp ?_⟩
  · decide
  · decide

end Sentential.Formula
