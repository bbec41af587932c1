import Mathlib.Data.List.Nodup
import Sentential.Formula

/-!
# The variables of a formula

Collecting goes through the leaves of a formula from left to right and appends each name that it
has not met yet. The names collected are those of the leaves, and no name is collected twice.
-/

namespace Sentential.Formula

/-- The names at the leaves, from left to right, repeated ones included. -/
def occurrences : Formula → List String
  | .var name => [name]
  | .not inner => inner.occurrences
  | .binary _ left right => left.occurrences ++ right.occurrences
  | .paren inner => inner.occurrences

/-- Collecting adds exactly the names of the leaves to those seen before. -/
theorem mem_collect (formula : Formula) (seen : List String) (name : String) :
    name ∈ formula.collect seen ↔ name ∈ seen ∨ name ∈ formula.occurrences := by
  induction formula generalizing seen with
  | var leaf =>
    rw [collect, occurrences, List.mem_singleton]
    by_cases met : leaf ∈ seen
    · rw [if_pos met]
      constructor
      · exact Or.inl
      · rintro (before | rfl)
        · exact before
        · exact met
    · rw [if_neg met, List.mem_append, List.mem_singleton]
  | not inner inductionHypothesis => exact inductionHypothesis seen
  | binary connective left right leftHypothesis rightHypothesis =>
    rw [collect, rightHypothesis, leftHypothesis, occurrences, List.mem_append, or_assoc]
  | paren inner inductionHypothesis => exact inductionHypothesis seen

/-- A name that has been seen is not collected again. -/
theorem nodup_collect (formula : Formula) (seen : List String) (distinct : seen.Nodup) :
    (formula.collect seen).Nodup := by
  induction formula generalizing seen with
  | var leaf =>
    rw [collect]
    by_cases met : leaf ∈ seen
    · rw [if_pos met]
      exact distinct
    · rw [if_neg met, ← List.concat_eq_append]
      exact distinct.concat met
  | not inner inductionHypothesis => exact inductionHypothesis seen distinct
  | binary connective left right leftHypothesis rightHypothesis =>
    exact rightHypothesis _ (leftHypothesis seen distinct)
  | paren inner inductionHypothesis => exact inductionHypothesis seen distinct

/-- The variables of a formula are the names of its leaves. -/
theorem mem_names (formula : Formula) (name : String) :
    name ∈ formula.names ↔ name ∈ formula.occurrences := by
  rw [names, mem_collect]
  exact or_iff_right (List.not_mem_nil)

/-- Each variable is listed once. -/
theorem nodup_names (formula : Formula) : formula.names.Nodup :=
  nodup_collect formula [] List.nodup_nil

/-- Leaving out repetitions does not change which name is the first with some property. -/
theorem find?_collect (formula : Formula) (seen : List String) (property : String → Bool) :
    (formula.collect seen).find? property = (seen ++ formula.occurrences).find? property := by
  induction formula generalizing seen with
  | var leaf =>
    rw [collect, occurrences]
    by_cases met : leaf ∈ seen
    · rw [if_pos met, List.find?_append]
      cases first : seen.find? property with
      | some name => rfl
      | none =>
        have without : ¬ property leaf = true := List.find?_eq_none.mp first leaf met
        rw [List.find?_cons_of_neg without]
        rfl
    · rw [if_neg met]
  | not inner inductionHypothesis => exact inductionHypothesis seen
  | binary connective left right leftHypothesis rightHypothesis =>
    rw [collect, rightHypothesis, List.find?_append, leftHypothesis, ← List.find?_append,
      occurrences, List.append_assoc]
  | paren inner inductionHypothesis => exact inductionHypothesis seen

/-- The first variable with some property is the first leaf with it. -/
theorem find?_names (formula : Formula) (property : String → Bool) :
    formula.names.find? property = formula.occurrences.find? property :=
  find?_collect formula [] property

/-- Collecting appends the variables that have not been seen before, in their order. -/
theorem collect_eq_append (formula : Formula) (seen : List String) :
    formula.collect seen = seen ++ formula.names.filter fun name => name ∉ seen := by
  induction formula generalizing seen with
  | var leaf =>
    by_cases met : leaf ∈ seen
    · simp [names, collect, met]
    · simp [names, collect, met]
  | not inner inductionHypothesis => exact inductionHypothesis seen
  | binary connective left right leftHypothesis rightHypothesis =>
    have listed : (binary connective left right).names
        = left.names ++ right.names.filter fun name => name ∉ left.names :=
      rightHypothesis left.names
    have later : (right.names.filter fun name => name ∉ left.collect seen)
        = (right.names.filter fun name => name ∉ left.names).filter fun name => name ∉ seen := by
      rw [List.filter_filter]
      refine List.filter_congr ?_
      intro name _
      simp [mem_collect, mem_names]
    rw [collect, rightHypothesis, later, leftHypothesis, listed, List.filter_append,
      List.append_assoc]
  | paren inner inductionHypothesis => exact inductionHypothesis seen

/-- Where two operands have no variable in common, those of the right one follow those of the
left one. -/
theorem names_binary_of_disjoint (connective : Connective) (left right : Formula)
    (disjoint : ∀ name ∈ left.names, name ∉ right.names) :
    (binary connective left right).names = left.names ++ right.names := by
  have fresh : ∀ name ∈ right.names, decide (name ∉ left.names) = true := by
    intro name inRight
    exact decide_eq_true fun inLeft => disjoint name inLeft inRight
  have collected := collect_eq_append right left.names
  rwa [List.filter_eq_self.mpr fresh] at collected

end Sentential.Formula
