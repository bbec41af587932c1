import Sentential.Formula.Walk
import Sentential.Proofs.Variables
import Sentential.Sentence

/-!
# Variables in the order of their first occurrence

The variables of a formula are the names of its leaves from left to right, without those that stand
further left already. Collecting them by recursion on the formula and by a loop over a stack of
subtrees comes to the same list: what the loop has listed, followed by what the subtrees on its stack
will add, is the same before and after every turn.
-/

namespace Sentential.Formula

/-- Collecting appends the names of the leaves without repetitions, and without those seen before. -/
theorem collect_eq_append_eraseDups (formula : Formula) (seen : List String) :
    formula.collect seen = seen ++ (formula.occurrences.removeAll seen).eraseDups := by
  induction formula generalizing seen with
  | var leaf =>
    by_cases met : leaf ∈ seen
    · simp [collect, occurrences, List.removeAll, met]
    · simp [collect, occurrences, List.removeAll, met, List.eraseDups_cons]
  | not inner inductionHypothesis => exact inductionHypothesis seen
  | binary connective left right leftHypothesis rightHypothesis =>
    have later : right.occurrences.removeAll
          (seen ++ (left.occurrences.removeAll seen).eraseDups)
        = (right.occurrences.removeAll seen).removeAll (left.occurrences.removeAll seen) := by
      simp only [List.removeAll, List.filter_filter]
      refine List.filter_congr ?_
      intro name _
      simp only [List.elem_eq_mem, List.mem_append, List.mem_eraseDups]
      simp [Bool.and_comm]
    rw [collect, rightHypothesis, leftHypothesis, later, occurrences, List.append_assoc,
      ← List.eraseDups_append]
    simp only [List.removeAll, List.filter_append]
  | paren inner inductionHypothesis => exact inductionHypothesis seen

/-- The variables are the names of the leaves without repetitions. -/
theorem names_eq_eraseDups (formula : Formula) : formula.names = formula.occurrences.eraseDups := by
  have everything : formula.occurrences.removeAll [] = formula.occurrences := by
    simp [List.removeAll]
  rw [names, collect_eq_append_eraseDups, everything, List.nil_append]

/-- Every formula has a leaf. -/
theorem occurrences_ne_nil (formula : Formula) : formula.occurrences ≠ [] := by
  induction formula with
  | var name => exact List.cons_ne_nil name []
  | not inner inductionHypothesis => exact inductionHypothesis
  | binary connective left right leftHypothesis _ =>
    exact List.append_ne_nil_of_left_ne_nil leftHypothesis _
  | paren inner inductionHypothesis => exact inductionHypothesis

/-- Every formula has a variable. -/
theorem names_ne_nil (formula : Formula) : formula.names ≠ [] := by
  obtain ⟨name, rest, listed⟩ := List.exists_cons_of_ne_nil (occurrences_ne_nil formula)
  have member : name ∈ formula.names := (mem_names formula name).mpr (listed ▸ List.mem_cons_self)
  exact List.ne_nil_of_mem member

namespace Walk

/-- The names met are the names listed. -/
def Consistent (walk : Walk) : Prop := ∀ name, name ∈ walk.met ↔ name ∈ walk.listed

/-- The names listed in the end: those listed so far, and those that the subtrees add in turn. -/
def result (walk : Walk) : List String :=
  walk.pending.foldl (fun listed formula => formula.collect listed) walk.listed

/-- Before the first turn no name has been met or listed. -/
theorem start_consistent (formula : Formula) : (start formula).Consistent := by
  intro name
  simp [start]

/-- A turn keeps the set and the list consistent, and does not change what will be listed in the
end. -/
theorem next?_keeps (walk next : Walk) (consistent : walk.Consistent)
    (turn : walk.next? = some next) : next.Consistent ∧ next.result = walk.result := by
  obtain ⟨pending, met, listed⟩ := walk
  cases pending with
  | nil => simp [next?] at turn
  | cons visited rest =>
    cases visited with
    | var name =>
      have known : met.contains name = true ↔ name ∈ listed := consistent name
      have collected : (if met.contains name then listed else listed ++ [name])
          = (var name).collect listed := by
        simp only [known, collect]
      rw [next?_var, collected] at turn
      obtain rfl := Option.some.inj turn
      refine ⟨?_, rfl⟩
      intro other
      have before : other ∈ met ↔ other ∈ listed := consistent other
      rw [Std.HashSet.mem_insert, beq_iff_eq, before, mem_collect, occurrences, List.mem_singleton,
        or_comm, eq_comm]
    | not operand | binary connective left right | paren inner =>
      obtain rfl := Option.some.inj turn
      exact ⟨consistent, rfl⟩

/-- Taking turns to the end lists what will be listed in the end. -/
theorem run_eq_result (walk : Walk) (consistent : walk.Consistent) : walk.run = walk.result := by
  fun_induction run walk with
  | case1 walk ended =>
    obtain ⟨pending, met, listed⟩ := walk
    cases pending with
    | nil => rfl
    | cons visited rest => cases visited <;> simp [next?] at ended
  | case2 walk next turn inductionHypothesis =>
    obtain ⟨kept, same⟩ := next?_keeps walk next consistent turn
    rw [inductionHypothesis kept, same]

/-- The loop lists the variables that collecting by recursion gives. -/
theorem run_start (formula : Formula) : (start formula).run = formula.names :=
  run_eq_result (start formula) (start_consistent formula)

end Walk

/-- The variables of a formula are the names of its leaves in the order of their first occurrence,
each listed once. The loop that collects them comes to this list, and a sentence has the variables of
its formula. There is always one, and joining two formulas by any connective lists the variables of
the left one, followed by those of the right one that the left one has not, in their order. -/
theorem names_are_first_occurrences (formula : Formula) :
    (Walk.start formula).run = formula.names ∧
      (Sentence.ofFormula formula).names = formula.names ∧
      formula.names = formula.occurrences.eraseDups ∧
      formula.names ≠ [] ∧
      formula.names.Nodup ∧
      ∀ (connective : Connective) (left right : Formula),
        (binary connective left right).names
          = left.names ++ right.names.filter fun name => name ∉ left.names := by
  refine ⟨Walk.run_start formula, rfl, names_eq_eraseDups formula, names_ne_nil formula,
    nodup_names formula, ?_⟩
  intro connective left right
  exact collect_eq_append right left.names

end Sentential.Formula
