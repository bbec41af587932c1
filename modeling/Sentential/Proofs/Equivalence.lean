import Sentential.Proofs.Decision

/-!
# Equal truth tables

The columns of a truth table are the variables of its formula, in the order of their first
occurrence, and the rows decide what the formula comes to under any assignment. So two formulas have
one and the same table exactly if they have the same list of variables and are equivalent: they come
to the same truth value under every assignment that covers these variables.
-/

namespace Sentential

namespace Formula

/-- Both formulas come to the same truth value under each assignment that covers the names. -/
def EquivalentOver (names : List String) (first second : Formula) : Prop :=
  ∀ assignment : Assignment, assignment.Covers names →
    ∃ value, first.evaluate assignment = .ok value ∧ second.evaluate assignment = .ok value

/-- The assignment of a row with a given number depends on the variables alone. -/
theorem assignment_row_congr {first second : Formula} (same : first.names = second.names)
    (index : Nat) : (first.row index).assignment = (second.row index).assignment := by
  rw [row, row, same]

/-- Where two formulas have the same rows, they are equivalent: an assignment that covers the
variables agrees with a row of the same number in both. -/
theorem equivalentOver_of_rows_eq {first second : Formula} (same : first.names = second.names)
    (rows : first.rows = second.rows) : EquivalentOver first.names first second := by
  intro assignment covers
  have number : first.rowOf assignment.column = second.rowOf assignment.column := by
    rw [rowOf, rowOf, same]
  have listed : first.rows[first.rowOf assignment.column]?
      = some (first.row (first.rowOf assignment.column)) :=
    (getElem?_rows first _ _).mpr ⟨rowOf_lt first _, rfl⟩
  rw [rows] at listed
  obtain ⟨_, shared⟩ := (getElem?_rows second _ _).mp listed
  have result : second.meaning assignment.column = first.meaning assignment.column := by
    rw [← result_rowOf first, ← result_rowOf second, ← shared, number]
  refine ⟨first.meaning assignment.column, evaluate_of_covers first assignment covers, ?_⟩
  rw [same] at covers
  rw [evaluate_of_covers second assignment covers, result]

/-- Equivalent formulas with the same variables have the same rows: the assignment of a row covers
the variables, and the result of the row is what both formulas come to under it. -/
theorem rows_eq_of_equivalentOver {first second : Formula} (same : first.names = second.names)
    (equivalent : EquivalentOver first.names first second) : first.rows = second.rows := by
  rw [rows, rows, ← same]
  apply List.map_congr_left
  intro index _
  have shared := assignment_row_congr same index
  obtain ⟨value, firstValue, secondValue⟩ := equivalent _ (row_covers first index)
  rw [evaluate_row_assignment] at firstValue
  rw [shared, evaluate_row_assignment] at secondValue
  have result : (first.row index).result = (second.row index).result :=
    (Except.ok.inj firstValue).trans (Except.ok.inj secondValue).symm
  calc first.row index
      = ⟨(first.row index).assignment, (first.row index).result⟩ := rfl
    _ = ⟨(second.row index).assignment, (second.row index).result⟩ := by rw [shared, result]
    _ = second.row index := rfl

end Formula

namespace Table

/-- A table is built if memory can address its rows. -/
theorem build_ofFormula (formula : Formula) :
    build (.ofFormula formula)
      = if (Sentence.ofFormula formula).rowCount ≤ maxRows then .ok ⟨formula.names, formula.rows⟩
        else .error .tooManyRows := by
  rw [build, ofSentence_eq_rows]

/-- What a limit can lead to. A sentence with too many variables is refused for their number, whatever
memory can address; otherwise the table holds the rows of the formula, if memory can address them. -/
theorem within_cases (limit : VariableLimit) (sentence : Sentence) :
    (∃ most, limit = .atMost most ∧ most < sentence.names.length ∧
      within limit sentence = .error (.tooManyVariables sentence.names.length most)) ∨
    (∀ most, limit = .atMost most → sentence.names.length ≤ most) ∧
      ((sentence.rowCount ≤ maxRows ∧
          within limit sentence = .ok ⟨sentence.formula.names, sentence.formula.rows⟩) ∨
        (maxRows < sentence.rowCount ∧
          within limit sentence = .error (.violation .tooManyRows))) := by
  have built : build sentence = if sentence.rowCount ≤ maxRows
      then .ok ⟨sentence.formula.names, sentence.formula.rows⟩ else .error .tooManyRows := by
    obtain ⟨formula, names, rfl⟩ := sentence
    exact build_ofFormula formula
  have admitted : limit.check sentence.names.length = .ok () →
      (sentence.rowCount ≤ maxRows ∧
          within limit sentence = .ok ⟨sentence.formula.names, sentence.formula.rows⟩) ∨
        (maxRows < sentence.rowCount ∧
          within limit sentence = .error (.violation .tooManyRows)) := by
    intro checked
    rw [within, checked, built]
    by_cases addressed : sentence.rowCount ≤ maxRows
    · exact .inl ⟨addressed, by simp [addressed, Except.mapError]⟩
    · exact .inr ⟨Nat.lt_of_not_le addressed, by simp [addressed, Except.mapError]⟩
  cases limit with
  | unbounded => exact .inr ⟨fun most => VariableLimit.noConfusion, admitted rfl⟩
  | atMost most =>
    by_cases exceeded : most < sentence.names.length
    · exact .inl ⟨most, rfl, exceeded, by simp [within, VariableLimit.check, exceeded]⟩
    · refine .inr ⟨?_, admitted (by simp [VariableLimit.check, exceeded])⟩
      rintro _ ⟨⟩
      exact Nat.le_of_not_lt exceeded

/-- Equality of truth tables is equivalence over the same columns. Two formulas have the same table
exactly if their variables are the same, in the same order, and they come to the same truth value
under every assignment that covers these variables, wherever it has its columns. The tables can be
built if memory can address their rows. -/
theorem eq_iff_equivalent (first second : Formula) :
    ∃ firstTable secondTable : Table,
      ofSentence (.ofFormula first) = .ok firstTable ∧
      ofSentence (.ofFormula second) = .ok secondTable ∧
      build (.ofFormula first)
        = (if (Sentence.ofFormula first).rowCount ≤ maxRows then .ok firstTable
          else .error .tooManyRows) ∧
      build (.ofFormula second)
        = (if (Sentence.ofFormula second).rowCount ≤ maxRows then .ok secondTable
          else .error .tooManyRows) ∧
      (firstTable = secondTable ↔
        first.names = second.names ∧ Formula.EquivalentOver first.names first second) := by
  refine ⟨⟨first.names, first.rows⟩, ⟨second.names, second.rows⟩, ofSentence_eq_rows first,
    ofSentence_eq_rows second, build_ofFormula first, build_ofFormula second, ?_⟩
  rw [Table.mk.injEq]
  constructor
  · rintro ⟨names, rows⟩
    exact ⟨names, Formula.equivalentOver_of_rows_eq names rows⟩
  · rintro ⟨names, equivalent⟩
    exact ⟨names, Formula.rows_eq_of_equivalentOver names equivalent⟩

end Table

end Sentential
