import Sentential.Table
import Sentential.Proofs.EnumerationOrder
import Sentential.Proofs.Lookup

/-!
# The rows of a truth table

A truth table has a row for every number below its size. The values of the row are the binary
digits of the number, and its result is the meaning of the formula under these values. No variable
is ever missing, so the only table that cannot be built is one that has more rows than memory can
address.
-/

namespace Sentential

/-- What the row with a number holds: the digits of the number in the columns of the variables,
and the meaning of the formula where every variable is read from its column. -/
structure Row.Holds (formula : Formula) (index : Nat) (row : Row) : Prop where
  /-- The columns are those of the variables. -/
  names : row.assignment.names = formula.names
  /-- The first variable has the most significant digit. -/
  values : row.assignment.values = binary formula.names.length index
  /-- Each column is the only one that its variable is read from. -/
  columns : ∀ (place : Nat) (name : String), row.assignment.names[place]? = some name →
    row.assignment.values[place]? = some (row.assignment.column name)
  /-- The result is what the connectives make of the values. -/
  result : row.result = formula.meaning row.assignment.column

namespace Formula

/-- The row of a formula with a number. -/
def row (formula : Formula) (index : Nat) : Row :=
  let assignment : Assignment := ⟨Path.ofIndex formula.names index⟩
  ⟨assignment, formula.meaning assignment.column⟩

/-- The columns of the row are those of the variables. -/
theorem names_row (formula : Formula) (index : Nat) :
    (formula.row index).assignment.names = formula.names :=
  Path.names_ofIndex formula.names index

/-- The row with a number holds what it should. -/
theorem row_holds (formula : Formula) (index : Nat) : (formula.row index).Holds formula index where
  names := names_row formula index
  values := Path.branches_ofIndex formula.names index
  columns := by
    have distinct : (formula.row index).assignment.names.Nodup := by
      rw [names_row]
      exact nodup_names formula
    exact Assignment.column_of_nodup _ distinct
  result := rfl

/-- Evaluating under the assignment with a number succeeds and completes the row. -/
theorem evaluate_row (formula : Formula) (index : Nat) :
    (formula.evaluate ⟨Path.ofIndex formula.names index⟩).map
        (Row.mk ⟨Path.ofIndex formula.names index⟩)
      = .ok (formula.row index) := by
  have known : ∀ name ∈ formula.names,
      name ∈ (Assignment.mk (Path.ofIndex formula.names index)).names := by
    intro name member
    rw [Assignment.names, Path.names_ofIndex]
    exact member
  rw [evaluate_eq_meaning _ formula known]
  rfl

end Formula

namespace Table

/-- The table of a formula has the rows with the numbers below its size, in order. -/
theorem ofSentence_ofFormula (formula : Formula) :
    ofSentence (.ofFormula formula)
      = .ok ⟨formula.names, (List.range (2 ^ formula.names.length)).map formula.row⟩ := by
  have columns : (Sentence.ofFormula formula).names = formula.names := rfl
  have rowOf : (fun assignment =>
        ((Sentence.ofFormula formula).evaluate assignment).map (Row.mk assignment))
          ∘ (fun index => ⟨Path.ofIndex formula.names index⟩)
      = fun index => pure (formula.row index) :=
    funext formula.evaluate_row
  simp only [ofSentence, columns, Enumeration.toList_ofNames, List.mapM_map, rowOf, List.mapM_pure]
  rfl

/-- Every formula has a table unless it has more rows than memory can address, and no variable is
ever missing. It has one row for each choice of truth values, in the order of the binary numbers
with the first variable as most significant digit; each row gives the meaning of the formula. -/
theorem rows_of_formula (formula : Formula) :
    ∃ table : Table,
      ofSentence (.ofFormula formula) = .ok table ∧
      build (.ofFormula formula)
        = (if (Sentence.ofFormula formula).rowCount ≤ maxRows then .ok table
          else .error .tooManyRows) ∧
      table.names = formula.names ∧
      table.size = 2 ^ formula.names.length ∧
      (Sentence.ofFormula formula).rowCount = table.size ∧
      ∀ index < 2 ^ formula.names.length,
        ∃ row, table.rows[index]? = some row ∧ row.Holds formula index := by
  have built := ofSentence_ofFormula formula
  refine ⟨_, built, ?_, rfl, ?_, ?_, ?_⟩
  · rw [build, built]
  · rw [size, List.length_map, List.length_range]
  · rw [size, List.length_map, List.length_range]
    rfl
  · intro index inside
    refine ⟨formula.row index, ?_, formula.row_holds index⟩
    rw [List.getElem?_map, List.getElem?_range inside, Option.map_some]

end Table

end Sentential
