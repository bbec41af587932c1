import Mathlib.Data.Fintype.Card
import Mathlib.Data.Fintype.Pi
import Mathlib.Data.List.Nodup
import Sentential.Proofs.TableRows

/-!
# A truth table decides its formula

Every choice of truth values for the variables of a formula is found in the truth table, in one row
and no other: the number of the row is read from the chosen values as a binary numeral. What the
formula comes to under an assignment is the result of the row that the assignment agrees with,
wherever the assignment has its columns. So a look at the rows tells what holds under every
assignment, and counting the rows counts the choices.
-/

namespace Sentential

/-- Each column of the row has the value that the assignment gives to the column's name. -/
def Row.Agrees (names : List String) (assignment : Assignment) (row : Row) : Prop :=
  ∀ (place : Nat) (name : String), names[place]? = some name →
    row.assignment.values[place]? = assignment.value? name

namespace Formula

/-- The number of the row in which each variable has the value that a valuation gives to it. -/
def rowOf (formula : Formula) (valuation : String → Bool) : Nat :=
  number (formula.names.map valuation)

/-- There is such a row in the table. -/
theorem rowOf_lt (formula : Formula) (valuation : String → Bool) :
    formula.rowOf valuation < 2 ^ formula.names.length := by
  have below := number_lt (formula.names.map valuation)
  rwa [List.length_map] at below

/-- The columns of the row hold the values of the variables. -/
theorem values_rowOf (formula : Formula) (valuation : String → Bool) :
    (formula.row (formula.rowOf valuation)).assignment.values = formula.names.map valuation := by
  have digits := binary_number (formula.names.map valuation)
  rw [List.length_map] at digits
  rw [(formula.row_holds _).values, rowOf, digits]

/-- In the row each variable reads the value that the valuation gives to it. -/
theorem column_rowOf (formula : Formula) (valuation : String → Bool) (name : String)
    (member : name ∈ formula.names) :
    (formula.row (formula.rowOf valuation)).assignment.column name = valuation name := by
  have valued := values_rowOf formula valuation
  rw [← names_row formula (formula.rowOf valuation)] at valued
  refine Assignment.column_of_values _ valuation valued name ?_
  rw [names_row]
  exact member

/-- The result of the row is what the formula means under the valuation. -/
theorem result_rowOf (formula : Formula) (valuation : String → Bool) :
    (formula.row (formula.rowOf valuation)).result = formula.meaning valuation := by
  rw [(formula.row_holds _).result]
  refine formula.meaning_congr _ _ ?_
  intro name leaf
  exact column_rowOf formula valuation name ((mem_names formula name).mpr leaf)

/-- A row of the table is told by its values. -/
theorem eq_rowOf (formula : Formula) (valuation : String → Bool) (index : Nat)
    (inside : index < 2 ^ formula.names.length)
    (valued : (formula.row index).assignment.values = formula.names.map valuation) :
    index = formula.rowOf valuation := by
  rw [rowOf, ← valued, (formula.row_holds index).values, number_binary _ _ inside]

/-- The assignment of a row covers the variables. -/
theorem row_covers (formula : Formula) (index : Nat) :
    (formula.row index).assignment.Covers formula.names := by
  intro name member
  refine ⟨_, Assignment.value?_eq_column _ name ?_⟩
  rw [names_row]
  exact member

/-- The result of a row is what evaluating under its assignment gives. -/
theorem evaluate_row_assignment (formula : Formula) (index : Nat) :
    formula.evaluate (formula.row index).assignment = .ok (formula.row index).result :=
  evaluate_of_covers formula _ (row_covers formula index)

/-- The row that belongs to the values of an assignment agrees with it. -/
theorem row_agrees (formula : Formula) (assignment : Assignment)
    (covers : assignment.Covers formula.names) :
    (formula.row (formula.rowOf assignment.column)).Agrees formula.names assignment := by
  intro place name here
  have member : name ∈ formula.names := List.mem_of_getElem? here
  rw [values_rowOf, List.getElem?_map, here, covers.value?_eq member, Option.map_some]

/-- No other row agrees with the assignment. -/
theorem eq_rowOf_of_agrees (formula : Formula) (assignment : Assignment)
    (covers : assignment.Covers formula.names) (index : Nat)
    (inside : index < 2 ^ formula.names.length)
    (agrees : (formula.row index).Agrees formula.names assignment) :
    index = formula.rowOf assignment.column := by
  refine formula.eq_rowOf assignment.column index inside (List.ext_getElem? ?_)
  intro place
  rw [List.getElem?_map]
  cases here : formula.names[place]? with
  | none =>
    have beyond : formula.names.length ≤ place := List.getElem?_eq_none_iff.mp here
    rw [(formula.row_holds index).values]
    exact List.getElem?_eq_none (by rwa [length_binary])
  | some name =>
    have member : name ∈ formula.names := List.mem_of_getElem? here
    rw [agrees place name here, covers.value?_eq member, Option.map_some]

/-- Different numbers below the size of the table belong to different rows. -/
theorem row_injective (formula : Formula) (first second : Nat)
    (firstInside : first < 2 ^ formula.names.length)
    (secondInside : second < 2 ^ formula.names.length)
    (same : formula.row first = formula.row second) : first = second := by
  have digits : Sentential.binary formula.names.length first
      = Sentential.binary formula.names.length second := by
    rw [← (formula.row_holds first).values, ← (formula.row_holds second).values, same]
  rw [← number_binary _ _ firstInside, digits, number_binary _ _ secondInside]

/-- The rows of the table of a formula. -/
def rows (formula : Formula) : List Row :=
  (List.range (2 ^ formula.names.length)).map formula.row

/-- There is a row for each choice of truth values. -/
theorem length_rows (formula : Formula) : formula.rows.length = 2 ^ formula.names.length := by
  rw [rows, List.length_map, List.length_range]

/-- The rows are those with the numbers below the size of the table. -/
theorem mem_rows (formula : Formula) (row : Row) :
    row ∈ formula.rows ↔ ∃ index < 2 ^ formula.names.length, formula.row index = row := by
  simp only [rows, List.mem_map, List.mem_range]

/-- The row in a place of the list is the one with the number of the place. -/
theorem getElem?_rows (formula : Formula) (index : Nat) (row : Row) :
    formula.rows[index]? = some row ↔
      index < 2 ^ formula.names.length ∧ formula.row index = row := by
  rw [rows, List.getElem?_map]
  by_cases inside : index < 2 ^ formula.names.length
  · rw [List.getElem?_range inside, Option.map_some, Option.some.injEq]
    exact (and_iff_right inside).symm
  · rw [List.getElem?_eq_none (by simpa using inside), Option.map_none]
    constructor
    · intro impossible
      exact absurd impossible (by simp)
    · rintro ⟨below, _⟩
      exact absurd below inside

/-- The row in a place has the number of the place. -/
theorem getElem_rows (formula : Formula) (index : Nat) (inside : index < formula.rows.length) :
    formula.rows[index] = formula.row index :=
  ((getElem?_rows formula index _).mp (List.getElem?_eq_getElem inside)).2.symm

/-- No row is listed twice. -/
theorem nodup_rows (formula : Formula) : formula.rows.Nodup := by
  refine List.Nodup.map_on ?_ List.nodup_range
  intro first firstMember second secondMember same
  exact formula.row_injective first second (List.mem_range.mp firstMember)
    (List.mem_range.mp secondMember) same

/-- A result is that of all rows exactly if it is the value under every assignment that covers the
variables: each of these agrees with a row, and the assignment of a row is one of them. -/
theorem results_eq_iff (formula : Formula) (value : Bool) :
    (∀ row ∈ formula.rows, row.result = value) ↔
      ∀ assignment : Assignment, assignment.Covers formula.names →
        formula.evaluate assignment = .ok value := by
  constructor
  · intro every assignment covers
    have listed : formula.row (formula.rowOf assignment.column) ∈ formula.rows :=
      (mem_rows formula _).mpr ⟨_, rowOf_lt formula assignment.column, rfl⟩
    rw [evaluate_of_covers formula assignment covers, ← result_rowOf, every _ listed]
  · intro every row member
    obtain ⟨index, _, rfl⟩ := (mem_rows formula row).mp member
    have evaluated := every _ (row_covers formula index)
    rw [evaluate_row_assignment] at evaluated
    exact Except.ok.inj evaluated

/-- The assignment of chosen truth values to the variables of a formula. -/
def chosen (formula : Formula) (choice : Fin formula.names.length → Bool) : Assignment :=
  ⟨formula.names.zip (List.ofFn choice)⟩

/-- A choice is the assignment of the row whose number is read from it. -/
theorem assignment_row_number (formula : Formula) (choice : Fin formula.names.length → Bool) :
    (formula.row (number (List.ofFn choice))).assignment = formula.chosen choice := by
  have digits := binary_number (List.ofFn choice)
  rw [List.length_ofFn] at digits
  change Assignment.mk (Path.ofIndex formula.names _) = _
  rw [Path.ofIndex, digits, chosen]

/-- There are as many rows with the result true as there are choices of truth values that satisfy
the formula: reading the number of a row from a choice pairs them off. -/
theorem length_satisfying (formula : Formula) :
    (formula.rows.filter Row.result).length
      = (Finset.univ.filter fun choice : Fin formula.names.length → Bool =>
          formula.evaluate (formula.chosen choice) = .ok true).card := by
  have counted : (formula.rows.filter Row.result).length
      = ((Finset.range (2 ^ formula.names.length)).filter fun index =>
          (formula.row index).result = true).card := by
    have decided : Row.result ∘ formula.row
        = fun index => decide ((formula.row index).result = true) :=
      funext fun _ => Bool.decide_eq_true.symm
    rw [rows, List.filter_map, List.length_map, decided]
    rfl
  rw [counted]
  symm
  refine Finset.card_bij (fun choice _ => number (List.ofFn choice)) ?_ ?_ ?_
  · intro choice satisfied
    have below := number_lt (List.ofFn choice)
    rw [List.length_ofFn] at below
    rw [Finset.mem_filter, ← assignment_row_number, evaluate_row_assignment] at satisfied
    exact Finset.mem_filter.mpr ⟨Finset.mem_range.mpr below, Except.ok.inj satisfied.2⟩
  · intro first _ second _ same
    have digits := congrArg (Sentential.binary formula.names.length) same
    have firstDigits := binary_number (List.ofFn first)
    have secondDigits := binary_number (List.ofFn second)
    rw [List.length_ofFn] at firstDigits secondDigits
    rw [firstDigits, secondDigits] at digits
    exact List.ofFn_injective digits
  · intro index member
    obtain ⟨inside, satisfied⟩ := Finset.mem_filter.mp member
    have below := Finset.mem_range.mp inside
    have read : number (List.ofFn fun place : Fin formula.names.length =>
        index.testBit (formula.names.length - 1 - place)) = index := by
      rw [ofFn_testBit, number_binary _ _ below]
    refine ⟨_, ?_, read⟩
    rw [Finset.mem_filter, ← assignment_row_number, evaluate_row_assignment, read]
    exact ⟨Finset.mem_univ _, congrArg Except.ok satisfied⟩

end Formula

namespace Table

/-- The table of a formula holds its rows. -/
theorem ofSentence_eq_rows (formula : Formula) :
    ofSentence (.ofFormula formula) = .ok ⟨formula.names, formula.rows⟩ :=
  ofSentence_ofFormula formula

/-- Every formula has a row. -/
theorem exists_row (formula : Formula) : ∃ row, row ∈ formula.rows :=
  ⟨_, (formula.mem_rows _).mpr ⟨0, Nat.two_pow_pos _, rfl⟩⟩

/-- A truth table decides its formula. Under an assignment that covers the variables, the formula
comes to the result of the one row that agrees with the assignment. So the table is a tautology
if the formula is true under all of these assignments, and a contradiction if it is false under
all, and never both. It counts the choices of truth values that satisfy the formula, and lists the
satisfying rows, each once and in the order of the table. The table can be built if memory can
address its rows. -/
theorem decides_formula (formula : Formula) :
    ∃ table : Table,
      ofSentence (.ofFormula formula) = .ok table ∧
      build (.ofFormula formula)
        = (if (Sentence.ofFormula formula).rowCount ≤ maxRows then .ok table
          else .error .tooManyRows) ∧
      table.names = formula.names ∧
      (∀ assignment : Assignment, assignment.Covers formula.names →
        ∃ (index : Nat) (row : Row), table.rows[index]? = some row ∧
          row.Agrees table.names assignment ∧
          formula.evaluate assignment = .ok row.result ∧
          ∀ (other : Nat) (otherRow : Row), table.rows[other]? = some otherRow →
            otherRow.Agrees table.names assignment → other = index) ∧
      (table.isTautology = true ↔ ∀ assignment : Assignment, assignment.Covers formula.names →
        formula.evaluate assignment = .ok true) ∧
      (table.isContradiction = true ↔ ∀ assignment : Assignment, assignment.Covers formula.names →
        formula.evaluate assignment = .ok false) ∧
      ¬ (table.isTautology = true ∧ table.isContradiction = true) ∧
      table.satisfyingCount
        = (Finset.univ.filter fun choice : Fin formula.names.length → Bool =>
            formula.evaluate (formula.chosen choice) = .ok true).card ∧
      table.satisfying.Sublist table.rows ∧
      table.satisfying.Nodup ∧
      ∀ row, row ∈ table.satisfying ↔
        row ∈ table.rows ∧ formula.evaluate row.assignment = .ok true := by
  have tautology : (⟨formula.names, formula.rows⟩ : Table).isTautology = true ↔
      ∀ row ∈ formula.rows, row.result = true := by
    simp [isTautology, results]
  have contradiction : (⟨formula.names, formula.rows⟩ : Table).isContradiction = true ↔
      ∀ row ∈ formula.rows, row.result = false := by
    simp [isContradiction, results]
  have built := ofSentence_eq_rows formula
  have bounded : build (.ofFormula formula)
      = (if (Sentence.ofFormula formula).rowCount ≤ maxRows then .ok ⟨formula.names, formula.rows⟩
        else .error .tooManyRows) := by
    rw [build, built]
  refine ⟨_, built, bounded, rfl, ?_, ?_, ?_, ?_, formula.length_satisfying, ?_, ?_, ?_⟩
  · intro assignment covers
    refine ⟨formula.rowOf assignment.column, formula.row (formula.rowOf assignment.column), ?_, ?_,
      ?_, ?_⟩
    · exact (formula.getElem?_rows _ _).mpr ⟨formula.rowOf_lt _, rfl⟩
    · exact formula.row_agrees assignment covers
    · rw [formula.evaluate_of_covers assignment covers, formula.result_rowOf]
    · intro other otherRow listed agrees
      obtain ⟨inside, rfl⟩ := (formula.getElem?_rows other otherRow).mp listed
      exact formula.eq_rowOf_of_agrees assignment covers other inside agrees
  · rw [tautology]
    exact formula.results_eq_iff true
  · rw [contradiction]
    exact formula.results_eq_iff false
  · rw [tautology, contradiction]
    rintro ⟨allTrue, allFalse⟩
    obtain ⟨row, member⟩ := exists_row formula
    exact absurd ((allTrue row member).symm.trans (allFalse row member)) Bool.noConfusion
  · exact List.filter_sublist
  · exact formula.nodup_rows.filter _
  · intro row
    rw [satisfying, List.mem_filter]
    refine and_congr_right ?_
    intro member
    obtain ⟨index, _, rfl⟩ := (formula.mem_rows row).mp member
    rw [formula.evaluate_row_assignment, Except.ok.injEq]

/-- An assignment may have its columns in another order, others besides, and a name twice: the first
column of each name finds the row. -/
theorem decides_with_repeated_name :
    (Assignment.mk [("r", true), ("q", false), ("p", true), ("q", true)]).Covers ["p", "q"] ∧
      ∃ table : Table,
        ofSentence (.ofFormula (.binary .and (.var "p") (.not (.var "q")))) = .ok table ∧
        ∃ row ∈ table.rows,
          row.Agrees table.names ⟨[("r", true), ("q", false), ("p", true), ("q", true)]⟩ ∧
          row.result = true := by
  have covers : (Assignment.mk [("r", true), ("q", false), ("p", true), ("q", true)]).Covers
      ["p", "q"] := by
    intro name member
    rcases List.mem_pair.mp member with rfl | rfl
    · exact ⟨true, rfl⟩
    · exact ⟨false, rfl⟩
  obtain ⟨table, built, _, _, decided, _⟩ :=
    decides_formula (.binary .and (.var "p") (.not (.var "q")))
  obtain ⟨index, row, listed, agrees, evaluated, _⟩ := decided _ covers
  have result : row.result = true := (Except.ok.inj (evaluated.symm.trans rfl))
  exact ⟨covers, table, built, row, List.mem_of_getElem? listed, agrees, result⟩

end Table

end Sentential
