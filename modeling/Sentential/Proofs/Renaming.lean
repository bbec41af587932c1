import Mathlib.Data.Set.Function
import Sentential.Proofs.VariableOrder

/-!
# Renaming the variables

What the variables of a formula are called makes no difference. If they are renamed so that different
variables keep different names, the formula lists the new names in the old order, and its truth table
has the old values and results in columns with new names. Names are only ever compared with one
another: the first occurrence is told by equality, and a column is found by it.
-/

namespace Sentential

/-- The row with its columns renamed. -/
def Row.renamed (rename : String → String) (row : Row) : Row :=
  ⟨⟨row.assignment.entries.map (Prod.map rename id)⟩, row.result⟩

/-- The columns have the values that they had. -/
theorem Row.values_renamed (rename : String → String) (row : Row) :
    (row.renamed rename).assignment.values = row.assignment.values := by
  rw [Row.renamed, Assignment.values, Assignment.values, List.map_map]
  rfl

/-- Renaming the levels of a path changes none of its branches. -/
theorem Path.ofIndex_map (rename : String → String) (names : List String) (index : Nat) :
    Path.ofIndex (names.map rename) index
      = (Path.ofIndex names index).map (Prod.map rename id) := by
  rw [Path.ofIndex, Path.ofIndex, List.length_map, List.zip_map_left]

namespace Formula

/-- The formula with every variable renamed. -/
def renamed (rename : String → String) : Formula → Formula
  | .var name => .var (rename name)
  | .not operand => .not (operand.renamed rename)
  | .binary connective left right =>
    .binary connective (left.renamed rename) (right.renamed rename)
  | .paren inner => .paren (inner.renamed rename)

variable (rename : String → String)

/-- The formula keeps its nodes. -/
theorem size_renamed (formula : Formula) : (formula.renamed rename).size = formula.size := by
  induction formula with
  | var name => rfl
  | not operand inductionHypothesis => rw [renamed, size, size, inductionHypothesis]
  | binary connective left right leftHypothesis rightHypothesis =>
    rw [renamed, size, size, leftHypothesis, rightHypothesis]
  | paren inner inductionHypothesis => rw [renamed, size, size, inductionHypothesis]

/-- The formula keeps its height. -/
theorem height_renamed (formula : Formula) : (formula.renamed rename).height = formula.height := by
  induction formula with
  | var name => rfl
  | not operand inductionHypothesis => rw [renamed, height, height, inductionHypothesis]
  | binary connective left right leftHypothesis rightHypothesis =>
    rw [renamed, height, height, leftHypothesis, rightHypothesis]
  | paren inner inductionHypothesis => rw [renamed, height, height, inductionHypothesis]

/-- The renamed formula means what the formula means if each variable has the value of its new name. -/
theorem meaning_renamed (formula : Formula) (valuation : String → Bool) :
    (formula.renamed rename).meaning valuation = formula.meaning (valuation ∘ rename) := by
  induction formula with
  | var name => rfl
  | not operand inductionHypothesis => rw [renamed, meaning, meaning, inductionHypothesis]
  | binary connective left right leftHypothesis rightHypothesis =>
    rw [renamed, meaning_binary, meaning_binary, leftHypothesis, rightHypothesis]
  | paren inner inductionHypothesis => rw [renamed, meaning, meaning, inductionHypothesis]

variable {rename} {known : List String} (injective : Set.InjOn rename {name | name ∈ known})

include injective

/-- Collecting meets the new names where it met the old ones.

Induct on the formula. All names that are compared, those seen before and those of the leaves, are
among the `known` ones, on which renaming is injective. -/
theorem collect_renamed (formula : Formula) (seen : List String) (before : ∀ name ∈ seen, name ∈ known)
    (leaves : ∀ name ∈ formula.occurrences, name ∈ known) :
    (formula.renamed rename).collect (seen.map rename) = (formula.collect seen).map rename := by
  induction formula generalizing seen with
  | var leaf =>
    have isKnown : leaf ∈ known := leaves leaf (List.mem_singleton_self leaf)
    have met : rename leaf ∈ seen.map rename ↔ leaf ∈ seen := by
      constructor
      · intro listed
        obtain ⟨name, member, same⟩ := List.mem_map.mp listed
        rwa [← injective (before name member) isKnown same]
      · exact List.mem_map_of_mem
    rw [renamed, collect, collect]
    by_cases listed : leaf ∈ seen
    · rw [if_pos listed, if_pos (met.mpr listed)]
    · rw [if_neg listed, if_neg (mt met.mp listed), List.map_append, List.map_singleton]
  | not operand inductionHypothesis => exact inductionHypothesis seen before leaves
  | binary connective left right leftHypothesis rightHypothesis =>
    have inLeft := fun name member => leaves name (List.mem_append_left _ member)
    have inRight := fun name member => leaves name (List.mem_append_right _ member)
    have between : ∀ name ∈ left.collect seen, name ∈ known := by
      intro name member
      exact ((mem_collect left seen name).mp member).elim (before name) (inLeft name)
    rw [renamed, collect, leftHypothesis seen before inLeft,
      rightHypothesis (left.collect seen) between inRight, collect]
  | paren inner inductionHypothesis => exact inductionHypothesis seen before leaves

end Formula

namespace Formula

variable {rename : String → String} (formula : Formula)
  (injective : Set.InjOn rename {name | name ∈ formula.names})

include injective

/-- The variables are listed by their new names in the old order. -/
theorem names_renamed : (formula.renamed rename).names = formula.names.map rename :=
  collect_renamed injective formula [] (by simp) fun name => (mem_names formula name).mpr

/-- The columns of a row have the new names and the old values. -/
theorem assignment_renamed (index : Nat) :
    ((formula.renamed rename).row index).assignment
      = ((formula.row index).renamed rename).assignment := by
  rw [row, names_renamed formula injective]
  exact congrArg Assignment.mk (Path.ofIndex_map rename formula.names index)

/-- A variable is read from its own column before and after, since no other column has its name. -/
theorem column_renamed (index : Nat) {name : String} (member : name ∈ formula.names) :
    ((formula.renamed rename).row index).assignment.column (rename name)
      = (formula.row index).assignment.column name := by
  obtain ⟨place, inside, here⟩ := List.getElem_of_mem member
  have values : ((formula.renamed rename).row index).assignment.values
      = (formula.row index).assignment.values := by
    rw [assignment_renamed formula injective, Row.values_renamed]
  have old := (formula.row_holds index).columns place name
  have new := ((formula.renamed rename).row_holds index).columns place (rename name)
  rw [names_row, List.getElem?_eq_getElem inside, here] at old
  rw [names_row, names_renamed formula injective, List.getElem?_map, List.getElem?_eq_getElem inside,
    here, values, old rfl] at new
  exact (Option.some.inj (new rfl)).symm

/-- A row has the old values and the old result, in columns with the new names. -/
theorem row_renamed (index : Nat) :
    (formula.renamed rename).row index = (formula.row index).renamed rename := by
  have columns := assignment_renamed formula injective index
  have result : ((formula.renamed rename).row index).result = (formula.row index).result := by
    rw [((formula.renamed rename).row_holds index).result, (formula.row_holds index).result,
      meaning_renamed]
    refine meaning_congr formula _ _ ?_
    intro name leaf
    exact column_renamed formula injective index ((mem_names formula name).mpr leaf)
  calc (formula.renamed rename).row index
      = ⟨((formula.renamed rename).row index).assignment,
          ((formula.renamed rename).row index).result⟩ := rfl
    _ = (formula.row index).renamed rename := by rw [columns, result]; rfl

/-- The rows are the old ones, with the new names. -/
theorem rows_renamed :
    (formula.renamed rename).rows = formula.rows.map (Row.renamed rename) := by
  rw [rows, rows, names_renamed formula injective, List.length_map, List.map_map]
  refine List.map_congr_left ?_
  intro index _
  exact row_renamed formula injective index

end Formula

namespace Table

open Formula

/-- Tables with the same results have as many satisfying rows, and are tautologies or contradictions
alike. -/
theorem decided_by_results {first second : Table} (same : first.results = second.results) :
    first.satisfyingCount = second.satisfyingCount ∧ first.isTautology = second.isTautology ∧
      first.isContradiction = second.isContradiction := by
  refine ⟨?_, ?_, ?_⟩
  · have counted : first.results.countP id = second.results.countP id := by rw [same]
    rwa [results, results, ← length_filter_result, ← length_filter_result] at counted
  · rw [isTautology, isTautology, same]
  · rw [isContradiction, isContradiction, same]

/-- Only the identity of the variables matters, not their names. Let the variables of a formula be
renamed, different ones differently. The formula keeps its size and its height, and lists the new
names in the order of the old ones. Its table has as many rows as before, with the same values and the
same results; so it has as many satisfying rows, and is a tautology or a contradiction if it was one. -/
theorem names_are_irrelevant (formula : Formula) (rename : String → String)
    (injective : Set.InjOn rename {name | name ∈ formula.names}) :
    (formula.renamed rename).names = formula.names.map rename ∧
    (formula.renamed rename).size = formula.size ∧
    (formula.renamed rename).height = formula.height ∧
    ∃ table other : Table,
      table.IsOf formula ∧ other.IsOf (formula.renamed rename) ∧
      other.names = table.names.map rename ∧
      other.size = table.size ∧
      (other.rows.map fun row => row.assignment.values)
        = (table.rows.map fun row => row.assignment.values) ∧
      other.results = table.results ∧
      other.satisfyingCount = table.satisfyingCount ∧
      other.isTautology = table.isTautology ∧
      other.isContradiction = table.isContradiction := by
  have listed := names_renamed formula injective
  have rows := rows_renamed formula injective
  have results : (formula.renamed rename).rows.map Row.result = formula.rows.map Row.result := by
    rw [rows, List.map_map]
    rfl
  refine ⟨listed, size_renamed rename formula, height_renamed rename formula,
    ⟨formula.names, formula.rows⟩, ⟨(formula.renamed rename).names, (formula.renamed rename).rows⟩,
    isOf_rows formula, isOf_rows (formula.renamed rename), listed, ?_, ?_, results,
    decided_by_results results⟩
  · rw [size, size, rows, List.length_map]
  · rw [rows, List.map_map]
    exact List.map_congr_left fun row _ => row.values_renamed rename

/-- Two variables can exchange their names, though each new name is an old one. A third name, which
the formula does not mention, may be mapped to one of them. -/
theorem names_are_irrelevant_to_exchange :
    Set.InjOn (fun name => if name = "p" then "q" else "p") {name | name ∈ ["p", "q"]} ∧
      ∃ table : Table, table.IsOf (.binary .and (.var "q") (.not (.var "p"))) ∧
        table.names = ["q", "p"] ∧ table.results = [false, false, true, false] := by
  have injective : Set.InjOn (fun name => if name = "p" then "q" else "p")
      {name | name ∈ ["p", "q"]} := by
    rintro first (firstIs : first ∈ ["p", "q"]) second (secondIs : second ∈ ["p", "q"]) same
    rcases List.mem_pair.mp firstIs with rfl | rfl <;>
      rcases List.mem_pair.mp secondIs with rfl | rfl <;> simp at same ⊢
  obtain ⟨_, _, _, table, other, tableIs, otherIs, named, _, _, results, _⟩ :=
    names_are_irrelevant (.binary .and (.var "p") (.not (.var "q"))) _ injective
  obtain rfl := Except.ok.inj ((ofSentence_eq_rows _).symm.trans tableIs.complete)
  exact ⟨injective, other, otherIs, named, results.trans (by decide)⟩

end Table

end Sentential
