import Sentential.Evaluation
import Sentential.Proofs.Variables

/-!
# Reading the value of a variable

An assignment is asked for a value by name and answers with the first column of that name. Where
no name repeats, this is the only column of the name. A formula whose variables all have a column
has a value under the assignment, and it is the one that its connectives give.
-/

namespace Sentential

namespace Assignment

/-- The value in the first column of a name. A name without a column reads as false here, which
hides nothing: it is an error to evaluate one. -/
def column (assignment : Assignment) (name : String) : Bool :=
  assignment.values.getD (assignment.names.idxOf name) false

/-- Looking up a name that has a column reads this column. -/
theorem value?_eq_column (assignment : Assignment) (name : String)
    (known : name ∈ assignment.names) :
    assignment.value? name = some (assignment.column name) := by
  obtain ⟨entries⟩ := assignment
  induction entries with
  | nil => exact absurd known List.not_mem_nil
  | cons entry entries inductionHypothesis =>
    by_cases same : name = entry.1
    · subst same
      rw [value?, List.lookup_cons_self]
      simp [column, names, values]
    · have later : name ∈ (Assignment.mk entries).names :=
        (List.mem_cons.mp known).resolve_left same
      have apart : entry.1 ≠ name := Ne.symm same
      have found := inductionHypothesis later
      simp only [value?, column, names, values] at found ⊢
      rw [List.lookup_cons, beq_false_of_ne same, List.map_cons, List.map_cons,
        List.idxOf_cons_ne _ apart, List.getD_cons_succ]
      exact found

/-- There are as many columns as names. -/
theorem length_values (assignment : Assignment) :
    assignment.values.length = assignment.names.length := by
  rw [values, names, List.length_map, List.length_map]

/-- The first place of a name that has a column is the place of a value. -/
theorem getElem?_idxOf (assignment : Assignment) (name : String)
    (known : name ∈ assignment.names) :
    assignment.values[assignment.names.idxOf name]? = some (assignment.column name) := by
  have valued : assignment.names.idxOf name < assignment.values.length := by
    rw [length_values]
    exact List.idxOf_lt_length_of_mem known
  rw [column, List.getD_eq_getElem?_getD, List.getElem?_eq_getElem valued, Option.getD_some]

/-- Where no name repeats, every column is the one its name reads. -/
theorem column_of_nodup (assignment : Assignment) (distinct : assignment.names.Nodup)
    (place : Nat) (name : String) (here : assignment.names[place]? = some name) :
    assignment.values[place]? = some (assignment.column name) := by
  have found := getElem?_idxOf assignment name (List.mem_of_getElem? here)
  obtain ⟨inside, rfl⟩ := List.getElem?_eq_some_iff.mp here
  rwa [distinct.idxOf_getElem place inside] at found

/-- Where the columns hold what a valuation gives to their names, every name reads just that. -/
theorem column_of_values (assignment : Assignment) (valuation : String → Bool)
    (valued : assignment.values = assignment.names.map valuation) (name : String)
    (known : name ∈ assignment.names) : assignment.column name = valuation name := by
  have inside := List.idxOf_lt_length_of_mem known
  rw [column, valued, List.getD_eq_getElem?_getD, List.getElem?_map,
    List.getElem?_eq_getElem inside, List.getElem_idxOf]
  rfl

/-- Columns that are appended are read only where the name has none before them. -/
theorem column_append (first second : List (String × Bool)) (name : String) :
    (Assignment.mk (first ++ second)).column name
      = if name ∈ (Assignment.mk first).names then (Assignment.mk first).column name
        else (Assignment.mk second).column name := by
  have aligned := length_values ⟨first⟩
  simp only [column, names, values, List.map_append, List.idxOf_append,
    List.getD_eq_getElem?_getD] at aligned ⊢
  by_cases before : name ∈ first.map Prod.fst
  · have inside := List.idxOf_lt_length_of_mem before
    rw [if_pos before, if_pos before, List.getElem?_append_left (by omega)]
  · rw [if_neg before, if_neg before, List.getElem?_append_right (by omega), aligned,
      Nat.add_sub_cancel]

/-- The assignment has a value for each of the names, wherever their columns are and whatever other
columns there are. -/
def Covers (assignment : Assignment) (names : List String) : Prop :=
  ∀ name ∈ names, ∃ value, assignment.value? name = some value

/-- A name that has a value has a column. -/
theorem mem_names_of_value? {assignment : Assignment} {name : String} {value : Bool}
    (known : assignment.value? name = some value) : name ∈ assignment.names := by
  obtain ⟨before, after, split, _⟩ := List.lookup_eq_some_iff.mp known
  rw [names, split]
  simp

/-- A name without a column has no value. -/
theorem value?_eq_none {assignment : Assignment} {name : String}
    (unknown : name ∉ assignment.names) : assignment.value? name = none := by
  cases found : assignment.value? name with
  | none => rfl
  | some value => exact absurd (mem_names_of_value? found) unknown

/-- What is covered is read from the columns. -/
theorem Covers.value?_eq {assignment : Assignment} {names : List String}
    (covers : assignment.Covers names) {name : String} (member : name ∈ names) :
    assignment.value? name = some (assignment.column name) := by
  obtain ⟨value, known⟩ := covers name member
  exact assignment.value?_eq_column name (mem_names_of_value? known)

end Assignment

namespace Formula

/-- The meaning depends on the values of the variables alone. -/
theorem meaning_congr (formula : Formula) (first second : String → Bool)
    (same : ∀ name ∈ formula.occurrences, first name = second name) :
    formula.meaning first = formula.meaning second := by
  induction formula with
  | var name => exact same name (List.mem_singleton_self name)
  | not inner inductionHypothesis => rw [meaning, meaning, inductionHypothesis same]
  | binary connective left right leftHypothesis rightHypothesis =>
    have leftSame := fun name member => same name (List.mem_append_left _ member)
    have rightSame := fun name member => same name (List.mem_append_right _ member)
    rw [meaning_binary, meaning_binary, leftHypothesis leftSame, rightHypothesis rightSame]
  | paren inner inductionHypothesis => exact inductionHypothesis same

/-- An assignment that gives every variable its value makes the formula mean what the connectives
make of these values. -/
theorem evaluate_eq_ok (assignment : Assignment) (valuation : String → Bool) (formula : Formula)
    (known : ∀ name ∈ formula.occurrences, assignment.value? name = some (valuation name)) :
    formula.evaluate assignment = .ok (formula.meaning valuation) := by
  induction formula with
  | var name => rw [evaluate, known name (List.mem_singleton_self name), meaning]
  | not inner inductionHypothesis =>
    rw [evaluate, inductionHypothesis known]
    rfl
  | binary connective left right leftHypothesis rightHypothesis =>
    have leftKnown := fun name member => known name (List.mem_append_left _ member)
    have rightKnown := fun name member => known name (List.mem_append_right _ member)
    rw [evaluate, leftHypothesis leftKnown, rightHypothesis rightKnown, meaning_binary]
  | paren inner inductionHypothesis => exact inductionHypothesis known

/-- A formula has a value under every assignment that has a column for each of its variables. -/
theorem evaluate_eq_meaning (assignment : Assignment) (formula : Formula)
    (known : ∀ name ∈ formula.names, name ∈ assignment.names) :
    formula.evaluate assignment = .ok (formula.meaning assignment.column) := by
  refine evaluate_eq_ok assignment assignment.column formula ?_
  intro name member
  have listed : name ∈ formula.names := (mem_names formula name).mpr member
  exact assignment.value?_eq_column name (known name listed)

/-- A formula has a value under every assignment that covers its variables. -/
theorem evaluate_of_covers (formula : Formula) (assignment : Assignment)
    (covers : assignment.Covers formula.names) :
    formula.evaluate assignment = .ok (formula.meaning assignment.column) := by
  refine evaluate_eq_meaning assignment formula ?_
  intro name member
  obtain ⟨value, known⟩ := covers name member
  exact Assignment.mem_names_of_value? known

end Formula

end Sentential
