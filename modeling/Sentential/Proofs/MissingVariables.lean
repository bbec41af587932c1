import Sentential.Proofs.Lookup

/-!
# The first missing variable

Both ways to evaluate a formula go through its leaves from the left and stop at the first one whose
name has no column, even where what has been evaluated so far decides the result. The list of the
variables has every name at its first leaf, so the variable that is reported as missing is the first
of the list without a column.
-/

namespace Sentential

namespace Formula

/-- The name at the first leaf without a column is the one reported. All leaves before it have
values, so an operand that is passed is evaluated in full. -/
theorem evaluate_eq_missing (assignment : Assignment) (formula : Formula) (missing : String)
    (first : (formula.occurrences.find? fun name => name ∉ assignment.names) = some missing) :
    formula.evaluate assignment = .error (.missingVariable missing) := by
  induction formula with
  | var name =>
    obtain rfl : missing = name := List.mem_singleton.mp (List.mem_of_find?_eq_some first)
    have unknown : missing ∉ assignment.names := by simpa using List.find?_some first
    rw [evaluate, Assignment.value?_eq_none unknown]
  | not inner inductionHypothesis =>
    rw [evaluate, inductionHypothesis first]
    rfl
  | binary connective left right leftHypothesis rightHypothesis =>
    rw [occurrences, List.find?_append] at first
    cases inLeft : left.occurrences.find? fun name => name ∉ assignment.names with
    | some name =>
      rw [inLeft] at first
      obtain rfl : name = missing := Option.some.inj first
      rw [evaluate, leftHypothesis inLeft]
    | none =>
      rw [inLeft] at first
      have known : ∀ name ∈ left.names, name ∈ assignment.names := by
        intro name member
        have without := List.find?_eq_none.mp inLeft name ((mem_names left name).mp member)
        simpa using without
      rw [evaluate, evaluate_eq_meaning assignment left known, rightHypothesis first]
  | paren inner inductionHypothesis => exact inductionHypothesis first

/-- Whether a value is missing or a variable is reported as missing, the same leaf is the cause. -/
theorem value?_eq_toOption (assignment : Assignment) (formula : Formula) :
    formula.value? assignment = (formula.evaluate assignment).toOption := by
  induction formula with
  | var name =>
    rw [value?, evaluate]
    cases assignment.value? name with
    | none => rfl
    | some value => rfl
  | not inner inductionHypothesis =>
    rw [value?, evaluate, inductionHypothesis]
    cases inner.evaluate assignment with
    | error violation => rfl
    | ok value => rfl
  | binary connective left right leftHypothesis rightHypothesis =>
    rw [value?, evaluate, leftHypothesis, rightHypothesis]
    cases left.evaluate assignment with
    | error violation => rfl
    | ok leftValue =>
      cases right.evaluate assignment with
      | error violation => rfl
      | ok rightValue => rfl
  | paren inner inductionHypothesis => exact inductionHypothesis

/-- The two ways to evaluate a formula agree, and so does evaluating its sentence. If every variable
has a column in the assignment, they come to what the connectives make of the values, each variable
being read from the first column of its name. Otherwise there is no value, and the variable reported
as missing is the first in the list of the variables that has no column. -/
theorem evaluators_agree (formula : Formula) (assignment : Assignment) :
    ((∀ name ∈ formula.names, name ∈ assignment.names) →
      formula.value? assignment = some (formula.meaning assignment.column) ∧
      formula.evaluate assignment = .ok (formula.meaning assignment.column) ∧
      (Sentence.ofFormula formula).evaluate assignment
        = .ok (formula.meaning assignment.column)) ∧
    (¬ (∀ name ∈ formula.names, name ∈ assignment.names) →
      ∃ (missing : String) (before after : List String),
        formula.names = before ++ missing :: after ∧
        missing ∉ assignment.names ∧
        (∀ name ∈ before, name ∈ assignment.names) ∧
        formula.value? assignment = none ∧
        formula.evaluate assignment = .error (.missingVariable missing) ∧
        (Sentence.ofFormula formula).evaluate assignment = .error (.missingVariable missing) ∧
        (ContractViolation.missingVariable missing).message
          = "Variable '" ++ missing ++ "' is not in the assignment") := by
  constructor
  · intro known
    have evaluated := evaluate_eq_meaning assignment formula known
    refine ⟨?_, evaluated, evaluated⟩
    rw [value?_eq_toOption, evaluated]
    rfl
  · intro unknown
    cases first : formula.names.find? fun name => name ∉ assignment.names with
    | none =>
      refine absurd ?_ unknown
      intro name member
      simpa using List.find?_eq_none.mp first name member
    | some missing =>
      obtain ⟨absent, before, after, split, passed⟩ := List.find?_eq_some_iff_append.mp first
      rw [find?_names] at first
      have refused := evaluate_eq_missing assignment formula missing first
      refine ⟨missing, before, after, split, of_decide_eq_true absent, ?_, ?_, refused, refused,
        rfl⟩
      · intro name member
        simpa using passed name member
      · rw [value?_eq_toOption, refused]
        rfl

/-- The first column of `p` makes the conjunction false whatever `q` is, and then `r` makes the
exclusive disjunction true; still `q` is missed where it has no column, although `r`, which comes
later, has none either. -/
theorem evaluators_agree_on_decided_chain :
    ((∀ name ∈ ["p", "q", "r"], name ∈ ["s", "p", "r", "q", "p"]) ∧
      (binary .xor (binary .and (.var "p") (.var "q")) (.var "r")).value?
        ⟨[("s", true), ("p", false), ("r", true), ("q", true), ("p", true)]⟩ = some true) ∧
    ((¬ ∀ name ∈ ["p", "q", "r"], name ∈ ["s", "p"]) ∧
      (binary .xor (binary .and (.var "p") (.var "q")) (.var "r")).evaluate
        ⟨[("s", true), ("p", false)]⟩ = .error (.missingVariable "q") ∧
      ∃ before after, ["p", "q", "r"] = before ++ "q" :: after ∧
        ∀ name ∈ before, name ∈ ["s", "p"]) := by
  have known : ∀ name ∈ ["p", "q", "r"], name ∈ ["s", "p", "r", "q", "p"] := by decide
  have unknown : ¬ ∀ name ∈ ["p", "q", "r"], name ∈ ["s", "p"] := by decide
  refine ⟨⟨known, ?_⟩, unknown, ?_⟩
  · exact ((evaluators_agree (binary .xor (binary .and (.var "p") (.var "q")) (.var "r"))
      ⟨[("s", true), ("p", false), ("r", true), ("q", true), ("p", true)]⟩).1 known).1
  · obtain ⟨missing, before, after, split, _, passed, _, refused, _⟩ :=
      (evaluators_agree (binary .xor (binary .and (.var "p") (.var "q")) (.var "r"))
        ⟨[("s", true), ("p", false)]⟩).2 unknown
    obtain rfl : "q" = missing :=
      ContractViolation.missingVariable.inj (Except.error.inj (Eq.trans rfl refused))
    exact ⟨refused, before, after, split, passed⟩

end Formula

end Sentential
