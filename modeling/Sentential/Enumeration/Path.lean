/-!
# Paths in a decision tree

The choices of truth values for a list of names are the leaves of a binary decision tree with one
level for each name, the first name at the root. A leaf is given by the path that leads to it:
each level with the branch taken there, false or true, the root first. From left to right, false
before true, the paths follow one another like the numbers of a binary counter.

To advance, a path is taken back past every level whose two branches are done, the deepest level
that still has its true branch to come is moved there, and the levels below it start again with
false. The number of paths that lie further to the right falls by one with every advance.
-/

-- Powers of numbers are those of the core library, also where Mathlib offers its own.
attribute [instance (2000)] instPowNat

namespace Sentential

/-- A path in the decision tree: each name with the branch taken at its level, the root first. -/
abbrev Path := List (String × Bool)

namespace Path

/-- The leftmost path through the levels of the given names. -/
def start (names : List String) : Path := names.map fun name => (name, false)

/-- The leftmost path through the levels of a path. -/
def restart (path : Path) : Path := path.map fun level => (level.1, false)

/-- The next path to the right, or none after the rightmost one. -/
def next? : Path → Option Path
  | [] => none
  | level :: deeper =>
    match next? deeper with
    | some advanced => some (level :: advanced)
    | none => if level.2 then none else some ((level.1, true) :: restart deeper)

/-- The number of paths to the right of a path. -/
def later : Path → Nat
  | [] => 0
  | level :: deeper => (if level.2 then 0 else 2 ^ deeper.length) + later deeper

/-- Starting again keeps the levels. -/
@[simp] theorem length_restart (path : Path) : (restart path).length = path.length := by
  simp [restart]

/-- Advancing moves from branch to branch and keeps the name of every level. -/
theorem names_of_next? (path advanced : Path) (step : next? path = some advanced) :
    advanced.map Prod.fst = path.map Prod.fst := by
  induction path generalizing advanced with
  | nil => simp [next?] at step
  | cons level deeper inductionHypothesis =>
    cases below : next? deeper with
    | some lower =>
      have same : level :: lower = advanced := by simpa [next?, below] using step
      subst same
      simp [inductionHypothesis lower below]
    | none =>
      cases taken : level.2 with
      | true => simp [next?, below, taken] at step
      | false =>
        have same : (level.1, true) :: restart deeper = advanced := by
          simpa [next?, below, taken] using step
        subst same
        simp [restart]

/-- Advancing keeps the number of levels. -/
theorem length_of_next? (path advanced : Path) (step : next? path = some advanced) :
    advanced.length = path.length := by
  have kept := congrArg List.length (names_of_next? path advanced step)
  simpa using kept

/-- From the leftmost path all others lie to the right. -/
theorem later_restart (path : Path) : later (restart path) + 1 = 2 ^ path.length := by
  induction path with
  | nil => rfl
  | cons level deeper inductionHypothesis =>
    have unfolded : later (restart (level :: deeper))
        = 2 ^ deeper.length + later (restart deeper) := by
      simp [restart, later]
    rw [unfolded, List.length_cons, Nat.pow_succ]
    omega

/-- Only the rightmost path has none after it. -/
theorem later_of_next?_none (path : Path) (stuck : next? path = none) : later path = 0 := by
  induction path with
  | nil => rfl
  | cons level deeper inductionHypothesis =>
    cases below : next? deeper with
    | some lower => simp [next?, below] at stuck
    | none =>
      cases taken : level.2 with
      | false => simp [next?, below, taken] at stuck
      | true => simp [later, taken, inductionHypothesis below]

/-- Each advance passes exactly one path. -/
theorem later_of_next?_some (path advanced : Path) (step : next? path = some advanced) :
    later path = later advanced + 1 := by
  induction path generalizing advanced with
  | nil => simp [next?] at step
  | cons level deeper inductionHypothesis =>
    cases below : next? deeper with
    | some lower =>
      have same : level :: lower = advanced := by simpa [next?, below] using step
      subst same
      have fewer := inductionHypothesis lower below
      have kept := length_of_next? deeper lower below
      simp only [later, kept]
      omega
    | none =>
      have last := later_of_next?_none deeper below
      cases taken : level.2 with
      | true => simp [next?, below, taken] at step
      | false =>
        have same : (level.1, true) :: restart deeper = advanced := by
          simpa [next?, below, taken] using step
        subst same
        have all := later_restart deeper
        simp only [later, last, taken, Bool.false_eq_true, if_false, if_true]
        omega

end Path

end Sentential
