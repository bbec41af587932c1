import Sentential.Assignment
import Sentential.Enumeration.Path

/-!
# Enumerating assignments

The assignments to a list of names are visited in the order of the leaves of their decision tree.
The tree is never built: the state is the path to the leaf that comes next. It also counts the
assignments handed out and remembers whether the last leaf has been passed; an exhausted
enumeration stays exhausted.
-/

namespace Sentential

/-- The largest number that is given as a count or taken as a limit: 64 bits hold it. -/
def largestCount : Nat := 2 ^ (64 : Nat) - 1

/-- An enumeration of the assignments to a list of names: the path to the next leaf, the number
of assignments handed out, and whether the last one has been. -/
structure Enumeration where
  path : Path
  emitted : Nat
  exhausted : Bool
deriving DecidableEq

namespace Enumeration

/-- The enumeration that has handed out nothing yet. -/
def ofNames (names : List String) : Enumeration :=
  { path := Path.start names, emitted := 0, exhausted := false }

/-- The assignment at the end of the path: each name has the value of the branch taken. -/
def current (enumeration : Enumeration) : Assignment := ⟨enumeration.path⟩

/-- The state after the current assignment has been handed out. -/
def advance (enumeration : Enumeration) : Enumeration :=
  match enumeration.path.next? with
  | some path => { enumeration with path, emitted := enumeration.emitted + 1 }
  | none => { enumeration with emitted := enumeration.emitted + 1, exhausted := true }

/-- The next assignment and the state after it, or none at the end. -/
def next? (enumeration : Enumeration) : Option (Assignment × Enumeration) :=
  if enumeration.exhausted then none else some (enumeration.current, enumeration.advance)

/-- The number of assignments still to come. -/
def remaining (enumeration : Enumeration) : Nat :=
  if enumeration.exhausted then 0 else enumeration.path.later + 1

/-- Each assignment handed out leaves one less to come. -/
theorem remaining_of_next? (enumeration rest : Enumeration) (assignment : Assignment)
    (step : enumeration.next? = some (assignment, rest)) :
    rest.remaining + 1 = enumeration.remaining := by
  cases ended : enumeration.exhausted with
  | true => simp [next?, ended] at step
  | false =>
    have same : enumeration.advance = rest := by
      simp only [next?, ended, Bool.false_eq_true, if_false, Option.some.injEq,
        Prod.mk.injEq] at step
      exact step.2
    subst same
    cases ahead : enumeration.path.next? with
    | some path =>
      have fewer := Path.later_of_next?_some _ _ ahead
      simp [remaining, advance, ahead, ended, fewer]
    | none =>
      have last := Path.later_of_next?_none _ ahead
      simp [remaining, advance, ahead, ended, last]

/-- Hands out all assignments still to come, in order, combining each one with the result so
far, and gives the exhausted state besides. -/
def drain {α : Type} (combine : α → Assignment → α) (result : α) (enumeration : Enumeration) :
    α × Enumeration :=
  match _step : enumeration.next? with
  | none => (result, enumeration)
  | some (assignment, rest) => drain combine (combine result assignment) rest
termination_by enumeration.remaining
decreasing_by
  have fewer := remaining_of_next? enumeration rest assignment (by assumption)
  omega

/-- Passes over `skipped` assignments and hands out the one after them, if there is one. -/
def nth? : (skipped : Nat) → Enumeration → Option Assignment × Enumeration
  | 0, enumeration =>
    match enumeration.next? with
    | none => (none, enumeration)
    | some (assignment, rest) => (some assignment, rest)
  | skipped + 1, enumeration =>
    match enumeration.next? with
    | none => (none, enumeration)
    | some (_, rest) => nth? skipped rest

/-- Hands out up to `count` assignments, after those already `found`, the latest first. -/
def takeOnto (found : List Assignment) : (count : Nat) → Enumeration →
    List Assignment × Enumeration
  | 0, enumeration => (found.reverse, enumeration)
  | count + 1, enumeration =>
    match enumeration.next? with
    | none => (found.reverse, enumeration)
    | some (assignment, rest) => takeOnto (assignment :: found) count rest

/-- Hands out the next `count` assignments, or all that are left if there are fewer. -/
def take (count : Nat) (enumeration : Enumeration) : List Assignment × Enumeration :=
  takeOnto [] count enumeration

/-- The number of assignments still to come, found by going through them. -/
def count (enumeration : Enumeration) : Nat × Enumeration :=
  enumeration.drain (fun passed _ => passed + 1) 0

/-- The last of the assignments still to come. -/
def last? (enumeration : Enumeration) : Option Assignment × Enumeration :=
  enumeration.drain (fun _ assignment => some assignment) none

/-- The assignments still to come. -/
def toList (enumeration : Enumeration) : List Assignment :=
  (enumeration.drain (fun found assignment => assignment :: found) []).1.reverse

/-- How many assignments are still to come, as a lower and an upper bound. The bounds are exact
while the number is at most `largestCount`. Beyond that, and wherever the number of all assignments
has more than `indexWidth` bits, the limit is the lower bound and there is no upper one. -/
def sizeHint (enumeration : Enumeration) : Nat × Option Nat :=
  if enumeration.exhausted then (0, some 0)
  else
    let count := 2 ^ enumeration.path.length - enumeration.emitted
    if enumeration.path.length < indexWidth ∧ count ≤ largestCount then (count, some count)
    else (largestCount, none)

end Enumeration

end Sentential
