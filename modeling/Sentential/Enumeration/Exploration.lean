import Sentential.Enumeration

/-!
# Enumerating by a stack of decisions

The decision tree of a list of names can be explored with a stack that holds one decision for each
name, the one for the last name on top. A decision is low while its name is false and may still
become true, and high once both branches have been taken.

To go on, decisions are taken off the stack as long as they are high. The first low one becomes
high, and the stack is filled up with low decisions until it has one for each name again. If no low
one is found, the tree has been explored; then the stack is empty.
-/

namespace Sentential

/-- The decision for one name. -/
inductive Branch where
  /-- The name is false, and is still to become true. -/
  | low
  /-- The name is true, and both branches have been taken. -/
  | high
deriving DecidableEq

namespace Branch

/-- The truth value of a name. -/
def value : Branch → Bool
  | .low => false
  | .high => true

/-- A stack of the given height: decisions that are missing are low, and surplus ones are taken off
its top. -/
def resized (height : Nat) (stack : List Branch) : List Branch :=
  List.replicate (height - stack.length) low ++ stack.drop (stack.length - height)

/-- Takes high decisions off a stack and turns the low one below them, if there is one. -/
def backtrack (height : Nat) : (stack : List Branch) → Option (List Branch)
  | [] => none
  | .high :: deeper => backtrack height deeper
  | .low :: deeper => some (resized height (.high :: deeper))

end Branch

/-- A state of the exploration: the names, the decisions, how many assignments were handed out, and
whether the tree has been explored. -/
structure Exploration where
  names : List String
  stack : List Branch
  emitted : Nat
  done : Bool
deriving DecidableEq

namespace Exploration

/-- Before the first assignment is handed out, all decisions are low. -/
def ofNames (names : List String) : Exploration :=
  { names, stack := List.replicate names.length .low, emitted := 0, done := false }

/-- The assignment that the decisions make, from the bottom of the stack to its top. -/
def current (exploration : Exploration) : Assignment :=
  ⟨exploration.names.zip (exploration.stack.reverse.map Branch.value)⟩

/-- The state after the current assignment was handed out. -/
def advance (exploration : Exploration) : Exploration :=
  match Branch.backtrack exploration.names.length exploration.stack with
  | some stack => { exploration with stack, emitted := exploration.emitted + 1 }
  | none => { exploration with stack := [], emitted := exploration.emitted + 1, done := true }

/-- The next assignment and the state after it, or none if the tree has been explored. -/
def next? (exploration : Exploration) : Option (Assignment × Exploration) :=
  if exploration.done then none else some (exploration.current, exploration.advance)

/-- Hands out up to `count` assignments. -/
def take : (count : Nat) → Exploration → List Assignment × Exploration
  | 0, exploration => ([], exploration)
  | count + 1, exploration =>
    match exploration.next? with
    | none => ([], exploration)
    | some (assignment, rest) =>
      let (later, final) := take count rest
      (assignment :: later, final)

/-- The number of all assignments, as one bit in the place that the number of names gives, if it
can be given as a number of 32 bits and an index has this place. -/
def total? (exploration : Exploration) : Option Nat :=
  if exploration.names.length < 2 ^ (32 : Nat) ∧ exploration.names.length < indexWidth then
    some (1 <<< exploration.names.length)
  else none

/-- How many assignments are still to come, as a lower and an upper bound. -/
def sizeHint (exploration : Exploration) : Nat × Option Nat :=
  if exploration.done then (0, some 0)
  else
    match exploration.total? with
    | none => (largestCount, none)
    | some total =>
      let remaining := total - exploration.emitted
      if remaining ≤ largestCount then (remaining, some remaining) else (largestCount, none)

end Exploration

end Sentential
