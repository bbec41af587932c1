import Mathlib.Data.List.Nodup
import Sentential.Formula

/-!
# Collecting names without recursion

The names of a formula can be collected by a loop. It keeps a stack of the subtrees that are still
to be visited, and takes one off in each turn. A variable is listed unless its name has been met; any
other node is replaced by its operands, the left one on top. Which names have been met is kept in a
hash set besides the list, so that no turn has to search the list.

Each turn visits one node, so the loop ends after as many turns as the formula has nodes.
-/

namespace Sentential.Formula

/-- A state of the loop: the subtrees still to be visited, the next one first, the names that have
been met, and the names in the order in which they were met. -/
structure Walk where
  pending : List Formula
  met : Std.HashSet String
  listed : List String

namespace Walk

/-- The state before the first turn. -/
def start (formula : Formula) : Walk := ⟨[formula], ∅, []⟩

/-- One turn of the loop, or none if there is nothing left to visit. -/
def next? (walk : Walk) : Option Walk :=
  match walk.pending with
  | [] => none
  | .var name :: rest =>
    let (known, met) := walk.met.containsThenInsert name
    some ⟨rest, met, if known then walk.listed else walk.listed ++ [name]⟩
  | .not operand :: rest => some { walk with pending := operand :: rest }
  | .binary _ left right :: rest => some { walk with pending := left :: right :: rest }
  | .paren inner :: rest => some { walk with pending := inner :: rest }

/-- A variable is met, and is listed unless it had been met before. -/
theorem next?_var (name : String) (rest : List Formula) (met : Std.HashSet String)
    (listed : List String) :
    next? ⟨.var name :: rest, met, listed⟩
      = some ⟨rest, met.insert name, if met.contains name then listed else listed ++ [name]⟩ := by
  simp only [next?, Std.HashSet.containsThenInsert_fst, Std.HashSet.containsThenInsert_snd]

/-- The number of nodes still to be visited. -/
def remaining (walk : Walk) : Nat :=
  walk.pending.foldr (fun formula nodes => formula.size + nodes) 0

/-- Each turn visits one node. -/
theorem remaining_of_next? (walk next : Walk) (turn : walk.next? = some next) :
    next.remaining + 1 = walk.remaining := by
  obtain ⟨pending, met, listed⟩ := walk
  cases pending with
  | nil => simp [next?] at turn
  | cons visited rest =>
    cases visited with
    | var name | not operand | binary connective left right | paren inner =>
      obtain rfl := Option.some.inj turn
      simp only [remaining, List.foldr_cons, size]
      omega

/-- Takes turns until nothing is left to visit, and gives the names listed. -/
def run (walk : Walk) : List String :=
  match _turn : walk.next? with
  | none => walk.listed
  | some next => next.run
termination_by walk.remaining
decreasing_by
  have fewer := remaining_of_next? walk next (by assumption)
  omega

end Walk

end Sentential.Formula
