import Mathlib.Data.List.Basic
import Sentential.Enumeration.Exploration

/-!
# A stack of decisions follows the path

The decisions on the stack are the branches of the path that leads to the next leaf, the deepest one
on top. Taking high decisions off the stack goes back past the levels whose branches are both done,
and what is put on the stack starts the levels below again. So one step of the exploration by a stack
does to its state what advancing does to the path, and an exploration hands out the assignments of an
enumeration, with the same estimates of what is left.
-/

namespace Sentential

namespace Path

/-- The decision that has led to a branch. -/
def decision (value : Bool) : Branch := if value then .high else .low

/-- The decisions along a path, the deepest one first. -/
def decisions (path : Path) : List Branch := (path.map fun level => decision level.2).reverse

@[simp] theorem decisions_cons (level : String × Bool) (deeper : Path) :
    decisions (level :: deeper) = decisions deeper ++ [decision level.2] := by
  simp [decisions]

/-- Where the levels start again, all decisions are low. -/
theorem decisions_restart (path : Path) :
    decisions (restart path) = List.replicate path.length .low := by
  simp [decisions, restart, decision, Function.comp_def]

/-- The decisions give the values of the names. -/
theorem value_decisions (path : Path) :
    path.decisions.reverse.map Branch.value = path.map Prod.snd := by
  have same : ∀ value, (decision value).value = value := by decide
  simp [decisions, Function.comp_def, same]

/-- Going back through the decisions along a path, above others that were taken before, finds the
next path through the same levels. If there is none, it goes on with the decisions below.

Induct on the path from its root. The decision at the root is the last of its own, so it joins those
below when the deeper levels are gone through. -/
theorem backtrack_decisions (path : Path) (below : List Branch) :
    Branch.backtrack (path.length + below.length) (path.decisions ++ below) =
      match path.next? with
      | some advanced => some (advanced.decisions ++ below)
      | none => Branch.backtrack (path.length + below.length) below := by
  induction path generalizing below with
  | nil => simp [decisions, next?]
  | cons level deeper inductionHypothesis =>
    have height : (level :: deeper).length + below.length
        = deeper.length + (decision level.2 :: below).length := by
      simp only [List.length_cons]
      omega
    have gone := inductionHypothesis (decision level.2 :: below)
    rw [height, decisions_cons, List.append_assoc, List.singleton_append, gone]
    cases ahead : next? deeper with
    | some lower => simp [next?, ahead]
    | none =>
      obtain ⟨name, value⟩ := level
      cases value with
      | true => simp [next?, ahead, decision, Branch.backtrack]
      | false => simp [next?, ahead, decision, Branch.backtrack, Branch.resized, decisions_restart]

end Path

/-- An exploration by a stack follows an enumeration: the names are those of the levels, and as long
as the tree has not been explored, the decisions are those along the path. -/
structure Exploration.Follows (exploration : Exploration) (enumeration : Enumeration) : Prop where
  names : exploration.names = enumeration.path.map Prod.fst
  stack : exploration.done = false → exploration.stack = enumeration.path.decisions
  emitted : exploration.emitted = enumeration.emitted
  done : exploration.done = enumeration.exhausted

namespace Exploration

/-- Before the first assignment, all decisions are low and the path is the leftmost one. -/
theorem follows_ofNames (names : List String) :
    (ofNames names).Follows (.ofNames names) where
  names := by simp [ofNames, Enumeration.ofNames, Path.start, Function.comp_def]
  stack := by
    intro _
    simp [ofNames, Enumeration.ofNames, Path.start, Path.decisions, Path.decision,
      Function.comp_def]
  emitted := by simp [ofNames, Enumeration.ofNames]
  done := by simp [ofNames, Enumeration.ofNames]

section Following

variable {exploration : Exploration} {enumeration : Enumeration}
  (follows : exploration.Follows enumeration)

include follows

/-- The decisions make the assignment at the end of the path. -/
theorem Follows.current (running : exploration.done = false) :
    exploration.current = enumeration.current := by
  rw [Exploration.current, Enumeration.current, follows.names, follows.stack running,
    Path.value_decisions]
  simp [List.zip_map']

/-- Going on keeps the decisions along the path. -/
theorem Follows.advance (running : exploration.done = false) :
    exploration.advance.Follows enumeration.advance := by
  have gone := Path.backtrack_decisions enumeration.path []
  have height : exploration.names.length = enumeration.path.length := by simp [follows.names]
  simp only [List.length_nil, Nat.add_zero, List.append_nil, Branch.backtrack] at gone
  rw [Exploration.advance, Enumeration.advance, height, follows.stack running, gone]
  cases ahead : enumeration.path.next? with
  | some path =>
    constructor
    · simp [follows.names, Path.names_of_next? _ _ ahead]
    · simp
    · simp [follows.emitted]
    · simp [follows.done]
  | none =>
    constructor
    · simp [follows.names]
    · simp
    · simp [follows.emitted]
    · simp

/-- The next assignment is the same both ways, and the exploration still follows the enumeration
after it; or there is none either way. -/
theorem Follows.next? :
    (exploration.next? = none ∧ enumeration.next? = none) ∨
      ∃ assignment rest further, exploration.next? = some (assignment, rest) ∧
        enumeration.next? = some (assignment, further) ∧ rest.Follows further := by
  have ended := follows.done
  cases running : exploration.done with
  | true =>
    left
    simp [Exploration.next?, Enumeration.next?, ← ended, running]
  | false =>
    right
    refine ⟨exploration.current, exploration.advance, enumeration.advance, ?_, ?_, ?_⟩
    · simp [Exploration.next?, running]
    · simp [Enumeration.next?, ← ended, running, follows.current running]
    · exact follows.advance running

/-- So is the estimate of the number of assignments still to come. -/
theorem Follows.sizeHint : exploration.sizeHint = enumeration.sizeHint := by
  have height : exploration.names.length = enumeration.path.length := by simp [follows.names]
  rw [Exploration.sizeHint, Enumeration.sizeHint, total?, follows.done, follows.emitted, height]
  by_cases narrow : enumeration.path.length < indexWidth
  · have representable : enumeration.path.length < 2 ^ (32 : Nat) := by
      unfold indexWidth at narrow
      omega
    simp [narrow, representable, Nat.shiftLeft_eq]
  · simp [narrow]

end Following

/-- An exploration that follows an enumeration hands out as many of the same assignments, and still
follows it after them.

Induct on the number of requests: each is answered alike and leads to states that follow one another
again. -/
theorem Follows.take {exploration : Exploration} {enumeration : Enumeration}
    (follows : exploration.Follows enumeration) (found : List Assignment) (count : Nat) :
    (enumeration.takeOnto found count).1 = found.reverse ++ (exploration.take count).1 ∧
      (exploration.take count).2.Follows (enumeration.takeOnto found count).2 := by
  induction count generalizing found exploration enumeration with
  | zero => simp [Exploration.take, Enumeration.takeOnto, follows]
  | succ count inductionHypothesis =>
    rcases follows.next? with ⟨missed, alsoMissed⟩ |
      ⟨assignment, rest, further, stepped, alsoStepped, restFollows⟩
    · simp [Exploration.take, Enumeration.takeOnto, missed, alsoMissed, follows]
    · have later := inductionHypothesis restFollows (assignment :: found)
      simpa [Exploration.take, Enumeration.takeOnto, stepped, alsoStepped] using later

/-- Exploring the tree by a stack of decisions refines the enumeration. After any number of requests
both have handed out the same assignments in the same order, give the same estimate of what is left,
and come to the same next assignment, or to none. -/
theorem take_refines_enumeration (names : List String) (count : Nat) :
    ((ofNames names).take count).1 = ((Enumeration.ofNames names).take count).1 ∧
    ((ofNames names).take count).2.sizeHint = ((Enumeration.ofNames names).take count).2.sizeHint ∧
    ((ofNames names).take count).2.next?.map Prod.fst
      = ((Enumeration.ofNames names).take count).2.next?.map Prod.fst := by
  obtain ⟨same, follows⟩ := (follows_ofNames names).take [] count
  refine ⟨same.symm, follows.sizeHint, ?_⟩
  rcases follows.next? with ⟨missed, alsoMissed⟩ | ⟨_, _, _, stepped, alsoStepped, _⟩
  · simp [missed, Enumeration.take, alsoMissed]
  · simp [stepped, Enumeration.take, alsoStepped]

end Exploration

end Sentential
