import Mathlib.Data.Nat.SuccPred
import Mathlib.Logic.Function.Iterate
import Sentential.Proofs.EnumerationOrder

/-!
# Going on from the middle of an enumeration

An enumeration that has handed out some number of assignments goes on with the one that has this
number as its index. So what it finds behind others, takes, counts or finds last is told by the
indices that are left. An enumeration never goes past the number of all assignments.
-/

namespace Sentential

namespace Enumeration

/-- Passing over some assignments leads to the one as many places further on, if there is one. -/
theorem nth?_reached (names : List String) (skipped place : Nat)
    (inside : place + skipped < 2 ^ names.length) :
    nth? skipped (reached names place)
      = (some ⟨Path.ofIndex names (place + skipped)⟩, reached names (place + skipped + 1)) := by
  induction skipped generalizing place with
  | zero =>
    rw [nth?, next?_reached names place inside]
    rfl
  | succ skipped inductionHypothesis =>
    have here : place < 2 ^ names.length := by omega
    have further : place + 1 + skipped = place + (skipped + 1) := by omega
    have found := inductionHypothesis (place + 1) (by omega)
    rw [further] at found
    rw [nth?, next?_reached names place here]
    exact found

/-- Where no more are left than are to be passed over, all are handed out and none is found. -/
theorem nth?_reached_end (names : List String) (skipped place : Nat)
    (bounded : place ≤ 2 ^ names.length) (beyond : 2 ^ names.length ≤ place + skipped) :
    nth? skipped (reached names place) = (none, reached names (2 ^ names.length)) := by
  induction skipped generalizing place with
  | zero =>
    have ended : place = 2 ^ names.length := by omega
    rw [ended, nth?, next?_reached_end]
  | succ skipped inductionHypothesis =>
    rw [nth?]
    by_cases here : place < 2 ^ names.length
    · rw [next?_reached names place here]
      exact inductionHypothesis (place + 1) here (by omega)
    · have ended : place = 2 ^ names.length := by omega
      rw [ended, next?_reached_end]

/-- What is found behind some assignments is the one with the index reached there; where the
indices end before, nothing is found and nothing is left. -/
theorem nth?_cases (names : List String) (narrow : names.length ≤ indexWidth) (skipped place : Nat)
    (bounded : place ≤ 2 ^ names.length) :
    (place + skipped < 2 ^ names.length ∧
      ∃ assignment, Assignment.ofIndex names (place + skipped) = .ok assignment ∧
        nth? skipped (reached names place)
          = (some assignment, reached names (place + skipped + 1))) ∨
    (2 ^ names.length ≤ place + skipped ∧
      nth? skipped (reached names place) = (none, reached names (2 ^ names.length))) := by
  by_cases inside : place + skipped < 2 ^ names.length
  · exact .inl ⟨inside, _, Assignment.ofIndex_eq_ok names _ narrow inside,
      nth?_reached names skipped place inside⟩
  · have beyond : 2 ^ names.length ≤ place + skipped := Nat.le_of_not_lt inside
    exact .inr ⟨beyond, nth?_reached_end names skipped place bounded beyond⟩

/-- What comes next is the assignment with the index reached, and nothing only at the end. -/
theorem nth?_zero_cases (names : List String) (narrow : names.length ≤ indexWidth) (place : Nat)
    (bounded : place ≤ 2 ^ names.length) :
    (place < 2 ^ names.length ∧
      ∃ assignment, Assignment.ofIndex names place = .ok assignment ∧
        nth? 0 (reached names place) = (some assignment, reached names (place + 1))) ∨
    (place = 2 ^ names.length ∧ nth? 0 (reached names place) = (none, reached names place)) := by
  rcases nth?_cases names narrow 0 place bounded with found | ⟨beyond, missed⟩
  · exact .inl found
  · have ended : place = 2 ^ names.length := Nat.le_antisymm bounded beyond
    rw [← ended] at missed
    exact .inr ⟨ended, missed⟩

/-- The assignments taken are those with the next indices, as far as there are any. -/
theorem takeOnto_reached (names : List String) (found : List Assignment) (count place : Nat)
    (bounded : place ≤ 2 ^ names.length) :
    takeOnto found count (reached names place)
      = (found.reverse ++ (List.range' place (min (place + count) (2 ^ names.length) - place)).map
            fun index => ⟨Path.ofIndex names index⟩,
          reached names (min (place + count) (2 ^ names.length))) := by
  induction count generalizing found place with
  | zero =>
    have stop : min (place + 0) (2 ^ names.length) = place := by omega
    rw [takeOnto, stop, Nat.sub_self]
    simp
  | succ count inductionHypothesis =>
    rw [takeOnto]
    by_cases here : place < 2 ^ names.length
    · have stop : min (place + 1 + count) (2 ^ names.length)
          = min (place + (count + 1)) (2 ^ names.length) := by omega
      have more : min (place + (count + 1)) (2 ^ names.length) - place
          = min (place + (count + 1)) (2 ^ names.length) - (place + 1) + 1 := by omega
      have later := inductionHypothesis (⟨Path.ofIndex names place⟩ :: found) (place + 1) here
      rw [stop, List.reverse_cons, List.append_assoc] at later
      rw [next?_reached names place here, more, List.range'_succ, List.map_cons]
      exact later
    · have ended : place = 2 ^ names.length := by omega
      have stop : min (place + (count + 1)) (2 ^ names.length) = 2 ^ names.length := by omega
      rw [stop, ended, next?_reached_end, Nat.sub_self]
      simp

/-- Counting goes through as many assignments as there are indices left. -/
theorem count_reached (names : List String) (place : Nat) (bounded : place ≤ 2 ^ names.length) :
    (reached names place).count
      = (2 ^ names.length - place, reached names (2 ^ names.length)) := by
  have all : place + (2 ^ names.length - place) = 2 ^ names.length := by omega
  rw [count, drain_reached _ _ names place _ all, List.foldl_const, Nat.succ_iterate, Nat.zero_add,
    List.length_map, List.length_range']

/-- As long as any are left, the last one is that with the highest index. -/
theorem last?_reached (names : List String) (place : Nat) (inside : place < 2 ^ names.length) :
    (reached names place).last?
      = (some ⟨Path.ofIndex names (2 ^ names.length - 1)⟩, reached names (2 ^ names.length)) := by
  obtain ⟨left, all⟩ := Nat.exists_eq_add_of_lt inside
  have highest : 2 ^ names.length - 1 = place + left := by omega
  rw [last?, drain_reached _ _ names place (left + 1) (by omega), List.range'_concat, highest]
  simp

/-- At the end there is no last one. -/
theorem last?_reached_end (names : List String) :
    (reached names (2 ^ names.length)).last? = (none, reached names (2 ^ names.length)) := by
  rw [last?, drain_reached _ _ names _ 0 (Nat.add_zero _)]
  rfl

/-- Every index of a range that ends in time has its assignment. -/
theorem mapM_ofIndex (names : List String) (narrow : names.length ≤ indexWidth)
    (place count : Nat) (inside : place + count ≤ 2 ^ names.length) :
    (List.range' place count).mapM (Assignment.ofIndex names)
      = .ok ((List.range' place count).map fun index => ⟨Path.ofIndex names index⟩) := by
  induction count generalizing place with
  | zero => rfl
  | succ count inductionHypothesis =>
    have here : place < 2 ^ names.length := by omega
    rw [List.range'_succ, List.mapM_cons, Assignment.ofIndex_eq_ok names place narrow here,
      inductionHypothesis (place + 1) (by omega)]
    rfl

end Enumeration

end Sentential
