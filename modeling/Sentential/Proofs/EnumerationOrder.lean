import Sentential.Proofs.Binary

/-!
# The order of enumeration

The paths of a decision tree follow one another like the binary numerals of as many digits as there
are names. So an enumeration that has handed out some number of assignments stands at the path with
that number, until it has handed out all of them. It goes through every path once, in order.
-/

namespace Sentential

namespace Path

/-- The path with a number, counted from the left: its branches are the digits of the number. -/
def ofIndex (names : List String) (index : Nat) : Path :=
  names.zip (binary names.length index)

@[simp] theorem ofIndex_nil (index : Nat) : ofIndex [] index = [] := rfl

/-- The first level takes the branch of the first digit. -/
theorem ofIndex_cons (name : String) (names : List String) (index : Nat) :
    ofIndex (name :: names) index
      = (name, index.testBit names.length) :: ofIndex names index := by
  rw [ofIndex, List.length_cons, binary_succ, List.zip_cons_cons]
  rfl

@[simp] theorem length_ofIndex (names : List String) (index : Nat) :
    (ofIndex names index).length = names.length := by
  simp [ofIndex]

/-- The names of the levels are the given ones. -/
@[simp] theorem names_ofIndex (names : List String) (index : Nat) :
    (ofIndex names index).map Prod.fst = names :=
  List.map_fst_zip (by simp)

/-- The branches are the digits of the number. -/
@[simp] theorem branches_ofIndex (names : List String) (index : Nat) :
    (ofIndex names index).map Prod.snd = binary names.length index :=
  List.map_snd_zip (by simp)

/-- Where the levels fall into two blocks, so does the number. -/
theorem ofIndex_append (upper lower : List String) (high low : Nat)
    (below : low < 2 ^ lower.length) :
    ofIndex (upper ++ lower) (2 ^ lower.length * high + low)
      = ofIndex upper high ++ ofIndex lower low := by
  rw [ofIndex, List.length_append, binary_append _ _ _ _ below,
    List.zip_append (length_binary _ _).symm]
  rfl

/-- The lower half of the numbers belongs to the false branch of the first level. -/
theorem ofIndex_cons_of_lt (name : String) (names : List String) (index : Nat)
    (lower : index < 2 ^ names.length) :
    ofIndex (name :: names) index = (name, false) :: ofIndex names index := by
  rw [ofIndex_cons, Nat.testBit_lt_two_pow lower]

/-- The upper half belongs to the true branch, below which the numbers begin again. -/
theorem ofIndex_cons_add (name : String) (names : List String) (index : Nat)
    (lower : index < 2 ^ names.length) :
    ofIndex (name :: names) (2 ^ names.length + index) = (name, true) :: ofIndex names index := by
  have below : ofIndex names (2 ^ names.length + index) = ofIndex names index := by
    rw [ofIndex, ← Nat.mul_one (2 ^ names.length), binary_mul_add _ 1 index lower]
    rfl
  rw [ofIndex_cons, below, Nat.testBit_two_pow_add_eq, Nat.testBit_lt_two_pow lower]
  rfl

/-- The leftmost path has number zero. -/
theorem ofIndex_zero (names : List String) : ofIndex names 0 = start names := by
  induction names with
  | nil => rfl
  | cons name names inductionHypothesis =>
    rw [ofIndex_cons, inductionHypothesis, Nat.zero_testBit]
    rfl

/-- Starting again leads to the leftmost path. -/
theorem restart_ofIndex (names : List String) (index : Nat) :
    restart (ofIndex names index) = ofIndex names 0 := by
  induction names with
  | nil => rfl
  | cons name names inductionHypothesis =>
    rw [ofIndex_cons, ofIndex_cons, Nat.zero_testBit, ← inductionHypothesis]
    rfl

/-- The next path has the next number, and the last number has none after it.

Induct on the levels. Below the first one the number is the same or less by half of all; where the
deeper levels are at their end, the first one moves to its true branch or is at its end too. -/
theorem next?_ofIndex (names : List String) (index : Nat) (inside : index < 2 ^ names.length) :
    next? (ofIndex names index)
      = if index + 1 < 2 ^ names.length then some (ofIndex names (index + 1)) else none := by
  induction names generalizing index with
  | nil =>
    have first : index = 0 := by simpa using inside
    subst first
    rfl
  | cons name names inductionHypothesis =>
    have doubled : 2 ^ (name :: names).length = 2 ^ names.length + 2 ^ names.length := by
      rw [List.length_cons, Nat.pow_succ, Nat.mul_two]
    rw [doubled] at inside ⊢
    by_cases lower : index < 2 ^ names.length
    · rw [ofIndex_cons_of_lt name names index lower, next?, inductionHypothesis index lower]
      have more : index + 1 < 2 ^ names.length + 2 ^ names.length := by omega
      rw [if_pos more]
      by_cases further : index + 1 < 2 ^ names.length
      · rw [if_pos further, ofIndex_cons_of_lt name names (index + 1) further]
      · have half : index + 1 = 2 ^ names.length + 0 := by omega
        have positive : 0 < 2 ^ names.length := Nat.two_pow_pos _
        rw [if_neg further, half, ofIndex_cons_add name names 0 positive, restart_ofIndex]
        rfl
    · obtain ⟨low, rfl⟩ := Nat.exists_eq_add_of_le (Nat.le_of_not_lt lower)
      have below : low < 2 ^ names.length := by omega
      rw [ofIndex_cons_add name names low below, next?, inductionHypothesis low below]
      by_cases further : low + 1 < 2 ^ names.length
      · have more : 2 ^ names.length + low + 1 < 2 ^ names.length + 2 ^ names.length := by omega
        rw [if_pos further, if_pos more, Nat.add_assoc,
          ofIndex_cons_add name names (low + 1) further]
      · have last : ¬ 2 ^ names.length + low + 1 < 2 ^ names.length + 2 ^ names.length := by omega
        rw [if_neg further, if_neg last]
        rfl

end Path

/-- An index in range has an assignment: the one at the end of the path with this number. -/
theorem Assignment.ofIndex_of_lt (names : List String) (index : Nat)
    (representable : index < 2 ^ indexWidth) (inside : index < 2 ^ names.length) :
    Assignment.ofIndex names index = .ok ⟨Path.ofIndex names index⟩ := by
  have shifted : index >>> names.length = 0 := by
    rw [Nat.shiftRight_eq_div_pow]
    exact Nat.div_eq_of_lt inside
  rw [Assignment.ofIndex, if_pos (.inr shifted), indexBits_eq_binary index _ representable,
    Path.ofIndex]

/-- Where the names are no more than the bits, every index in range fits the width. -/
theorem Assignment.ofIndex_eq_ok (names : List String) (index : Nat)
    (narrow : names.length ≤ indexWidth) (inside : index < 2 ^ names.length) :
    Assignment.ofIndex names index = .ok ⟨Path.ofIndex names index⟩ :=
  ofIndex_of_lt names index
    (Nat.lt_of_lt_of_le inside (Nat.pow_le_pow_right (by decide) narrow)) inside

namespace Enumeration

/-- The state after some number of assignments have been handed out. Once all have been, the path
stays at the last one. -/
def reached (names : List String) (count : Nat) : Enumeration :=
  { path := Path.ofIndex names (min count (2 ^ names.length - 1))
    emitted := count
    exhausted := decide (2 ^ names.length ≤ count) }

/-- Before the end, the path has the number of assignments handed out. -/
theorem reached_of_lt (names : List String) (count : Nat) (inside : count < 2 ^ names.length) :
    reached names count = ⟨Path.ofIndex names count, count, false⟩ := by
  have position : min count (2 ^ names.length - 1) = count := by omega
  have unfinished : ¬ 2 ^ names.length ≤ count := Nat.not_le_of_lt inside
  rw [reached, position, decide_eq_false unfinished]

/-- Nothing has been handed out at the beginning. -/
theorem ofNames_eq_reached (names : List String) : ofNames names = reached names 0 := by
  rw [reached_of_lt names 0 (Nat.two_pow_pos _), ofNames, Path.ofIndex_zero]

/-- When none are left, the enumeration is exhausted. -/
theorem next?_reached_end (names : List String) :
    (reached names (2 ^ names.length)).next? = none := by
  have ended : (reached names (2 ^ names.length)).exhausted = true := decide_eq_true (Nat.le_refl _)
  rw [next?, if_pos ended]

/-- As long as some are left, the assignment handed out is the one with the number of those before
it. -/
theorem next?_reached (names : List String) (count : Nat) (inside : count < 2 ^ names.length) :
    (reached names count).next? = some (⟨Path.ofIndex names count⟩, reached names (count + 1)) := by
  have ahead := Path.next?_ofIndex names count inside
  rw [reached_of_lt names count inside, next?, if_neg Bool.false_ne_true, current, advance]
  by_cases further : count + 1 < 2 ^ names.length
  · rw [if_pos further] at ahead
    rw [ahead, reached_of_lt names (count + 1) further]
  · rw [if_neg further] at ahead
    have position : min (count + 1) (2 ^ names.length - 1) = count := by omega
    have passed : 2 ^ names.length ≤ count + 1 := Nat.le_of_not_lt further
    rw [ahead, reached, position, decide_eq_true passed]

/-- Handing out the rest combines the assignments with the remaining numbers, in order, and ends
with everything handed out.

Induct on how many are left: each one handed out leaves the next state reached. -/
theorem drain_reached {α : Type} (combine : α → Assignment → α) (result : α) (names : List String)
    (count left : Nat) (all : count + left = 2 ^ names.length) :
    drain combine result (reached names count)
      = (((List.range' count left).map fun index => ⟨Path.ofIndex names index⟩).foldl combine result,
        reached names (2 ^ names.length)) := by
  induction left generalizing count result with
  | zero =>
    have ended : count = 2 ^ names.length := by omega
    subst ended
    rw [drain, next?_reached_end]
    rfl
  | succ left inductionHypothesis =>
    have inside : count < 2 ^ names.length := by omega
    have fewer : count + 1 + left = 2 ^ names.length := by omega
    rw [drain, next?_reached names count inside]
    exact inductionHypothesis (combine result ⟨Path.ofIndex names count⟩) (count + 1) fewer

/-- The assignments still to come are those with the remaining numbers, in order. -/
theorem toList_reached (names : List String) (count left : Nat)
    (all : count + left = 2 ^ names.length) :
    (reached names count).toList
      = (List.range' count left).map fun index => ⟨Path.ofIndex names index⟩ := by
  rw [toList, drain_reached _ _ names count left all, List.foldl_flip_cons_eq_append',
    List.append_nil, List.reverse_reverse]

/-- An enumeration from the beginning hands out every assignment once, in the order of the
numbers. -/
theorem toList_ofNames (names : List String) :
    (ofNames names).toList
      = (List.range (2 ^ names.length)).map fun index => ⟨Path.ofIndex names index⟩ := by
  rw [ofNames_eq_reached, toList_reached names 0 _ (Nat.zero_add _), List.range_eq_range']

end Enumeration

end Sentential
