import Sentential.Proofs.EnumerationOrder

/-!
# Indices and the values they stand for

The values of an assignment with an index are the binary digits of the index, and the index is read
back from them. So no two indices in range have the same values, and every sequence of values has an
index as long as the number that is read from it fits the width of an index. For as many names as the
width or fewer that is every sequence. For more names it is those that begin with false, up to the
last `indexWidth` values.

An index of `indexWidth` bits can be shifted only by less than that. The assignment is found without
any other shift: neither the check of the range nor the reading of a bit attempts one.
-/

namespace Sentential

/-! ## Finding an assignment by shifts -/

/-- An index shifted to the right. A shift by the width of an index or more is not defined. -/
def shifted? (index amount : Nat) : Option Nat :=
  if amount < indexWidth then some (index >>> amount) else none

/-- Whether an index is in range. It is shifted only if the names are fewer than the bits. -/
def inRange? (index names : Nat) : Option Bool :=
  if indexWidth ≤ names then some true else (shifted? index names).map fun rest => rest == 0

/-- The bit in a place. The index is shifted only if the place is within the width. -/
def bitAt? (index place : Nat) : Option Bool :=
  if place < indexWidth then (shifted? index place).map fun rest => rest &&& 1 == 1
  else some false

/-- The assignment with an index, found by shifts. There is no result if one of them is not
defined. -/
def Assignment.ofIndexByShifts? (names : List String) (index : Nat) :
    Option (Except ContractViolation Assignment) :=
  match inRange? index names.length with
  | none => none
  | some false => some (.error (.indexOutOfRange index names.length))
  | some true =>
    ((List.range names.length).mapM fun column => bitAt? index (names.length - 1 - column)).map
      fun values => .ok ⟨names.zip values⟩

/-- An index is out of range where it has more digits than there are names, and these are fewer than
the bits. -/
theorem inRange_iff (index names : Nat) :
    (indexWidth ≤ names ∨ index >>> names = 0) ↔ ¬ (names < indexWidth ∧ 2 ^ names ≤ index) := by
  have positive : 0 < 2 ^ names := Nat.two_pow_pos names
  rw [Nat.shiftRight_eq_div_pow, Nat.div_eq_zero_iff_lt positive]
  omega

/-- The check of the range attempts no shift that is not defined. -/
theorem inRange?_eq (index names : Nat) :
    inRange? index names = some (decide (indexWidth ≤ names ∨ index >>> names = 0)) := by
  unfold inRange? shifted?
  by_cases wide : indexWidth ≤ names
  · rw [if_pos wide, decide_eq_true (.inl wide)]
  · have decided : (index >>> names == 0) = decide (indexWidth ≤ names ∨ index >>> names = 0) := by
      simp only [wide, false_or]
      rfl
    rw [if_neg wide, if_pos (Nat.lt_of_not_le wide), Option.map_some, decided]

/-- Nor does the reading of a bit. -/
theorem bitAt?_eq (index place : Nat) (representable : index < 2 ^ indexWidth) :
    bitAt? index place = some (index.testBit place) := by
  unfold bitAt? shifted?
  by_cases inside : place < indexWidth
  · rw [if_pos inside, if_pos inside, Option.map_some, Nat.testBit_eq_decide_div_mod_eq,
      Nat.and_one_is_mod, Nat.shiftRight_eq_div_pow]
    rfl
  · have beyond : 2 ^ indexWidth ≤ 2 ^ place :=
      Nat.pow_le_pow_right (by decide) (Nat.le_of_not_lt inside)
    rw [if_neg inside, Nat.testBit_lt_two_pow (Nat.lt_of_lt_of_le representable beyond)]

/-- Finding an assignment by shifts comes to the same result, and attempts none that is not
defined. -/
theorem Assignment.ofIndexByShifts?_eq (names : List String) (index : Nat)
    (representable : index < 2 ^ indexWidth) :
    ofIndexByShifts? names index = some (ofIndex names index) := by
  have digits : ((List.range names.length).mapM fun column =>
      bitAt? index (names.length - 1 - column)) = some (indexBits index names.length) := by
    simp only [bitAt?_eq _ _ representable]
    rw [indexBits_eq_binary index _ representable]
    exact List.mapM_pure
  rw [ofIndexByShifts?, inRange?_eq, ofIndex]
  by_cases inside : indexWidth ≤ names.length ∨ index >>> names.length = 0
  · rw [decide_eq_true inside, if_pos inside, digits]
    rfl
  · rw [decide_eq_false inside, if_neg inside]

/-! ## Reading the index back -/

/-- The first digit keeps a number within some places only if it is zero or itself in one of them. -/
theorem number_cons_lt_iff (digit : Bool) (digits : List Bool) (places : Nat) :
    number (digit :: digits) < 2 ^ places ↔
      (places ≤ digits.length → digit = false) ∧ number digits < 2 ^ places := by
  by_cases short : digits.length < places
  · have fits : 2 ^ (digits.length + 1) ≤ 2 ^ places := Nat.pow_le_pow_right (by decide) short
    have whole := number_lt (digit :: digits)
    have rest := number_lt digits
    rw [List.length_cons] at whole
    refine iff_of_true (Nat.lt_of_lt_of_le whole fits) ⟨?_, by omega⟩
    intro beyond
    exact absurd beyond (Nat.not_le_of_lt short)
  · have long : places ≤ digits.length := Nat.le_of_not_lt short
    have heavy : 2 ^ places ≤ 2 ^ digits.length := Nat.pow_le_pow_right (by decide) long
    rw [number]
    cases digit with
    | true =>
      refine iff_of_false ?_ fun both => absurd (both.1 long) (by decide)
      rw [Bool.toNat_true, Nat.one_mul]
      omega
    | false =>
      rw [Bool.toNat_false, Nat.zero_mul, Nat.zero_add]
      exact (and_iff_right fun _ => rfl).symm

/-- The digits above some places are zeros if the first one is, in case it is above them, and those
of the rest are. -/
theorem zeros_cons_iff (digit : Bool) (digits : List Bool) (places : Nat) :
    (∀ column, column + places < (digit :: digits).length →
        (digit :: digits)[column]? = some false) ↔
      (places ≤ digits.length → digit = false) ∧
        ∀ column, column + places < digits.length → digits[column]? = some false := by
  rw [List.length_cons]
  constructor
  · intro zeros
    constructor
    · intro long
      exact Option.some.inj (zeros 0 (by omega))
    · intro column above
      exact zeros (column + 1) (by omega)
  · rintro ⟨first, rest⟩ column above
    cases column with
    | zero => exact congrArg some (first (by omega))
    | succ column => exact rest column (by omega)

/-- A number fits into a number of places if it is written with zeros in all places above them. -/
theorem number_lt_iff (digits : List Bool) (places : Nat) :
    number digits < 2 ^ places ↔
      ∀ column, column + places < digits.length → digits[column]? = some false := by
  induction digits with
  | nil => exact iff_of_true (Nat.two_pow_pos places) (by simp)
  | cons digit digits inductionHypothesis =>
    rw [number_cons_lt_iff, zeros_cons_iff, inductionHypothesis]

namespace Assignment

/-- An index is refused exactly if it is out of range. -/
theorem ofIndex_eq_error_iff (names : List String) (index : Nat) :
    ofIndex names index = .error (.indexOutOfRange index names.length) ↔
      names.length < indexWidth ∧ 2 ^ names.length ≤ index := by
  rw [ofIndex]
  by_cases outside : names.length < indexWidth ∧ 2 ^ names.length ≤ index
  · rw [if_neg fun inside => (inRange_iff index _).mp inside outside]
    exact iff_of_true rfl outside
  · rw [if_pos ((inRange_iff index _).mpr outside)]
    exact iff_of_false (by simp) outside

/-- An index that is not out of range has no more digits than there are names. -/
theorem lt_of_inRange {names : List String} {index : Nat} (representable : index < 2 ^ indexWidth)
    (inside : ¬ (names.length < indexWidth ∧ 2 ^ names.length ≤ index)) :
    index < 2 ^ names.length := by
  by_cases narrow : names.length < indexWidth
  · exact Nat.lt_of_not_le fun beyond => inside ⟨narrow, beyond⟩
  · exact Nat.lt_of_lt_of_le representable
      (Nat.pow_le_pow_right (by decide) (Nat.le_of_not_lt narrow))

/-- An assignment with an index gives one value to each name, and the index is read back from the
values. -/
theorem number_of_ofIndex {names : List String} {index : Nat} {assignment : Assignment}
    (representable : index < 2 ^ indexWidth) (indexed : ofIndex names index = .ok assignment) :
    assignment.names = names ∧ assignment.values.length = names.length ∧
      number assignment.values = index := by
  have inside : ¬ (names.length < indexWidth ∧ 2 ^ names.length ≤ index) := by
    intro outside
    rw [(ofIndex_eq_error_iff names index).mpr outside] at indexed
    exact absurd indexed (by simp)
  have below := lt_of_inRange representable inside
  rw [ofIndex_of_lt names index representable below] at indexed
  obtain rfl := Except.ok.inj indexed
  refine ⟨Path.names_ofIndex names index, ?_, ?_⟩
  · rw [values, Path.branches_ofIndex, length_binary]
  · rw [values, Path.branches_ofIndex, number_binary _ _ below]

/-- Some index has the given values. -/
def Indexed (names : List String) (values : List Bool) : Prop :=
  ∃ index < 2 ^ indexWidth, ∃ assignment,
    ofIndex names index = .ok assignment ∧ assignment.values = values

/-- Values have an index if the number that is read from them fits its width, which depends on those
before the last `indexWidth` alone. -/
theorem indexed_iff (names : List String) (values : List Bool)
    (aligned : values.length = names.length) :
    Indexed names values ↔
      ∀ column, column + indexWidth < names.length → values[column]? = some false := by
  rw [← aligned, ← number_lt_iff]
  constructor
  · rintro ⟨index, representable, assignment, indexed, rfl⟩
    rw [(number_of_ofIndex representable indexed).2.2]
    exact representable
  · intro representable
    have below := number_lt values
    rw [aligned] at below
    refine ⟨number values, representable, _, ofIndex_of_lt names _ representable below, ?_⟩
    rw [Assignment.values, Path.branches_ofIndex, ← aligned, binary_number]

/-- Indices and values determine each other, for a list of names of any length. An index is refused,
with a message that names it and the number of names, if the names are fewer than the bits and it is
no less than the number of assignments. Otherwise there is one value for each name, and the values,
read as a binary number with the first name most significant, are the index; names that would need a
bit beyond the width have the value false. So different indices have different values. All values are
reached if the names are no more than the bits, and otherwise exactly those that are false up to the
last `indexWidth`. No index is ever shifted by its width or more. -/
theorem ofIndex_is_bijection (names : List String) :
    (∀ index < 2 ^ indexWidth,
      ofIndexByShifts? names index = some (ofIndex names index) ∧
      (ofIndex names index = .error (.indexOutOfRange index names.length) ↔
        names.length < indexWidth ∧ 2 ^ names.length ≤ index) ∧
      (ContractViolation.indexOutOfRange index names.length).message
        = "Index " ++ toString index ++ " is out of range for " ++ toString names.length
          ++ " variables" ∧
      (¬ (names.length < indexWidth ∧ 2 ^ names.length ≤ index) →
        ∃ assignment, ofIndex names index = .ok assignment ∧
          assignment.names = names ∧
          assignment.values.length = names.length ∧
          number assignment.values = index ∧
          ∀ column, column + indexWidth < names.length →
            assignment.values[column]? = some false)) ∧
    (∀ first < 2 ^ indexWidth, ∀ second < 2 ^ indexWidth,
      ∀ firstAssignment secondAssignment : Assignment,
        ofIndex names first = .ok firstAssignment → ofIndex names second = .ok secondAssignment →
        firstAssignment.values = secondAssignment.values → first = second) ∧
    (names.length ≤ indexWidth →
      ∀ values : List Bool, values.length = names.length → Indexed names values) ∧
    ∀ values : List Bool, values.length = names.length →
      (Indexed names values ↔
        ∀ column, column + indexWidth < names.length → values[column]? = some false) := by
  refine ⟨?_, ?_, ?_, indexed_iff names⟩
  · intro index representable
    refine ⟨ofIndexByShifts?_eq names index representable, ofIndex_eq_error_iff names index, rfl, ?_⟩
    intro inside
    have indexed := ofIndex_of_lt names index representable (lt_of_inRange representable inside)
    obtain ⟨named, aligned, read⟩ := number_of_ofIndex representable indexed
    exact ⟨_, indexed, named, aligned, read,
      (indexed_iff names _ aligned).mp ⟨index, representable, _, indexed, rfl⟩⟩
  · intro first firstRepresentable second secondRepresentable firstAssignment secondAssignment
      firstIndexed secondIndexed same
    rw [← (number_of_ofIndex firstRepresentable firstIndexed).2.2, same,
      (number_of_ofIndex secondRepresentable secondIndexed).2.2]
  · intro narrow values aligned
    refine (indexed_iff names values aligned).mpr ?_
    intro column beyond
    omega

/-- Two names have no fifth assignment, and any values have an index. With one name more than an index
has bits, the largest index gives the value false to the first name. -/
theorem ofIndex_at_the_limits :
    ofIndex ["p", "q"] 4 = .error (.indexOutOfRange 4 2) ∧
      Indexed ["p", "q"] [true, false] ∧
      ∃ assignment,
        ofIndex (List.replicate 129 "p") (2 ^ (128 : Nat) - 1) = .ok assignment ∧
        number assignment.values = 2 ^ (128 : Nat) - 1 ∧ assignment.values[0]? = some false := by
  refine ⟨?_, ?_, ?_⟩
  · exact ((ofIndex_is_bijection ["p", "q"]).1 4 (by decide)).2.1.mpr ⟨by decide, by decide⟩
  · exact (ofIndex_is_bijection ["p", "q"]).2.2.1 (by decide) [true, false] rfl
  · have length : (List.replicate 129 "p").length = 129 := List.length_replicate
    obtain ⟨assignment, indexed, _, _, read, zeros⟩ :=
      ((ofIndex_is_bijection (List.replicate 129 "p")).1 (2 ^ (128 : Nat) - 1) (by decide)).2.2.2
        (by rw [length]; decide)
    exact ⟨assignment, indexed, read, zeros 0 (by rw [length]; decide)⟩

end Assignment

end Sentential
