import Sentential.Enumeration

/-!
# Binary numerals of a fixed width

A number below a power of two is written with as many binary digits as the exponent says, the most
significant one first; true stands for one. The digits of a number beyond the power are those of its
remainder, so a numeral falls into its first digit and the numeral of what is left.

Reading a numeral gives back the number, as long as it is below the power, and every sequence of
digits is the numeral of the number that is read from it.
-/

namespace Sentential

/-- The `width` lowest binary digits of a number, the most significant one first. -/
def binary (width number : Nat) : List Bool :=
  (List.range width).map fun column => number.testBit (width - 1 - column)

@[simp] theorem length_binary (width number : Nat) : (binary width number).length = width := by
  simp [binary]

@[simp] theorem binary_zero_width (number : Nat) : binary 0 number = [] := rfl

/-- The first digit stands for the highest power, the others for the powers below it. -/
theorem binary_succ (width number : Nat) :
    binary (width + 1) number = number.testBit width :: binary width number := by
  simp only [binary, List.range_succ_eq_map, List.map_cons, List.map_map]
  rw [List.cons.injEq]
  refine ⟨by simp, List.map_congr_left ?_⟩
  intro column _
  have shifted : width + 1 - 1 - (column + 1) = width - 1 - column := by omega
  simp only [Function.comp_apply, Nat.succ_eq_add_one, shifted]

/-- The digits of a number, each given by its place. -/
theorem ofFn_testBit (width index : Nat) :
    List.ofFn (fun place : Fin width => index.testBit (width - 1 - place))
      = binary width index := by
  refine List.ext_getElem (by simp) ?_
  intro place _ _
  simp [binary]

/-- The bits of an index that fits its width are its digits, however many are asked for: beyond the
width there are none but zeros. -/
theorem indexBits_eq_binary (index width : Nat) (representable : index < 2 ^ indexWidth) :
    indexBits index width = binary width index := by
  induction width with
  | zero => rfl
  | succ width inductionHypothesis =>
    rw [indexBits, binary_succ, inductionHypothesis]
    by_cases inside : width < indexWidth
    · rw [decide_eq_true inside, Bool.true_and]
    · have beyond : 2 ^ indexWidth ≤ 2 ^ width :=
        Nat.pow_le_pow_right (by decide) (Nat.le_of_not_lt inside)
      rw [decide_eq_false inside, Bool.false_and,
        Nat.testBit_lt_two_pow (Nat.lt_of_lt_of_le representable beyond)]

/-- Multiples of the power leave the digits below it as they are. -/
theorem binary_mul_add (width high low : Nat) (below : low < 2 ^ width) :
    binary width (2 ^ width * high + low) = binary width low := by
  refine List.map_congr_left ?_
  intro column member
  have inside : column < width := List.mem_range.mp member
  rw [Nat.testBit_two_pow_mul_add high below, if_pos (by omega)]

/-- A numeral falls into two blocks. The lower one holds the digits of the remainder, the upper one
those of the multiple.

Induct on the digits of the upper block: its first digit is that of the whole number. -/
theorem binary_append (upper lower high low : Nat) (below : low < 2 ^ lower) :
    binary (upper + lower) (2 ^ lower * high + low) = binary upper high ++ binary lower low := by
  induction upper with
  | zero => rw [Nat.zero_add, binary_mul_add lower high low below, binary_zero_width, List.nil_append]
  | succ upper inductionHypothesis =>
    have place : ¬ upper + lower < lower := by omega
    have digit : (2 ^ lower * high + low).testBit (upper + lower) = high.testBit upper := by
      rw [Nat.testBit_two_pow_mul_add high below, if_neg place, Nat.add_sub_cancel]
    rw [Nat.add_right_comm, binary_succ, binary_succ, digit, inductionHypothesis, List.cons_append]

/-- The number that is read from binary digits, the most significant one first. -/
def number : List Bool → Nat
  | [] => 0
  | digit :: digits => digit.toNat * 2 ^ digits.length + number digits

/-- A number has no more digits than it was read from. -/
theorem number_lt (digits : List Bool) : number digits < 2 ^ digits.length := by
  induction digits with
  | nil => decide
  | cons digit digits inductionHypothesis =>
    have most : digit.toNat * 2 ^ digits.length ≤ 1 * 2 ^ digits.length :=
      Nat.mul_le_mul_right _ (Bool.toNat_le digit)
    rw [number, List.length_cons, Nat.pow_succ]
    omega

/-- Any digits are those of the number that is read from them. -/
theorem binary_number (digits : List Bool) : binary digits.length (number digits) = digits := by
  induction digits with
  | nil => rfl
  | cons digit digits inductionHypothesis =>
    have below := number_lt digits
    rw [number, List.length_cons, binary_succ, Nat.mul_comm, binary_mul_add _ _ _ below,
      inductionHypothesis, Nat.testBit_two_pow_mul_add _ below]
    cases digit <;> simp

/-- A number that is low enough for the width is read again from its digits. -/
theorem number_binary (width index : Nat) (inside : index < 2 ^ width) :
    number (binary width index) = index := by
  induction width generalizing index with
  | zero =>
    have only : index = 0 := by simpa using inside
    subst only
    rfl
  | succ width inductionHypothesis =>
    rw [binary_succ, number, length_binary]
    by_cases lower : index < 2 ^ width
    · rw [Nat.testBit_lt_two_pow lower, inductionHypothesis index lower]
      simp
    · obtain ⟨low, rfl⟩ := Nat.exists_eq_add_of_le (Nat.le_of_not_lt lower)
      have below : low < 2 ^ width := by
        rw [Nat.pow_succ] at inside
        omega
      have rest := binary_mul_add width 1 low below
      rw [Nat.mul_one] at rest
      rw [rest, inductionHypothesis low below, Nat.testBit_two_pow_add_eq,
        Nat.testBit_lt_two_pow below]
      simp

end Sentential
