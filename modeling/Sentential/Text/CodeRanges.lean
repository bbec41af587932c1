/-!
# Sets of characters as ranges of codes

A property of characters is given by the ranges of the codes that have it. A table lists the
ranges in ascending order, each by its first and its last code. A look-up walks the table and
stops at the first range that begins beyond the code, so the frequent small codes are decided
at once. That the order is ascending is part of every table, so stopping early never misses a
range.
-/

namespace Sentential.Text

/-- Whether no range is empty and each one ends before the next begins, leaving a gap. -/
def ascending : List (Nat × Nat) → Bool
  | [] => true
  | [(first, last)] => first ≤ last
  | (first, last) :: (next, final) :: later =>
    first ≤ last && last + 1 < next && ascending ((next, final) :: later)

/-- Ranges of codes in ascending order, each given by its first and its last code. -/
structure CodeRanges where
  ranges : List (Nat × Nat)
  ordered : ascending ranges = true

/-- Whether some range holds `code`, for ranges in ascending order. -/
def covers : List (Nat × Nat) → Nat → Bool
  | [], _ => false
  | (first, last) :: later, code =>
    if code < first then false else code ≤ last || covers later code

/-- Whether some range of the table holds `code`. -/
def CodeRanges.has (table : CodeRanges) (code : Nat) : Bool := covers table.ranges code

/-- A covered code lies in one of the ranges, whatever their order. -/
theorem exists_of_covers (ranges : List (Nat × Nat)) (code : Nat)
    (covered : covers ranges code = true) :
    ∃ range ∈ ranges, range.1 ≤ code ∧ code ≤ range.2 := by
  induction ranges with
  | nil => simp [covers] at covered
  | cons range later inductionHypothesis =>
    obtain ⟨first, last⟩ := range
    by_cases before : code < first
    · simp [covers, before] at covered
    · simp only [covers, before, if_false, Bool.or_eq_true, decide_eq_true_eq] at covered
      cases covered with
      | inl within =>
        exact ⟨(first, last), List.mem_cons_self, Nat.le_of_not_lt before, within⟩
      | inr beyond =>
        obtain ⟨found, member, bounds⟩ := inductionHypothesis beyond
        exact ⟨found, List.mem_cons_of_mem _ member, bounds⟩

/-- In ascending order every later range begins beyond the end of the first one. -/
theorem lt_of_ascending (first last : Nat) (later : List (Nat × Nat))
    (ordered : ascending ((first, last) :: later) = true) (range : Nat × Nat)
    (member : range ∈ later) : last < range.1 := by
  induction later generalizing first last with
  | nil => simp at member
  | cons next further inductionHypothesis =>
    obtain ⟨start, finish⟩ := next
    simp only [ascending, Bool.and_eq_true, decide_eq_true_eq] at ordered
    obtain ⟨⟨_, gap⟩, rest⟩ := ordered
    have proper : start ≤ finish := by
      cases further <;> simp_all [ascending]
    cases List.mem_cons.mp member with
    | inl same => subst same; simp only; omega
    | inr deeper =>
      have beyond := inductionHypothesis start finish rest deeper
      omega

/-- The tail of an ascending list is ascending. -/
theorem ascending_of_cons (range : Nat × Nat) (later : List (Nat × Nat))
    (ordered : ascending (range :: later) = true) : ascending later = true := by
  obtain ⟨first, last⟩ := range
  cases later with
  | nil => rfl
  | cons next further =>
    simp only [ascending, Bool.and_eq_true] at ordered
    exact ordered.2

/-- In ascending order stopping early loses nothing: the covered codes are exactly those that lie
in one of the ranges. -/
theorem covers_iff (ranges : List (Nat × Nat)) (ordered : ascending ranges = true) (code : Nat) :
    covers ranges code = true ↔ ∃ range ∈ ranges, range.1 ≤ code ∧ code ≤ range.2 := by
  refine ⟨exists_of_covers ranges code, ?_⟩
  induction ranges with
  | nil => simp
  | cons range later inductionHypothesis =>
    rintro ⟨found, member, lower, upper⟩
    obtain ⟨first, last⟩ := range
    have restOrdered := ascending_of_cons _ _ ordered
    cases List.mem_cons.mp member with
    | inl same =>
      subst same
      have notBefore : ¬ code < first := Nat.not_lt.mpr lower
      have within : code ≤ last := upper
      simp [covers, notBefore, within]
    | inr deeper =>
      have proper : first ≤ last := by
        cases later <;> simp_all [ascending]
      have beyond := lt_of_ascending first last later ordered found deeper
      have notBefore : ¬ code < first := by omega
      have covered := inductionHypothesis restOrdered ⟨found, deeper, lower, upper⟩
      simp [covers, notBefore, covered]

/-- A table has exactly the codes that lie in one of its ranges. -/
theorem CodeRanges.has_iff (table : CodeRanges) (code : Nat) :
    table.has code = true ↔ ∃ range ∈ table.ranges, range.1 ≤ code ∧ code ≤ range.2 :=
  covers_iff table.ranges table.ordered code

end Sentential.Text
