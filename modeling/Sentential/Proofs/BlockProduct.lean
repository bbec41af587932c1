import Sentential.Proofs.Equivalence

/-!
# Tables of operands without common variables

Where two operands have no variable in common, the columns of both stand side by side in the table
of the formula that joins them. Its rows fall into blocks, one for each row of the left table, and
each block goes through the rows of the right table. A row of the joined table is therefore numbered
by the pair of rows that it is made of, and its result is what the connective makes of theirs.
-/

namespace Sentential

/-- The row with the columns of two rows side by side, and their results joined by a connective. -/
def Row.join (connective : Connective) (first second : Row) : Row :=
  ⟨⟨first.assignment.entries ++ second.assignment.entries⟩,
    connective.apply first.result second.result⟩

/-- The range of a product falls into blocks of one length. -/
theorem range_mul (width blocks : Nat) :
    List.range (width * blocks)
      = (List.range blocks).flatMap fun block =>
          (List.range width).map fun place => width * block + place := by
  induction blocks with
  | zero => rfl
  | succ blocks inductionHypothesis =>
    rw [Nat.mul_succ, List.range_add, inductionHypothesis, List.range_succ, List.flatMap_append,
      List.flatMap_singleton]

namespace Formula

section Disjoint

variable (connective : Connective) {left right : Formula}
  (disjoint : ∀ name ∈ left.names, name ∉ right.names)

include disjoint

/-- Joined formulas have as many columns as both together. -/
theorem length_names_binary : (binary connective left right).names.length
    = left.names.length + right.names.length := by
  rw [names_binary_of_disjoint connective left right disjoint, List.length_append]

/-- A row of the joined table is made of a row of each table: the upper digits of its number are
those of the left row, the lower ones those of the right row. Each operand reads its own columns,
since the other operand has none of its names. -/
theorem row_binary (high low : Nat) (below : low < 2 ^ right.names.length) :
    (binary connective left right).row (2 ^ right.names.length * high + low)
      = (left.row high).join connective (right.row low) := by
  have columns : Path.ofIndex (binary connective left right).names
        (2 ^ right.names.length * high + low)
      = Path.ofIndex left.names high ++ Path.ofIndex right.names low := by
    rw [names_binary_of_disjoint connective left right disjoint,
      Path.ofIndex_append _ _ high low below]
  have inLeft : ∀ name ∈ left.names,
      name ∈ (Assignment.mk (Path.ofIndex left.names high)).names := by
    intro name member
    rwa [Assignment.names, Path.names_ofIndex]
  have leftResult : left.meaning
        (Assignment.mk (Path.ofIndex left.names high ++ Path.ofIndex right.names low)).column
      = (left.row high).result := by
    refine meaning_congr left _ _ ?_
    intro name leaf
    rw [Assignment.column_append, if_pos (inLeft name ((mem_names left name).mpr leaf))]
  have rightResult : right.meaning
        (Assignment.mk (Path.ofIndex left.names high ++ Path.ofIndex right.names low)).column
      = (right.row low).result := by
    refine meaning_congr right _ _ ?_
    intro name leaf
    have outside : name ∉ (Assignment.mk (Path.ofIndex left.names high)).names := by
      rw [Assignment.names, Path.names_ofIndex]
      exact fun member => disjoint name member ((mem_names right name).mpr leaf)
    rw [Assignment.column_append, if_neg outside]
  rw [row, columns, meaning_binary, leftResult, rightResult]
  rfl

/-- The rows of the joined table are all pairs of rows, those with the same left row in one
block. -/
theorem rows_binary : (binary connective left right).rows
    = left.rows.flatMap fun first => right.rows.map fun second => first.join connective second := by
  have numbers : List.range (2 ^ (binary connective left right).names.length)
      = (List.range (2 ^ left.names.length)).flatMap fun high =>
          (List.range (2 ^ right.names.length)).map fun low =>
            2 ^ right.names.length * high + low := by
    rw [length_names_binary connective disjoint, Nat.pow_add, Nat.mul_comm, range_mul]
  simp only [rows, numbers, List.map_flatMap, List.flatMap_map, List.map_map]
  refine List.flatMap_congr ?_
  intro high _
  refine List.map_congr_left ?_
  intro low member
  exact row_binary connective disjoint high low (List.mem_range.mp member)

end Disjoint

end Formula

/-- Among all pairs of rows, a conjunction is true of those whose rows are both true. -/
theorem length_filter_pairs (leftRows rightRows : List Row) :
    ((leftRows.flatMap fun first => rightRows.map fun second => first.join .and second).filter
        Row.result).length
      = (leftRows.filter Row.result).length * (rightRows.filter Row.result).length := by
  induction leftRows with
  | nil => simp
  | cons first others inductionHypothesis =>
    rw [List.flatMap_cons, List.filter_append, List.length_append, inductionHypothesis,
      List.filter_map, List.length_map]
    cases decided : first.result with
    | false =>
      have never : Row.result ∘ (fun second => first.join .and second) = fun _ => false := by
        funext second
        simp [Row.join, Connective.apply, decided]
      rw [never, List.filter_cons_of_neg (by simp [decided])]
      simp
    | true =>
      have same : Row.result ∘ (fun second => first.join .and second) = Row.result := by
        funext second
        simp [Row.join, Connective.apply, decided]
      rw [same, List.filter_cons_of_pos decided, List.length_cons, Nat.succ_mul, Nat.add_comm]

namespace Table

/-- The table is that of the formula, and is built if memory can address its rows. -/
structure IsOf (formula : Formula) (table : Table) : Prop where
  complete : ofSentence (.ofFormula formula) = .ok table
  built : build (.ofFormula formula)
    = if (Sentence.ofFormula formula).rowCount ≤ maxRows then .ok table else .error .tooManyRows

/-- Every formula has a table. -/
theorem isOf_rows (formula : Formula) : IsOf formula ⟨formula.names, formula.rows⟩ :=
  ⟨ofSentence_eq_rows formula, build_ofFormula formula⟩

/-- The table of a formula whose operands have no variable in common is the product of their tables,
block by block. Its columns are those of the left operand, followed by those of the right one. The
row whose number has the digits of a left row and then those of a right row holds the values of both
rows, and its result is the conjunction, the disjunction or the inequality of theirs. So a
conjunction has as many satisfying rows as the product of the numbers for its operands. -/
theorem binary_is_product (connective : Connective) (left right : Formula)
    (disjoint : ∀ name ∈ left.names, name ∉ right.names) :
    ∃ leftTable rightTable table : Table,
      leftTable.IsOf left ∧ rightTable.IsOf right ∧ table.IsOf (.binary connective left right) ∧
      table.names = left.names ++ right.names ∧
      table.size = 2 ^ (left.names.length + right.names.length) ∧
      (∀ high < 2 ^ left.names.length, ∀ low < 2 ^ right.names.length,
        ∃ first second row : Row,
          leftTable.rows[high]? = some first ∧ rightTable.rows[low]? = some second ∧
          table.rows[high * 2 ^ right.names.length + low]? = some row ∧
          row.assignment.names = first.assignment.names ++ second.assignment.names ∧
          row.assignment.values = first.assignment.values ++ second.assignment.values ∧
          (connective = .and → row.result = (first.result && second.result)) ∧
          (connective = .or → row.result = (first.result || second.result)) ∧
          (connective = .xor → row.result = (first.result != second.result))) ∧
      (connective = .and →
        table.satisfyingCount = leftTable.satisfyingCount * rightTable.satisfyingCount) := by
  have columns := Formula.length_names_binary connective disjoint
  refine ⟨_, _, _, isOf_rows left, isOf_rows right, isOf_rows (.binary connective left right),
    Formula.names_binary_of_disjoint connective left right disjoint, ?_, ?_, ?_⟩
  · rw [size, Formula.rows, List.length_map, List.length_range, columns]
  · intro high highInside low lowInside
    refine ⟨left.row high, right.row low, (left.row high).join connective (right.row low),
      (left.getElem?_rows _ _).mpr ⟨highInside, rfl⟩, (right.getElem?_rows _ _).mpr ⟨lowInside, rfl⟩,
      ?_, List.map_append, List.map_append, by rintro rfl; rfl, by rintro rfl; rfl,
      by rintro rfl; rfl⟩
    have inside : 2 ^ right.names.length * high + low
        < 2 ^ (Formula.binary connective left right).names.length := by
      rw [columns]
      calc 2 ^ right.names.length * high + low
          < 2 ^ right.names.length * high + 2 ^ right.names.length :=
            Nat.add_lt_add_left lowInside _
        _ = 2 ^ right.names.length * (high + 1) := (Nat.mul_succ _ _).symm
        _ ≤ 2 ^ right.names.length * 2 ^ left.names.length := Nat.mul_le_mul_left _ highInside
        _ = 2 ^ (left.names.length + right.names.length) := by rw [Nat.pow_add, Nat.mul_comm]
    rw [Nat.mul_comm]
    exact (Formula.getElem?_rows _ _ _).mpr
      ⟨inside, Formula.row_binary connective disjoint high low lowInside⟩
  · rintro rfl
    rw [satisfyingCount, satisfying, Formula.rows_binary .and disjoint]
    exact length_filter_pairs left.rows right.rows

/-- Three rows of `p or q` and one of `not s` are true, and so are three of their conjunction. Where
the disjunction is true and the negation is not, the two are unequal. -/
theorem binary_is_product_of_three_and_one :
    (∀ name ∈ ["p", "q"], name ∉ ["s"]) ∧
      (∃ table : Table,
        table.IsOf (.binary .and (.binary .or (.var "p") (.var "q")) (.not (.var "s"))) ∧
        table.names = ["p", "q", "s"] ∧ table.satisfyingCount = 3) ∧
      ∃ (table : Table) (row : Row),
        table.IsOf (.binary .xor (.binary .or (.var "p") (.var "q")) (.not (.var "s"))) ∧
        table.rows[3]? = some row ∧ row.assignment.values = [false, true, true] ∧
        row.result = true := by
  have disjoint : ∀ name ∈ ["p", "q"], name ∉ ["s"] := by decide
  refine ⟨disjoint, ?_, ?_⟩
  · obtain ⟨leftTable, rightTable, table, leftIs, rightIs, tableIs, named, _, _, counted⟩ :=
      binary_is_product .and (.binary .or (.var "p") (.var "q")) (.not (.var "s")) disjoint
    obtain rfl := Except.ok.inj ((ofSentence_eq_rows _).symm.trans leftIs.complete)
    obtain rfl := Except.ok.inj ((ofSentence_eq_rows _).symm.trans rightIs.complete)
    refine ⟨table, tableIs, named, ?_⟩
    rw [counted rfl]
    decide
  · obtain ⟨leftTable, rightTable, table, leftIs, rightIs, tableIs, _, _, blocks, _⟩ :=
      binary_is_product .xor (.binary .or (.var "p") (.var "q")) (.not (.var "s")) disjoint
    obtain rfl := Except.ok.inj ((ofSentence_eq_rows _).symm.trans leftIs.complete)
    obtain rfl := Except.ok.inj ((ofSentence_eq_rows _).symm.trans rightIs.complete)
    obtain ⟨first, second, row, isFirst, isSecond, isRow, _, values, _, _, unequal⟩ :=
      blocks 1 (by decide) 1 (by decide)
    obtain rfl := Option.some.inj isFirst
    obtain rfl := Option.some.inj isSecond
    exact ⟨table, row, tableIs, isRow, values, unequal rfl⟩

end Table

end Sentential
