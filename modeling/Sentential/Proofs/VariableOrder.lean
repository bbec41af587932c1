import Mathlib.Data.List.NodupEquivFin
import Sentential.Proofs.BlockProduct

/-!
# The order of the variables

Equivalent formulas may list the same variables in different orders. Their tables then have the same
columns in different places, and so their rows in a different order. Every row still has one
counterpart in the other table: the row in which each name has the same value. It has the same
result, and it is found from either side, so the rows of the two tables are paired off. What is
counted over all rows is therefore the same in both.
-/

namespace Sentential

/-- The truth function of a connective is symmetric. -/
theorem Connective.apply_comm (connective : Connective) (left right : Bool) :
    connective.apply left right = connective.apply right left := by
  cases connective with
  | and => exact Bool.and_comm left right
  | or => exact Bool.or_comm left right
  | xor => exact Bool.xor_comm left right

/-- The values of the other row are those of the row, with each column in the place to which it was
moved. -/
def Row.MatchesBy {width otherWidth : Nat} (columns : Fin width ≃ Fin otherWidth)
    (row other : Row) : Prop :=
  ∀ column : Fin width,
    other.assignment.values[(columns column).val]? = row.assignment.values[column.val]?

namespace Formula

/-- The formulas have the same variables up to their order, and are equivalent. -/
structure Rearranged (first second : Formula) : Prop where
  names : first.names.Perm second.names
  equivalent : EquivalentOver first.names first second

/-- Formulas with the same leaves up to their order have the same variables up to their order. -/
theorem names_perm_of_occurrences {first second : Formula}
    (same : ∀ name, name ∈ first.occurrences ↔ name ∈ second.occurrences) :
    first.names.Perm second.names := by
  refine (List.perm_ext_iff_of_nodup (nodup_names first) (nodup_names second)).mpr ?_
  intro name
  rw [mem_names, mem_names, same]

/-- Operands can change places. -/
theorem rearranged_swap (connective : Connective) (left right : Formula) :
    Rearranged (binary connective left right) (binary connective right left) where
  names := by
    refine names_perm_of_occurrences ?_
    intro name
    rw [occurrences, occurrences, List.mem_append, List.mem_append, or_comm]
  equivalent := by
    intro assignment covers
    have swapped : assignment.Covers (binary connective right left).names := by
      intro name member
      refine covers name ?_
      rw [mem_names, occurrences, List.mem_append] at member ⊢
      exact member.symm
    refine ⟨_, evaluate_of_covers _ assignment covers, ?_⟩
    rw [evaluate_of_covers _ assignment swapped, meaning_binary, meaning_binary,
      Connective.apply_comm]

/-- The values of a row, each given by the name of its column. -/
theorem getElem?_values_row (formula : Formula) (index : Nat) (column : Fin formula.names.length) :
    (formula.row index).assignment.values[column.val]?
      = some ((formula.row index).assignment.column formula.names[column]) := by
  refine (formula.row_holds index).columns column.val formula.names[column] ?_
  rw [names_row]
  exact List.getElem?_eq_getElem column.isLt

/-- The number of the row of `second` in which each variable has the value that it has in a row of
`first`. -/
def counterpart (first second : Formula) (index : Nat) : Nat :=
  second.rowOf (first.row index).assignment.column

/-- In the counterpart of a row each variable has the same value. -/
theorem column_counterpart (first second : Formula) (index : Nat) (name : String)
    (member : name ∈ second.names) :
    (second.row (first.counterpart second index)).assignment.column name
      = (first.row index).assignment.column name :=
  column_rowOf second _ name member

/-- A row in which each variable has the value that it has in a row of another formula is the
counterpart of that row. -/
theorem eq_counterpart (first second : Formula) (index other : Nat)
    (inside : other < 2 ^ second.names.length)
    (same : ∀ name ∈ second.names, (second.row other).assignment.column name
      = (first.row index).assignment.column name) :
    other = first.counterpart second index := by
  refine second.eq_rowOf _ other inside (List.ext_getElem ?_ ?_)
  · rw [(second.row_holds other).values, length_binary, List.length_map]
  · intro place valued named
    have within : place < second.names.length := by rwa [List.length_map] at named
    have read := getElem?_values_row second other ⟨place, within⟩
    rw [List.getElem_map, ← same _ (List.getElem_mem within)]
    exact (List.getElem?_eq_some_iff.mp read).2

section Rearranged

variable {first second : Formula} (rearranged : Rearranged first second)

include rearranged

/-- Either formula can be taken as the first. -/
theorem Rearranged.symm : Rearranged second first where
  names := rearranged.names.symm
  equivalent := by
    intro assignment covers
    have same : assignment.Covers first.names :=
      fun name member => covers name (rearranged.names.mem_iff.mp member)
    obtain ⟨value, firstValue, secondValue⟩ := rearranged.equivalent assignment same
    exact ⟨value, secondValue, firstValue⟩

/-- Going to the counterpart and back leads to the same row. -/
theorem counterpart_counterpart (index : Nat) (inside : index < 2 ^ first.names.length) :
    second.counterpart first (first.counterpart second index) = index := by
  refine (eq_counterpart second first _ index inside ?_).symm
  intro name member
  exact (column_counterpart first second index name (rearranged.names.mem_iff.mp member)).symm

/-- A row and its counterpart have the same result. -/
theorem result_counterpart (index : Nat) :
    (second.row (first.counterpart second index)).result = (first.row index).result := by
  obtain ⟨value, firstValue, secondValue⟩ :=
    rearranged.equivalent (first.row index).assignment (row_covers first index)
  have covers : (first.row index).assignment.Covers second.names :=
    fun name member => row_covers first index name (rearranged.names.mem_iff.mpr member)
  rw [evaluate_row_assignment] at firstValue
  rw [evaluate_of_covers second _ covers] at secondValue
  rw [counterpart, result_rowOf, Except.ok.inj secondValue, Except.ok.inj firstValue]

/-- Going through the counterparts of all rows goes through all rows. -/
theorem counterparts_perm :
    ((List.range (2 ^ first.names.length)).map (first.counterpart second)).Perm
      (List.range (2 ^ second.names.length)) := by
  have distinct : ((List.range (2 ^ first.names.length)).map (first.counterpart second)).Nodup := by
    refine List.Nodup.map_on ?_ List.nodup_range
    intro index member other otherMember same
    rw [← counterpart_counterpart rearranged index (List.mem_range.mp member), same,
      counterpart_counterpart rearranged other (List.mem_range.mp otherMember)]
  refine (List.perm_ext_iff_of_nodup distinct List.nodup_range).mpr ?_
  intro index
  rw [List.mem_map, List.mem_range]
  constructor
  · rintro ⟨_, _, rfl⟩
    exact rowOf_lt second _
  · intro inside
    exact ⟨second.counterpart first index, List.mem_range.mpr (rowOf_lt first _),
      counterpart_counterpart rearranged.symm index inside⟩

/-- The results are the same up to their order. -/
theorem results_perm : (first.rows.map Row.result).Perm (second.rows.map Row.result) := by
  have paired : first.rows.map Row.result
      = ((List.range (2 ^ first.names.length)).map (first.counterpart second)).map
          (Row.result ∘ second.row) := by
    rw [rows, List.map_map, List.map_map]
    refine List.map_congr_left ?_
    intro index _
    exact (result_counterpart rearranged index).symm
  have listed : second.rows.map Row.result
      = (List.range (2 ^ second.names.length)).map (Row.result ∘ second.row) := List.map_map
  rw [paired, listed]
  exact (counterparts_perm rearranged).map _

end Rearranged

/-- The place of each name of the first formula among the names of the second one. -/
def columnMap {first second : Formula} (rearranged : Rearranged first second) :
    Fin first.names.length ≃ Fin second.names.length :=
  ((nodup_names first).getEquiv first.names).trans
    ((Equiv.subtypeEquivRight fun _ => rearranged.names.mem_iff).trans
      ((nodup_names second).getEquiv second.names).symm)

/-- The row of the second formula that belongs to each row of the first. -/
def rowMap {first second : Formula} (rearranged : Rearranged first second) :
    Fin first.rows.length ≃ Fin second.rows.length where
  toFun index := ⟨first.counterpart second index,
    Nat.lt_of_lt_of_eq (rowOf_lt second _) (length_rows second).symm⟩
  invFun index := ⟨second.counterpart first index,
    Nat.lt_of_lt_of_eq (rowOf_lt first _) (length_rows first).symm⟩
  left_inv index := Fin.ext
    (counterpart_counterpart rearranged index (Nat.lt_of_lt_of_eq index.isLt (length_rows first)))
  right_inv index := Fin.ext
    (counterpart_counterpart rearranged.symm index
      (Nat.lt_of_lt_of_eq index.isLt (length_rows second)))

/-- Moving a column keeps its name. -/
theorem getElem_columnMap {first second : Formula} (rearranged : Rearranged first second)
    (column : Fin first.names.length) :
    second.names[columnMap rearranged column] = first.names[column] := by
  have found := ((nodup_names second).getEquiv second.names).apply_symm_apply
    ⟨first.names[column], rearranged.names.mem_iff.mp (List.getElem_mem column.isLt)⟩
  exact congrArg Subtype.val found

/-- The satisfying rows are counted by their results. -/
theorem length_filter_result (listed : List Row) :
    (listed.filter Row.result).length = (listed.map Row.result).countP id := by
  rw [List.countP_map, ← List.countP_eq_length_filter]
  rfl

/-- A row matches exactly its counterpart. -/
theorem matchesBy_iff {first second : Formula} (rearranged : Rearranged first second)
    (index other : Nat) (inside : other < 2 ^ second.names.length) :
    (first.row index).MatchesBy (columnMap rearranged) (second.row other) ↔
      other = first.counterpart second index := by
  have read : ∀ column : Fin first.names.length,
      (second.row other).assignment.values[(columnMap rearranged column).val]?
        = some ((second.row other).assignment.column first.names[column]) := by
    intro column
    rw [getElem?_values_row, getElem_columnMap]
  constructor
  · intro same
    refine eq_counterpart first second index other inside ?_
    intro name member
    obtain ⟨place, within, rfl⟩ :=
      List.getElem_of_mem (rearranged.names.mem_iff.mpr member)
    have here := same ⟨place, within⟩
    rw [read, getElem?_values_row] at here
    exact Option.some.inj here
  · rintro rfl column
    have member : first.names[column] ∈ second.names :=
      rearranged.names.mem_iff.mp (List.getElem_mem column.isLt)
    rw [read, getElem?_values_row, column_counterpart _ _ _ _ member]

end Formula

namespace Table

open Formula

/-- The order of the variables is irrelevant to what is counted. Exchanging the operands of a
connective only rearranges a formula: the variables may come in another order, and the formulas are
equivalent. Wherever that is so, the tables have the same number of rows and of satisfying rows, and
are tautologies or contradictions alike. The columns of the first table are moved to those of the same
names in the second one, and the rows are paired off: each matches one row of the other table and no
other, and has the same result. -/
theorem order_is_irrelevant :
    (∀ (connective : Connective) (left right : Formula),
      Rearranged (.binary connective left right) (.binary connective right left)) ∧
    ∀ first second : Formula, Rearranged first second →
      ∃ firstTable secondTable : Table,
        firstTable.IsOf first ∧ secondTable.IsOf second ∧
        firstTable.size = secondTable.size ∧
        firstTable.satisfyingCount = secondTable.satisfyingCount ∧
        firstTable.isTautology = secondTable.isTautology ∧
        firstTable.isContradiction = secondTable.isContradiction ∧
        ∃ (columns : Fin firstTable.names.length ≃ Fin secondTable.names.length)
          (pairs : Fin firstTable.rows.length ≃ Fin secondTable.rows.length),
          (∀ column, secondTable.names[columns column] = firstTable.names[column]) ∧
          ∀ index,
            (∀ other, firstTable.rows[index].MatchesBy columns secondTable.rows[other] ↔
              other = pairs index) ∧
            secondTable.rows[pairs index].result = firstTable.rows[index].result := by
  refine ⟨rearranged_swap, ?_⟩
  intro first second rearranged
  have results := results_perm rearranged
  refine ⟨_, _, isOf_rows first, isOf_rows second, ?_, ?_, results.all_eq,
    congrArg Bool.not results.any_eq, columnMap rearranged, rowMap rearranged,
    getElem_columnMap rearranged, ?_⟩
  · rw [size, size, length_rows, length_rows, rearranged.names.length_eq]
  · rw [satisfyingCount, satisfyingCount, satisfying, satisfying, length_filter_result,
      length_filter_result, results.countP_eq]
  · intro index
    change (∀ other : Fin second.rows.length,
      first.rows[index].MatchesBy (columnMap rearranged) second.rows[other] ↔
        other = rowMap rearranged index) ∧
      second.rows[rowMap rearranged index].result = first.rows[index].result
    simp only [Fin.getElem_fin, getElem_rows]
    refine ⟨?_, result_counterpart rearranged index⟩
    intro other
    rw [Fin.ext_iff]
    exact matchesBy_iff rearranged index other
      (Nat.lt_of_lt_of_eq other.isLt (length_rows second))

/-- Three of the four rows of a disjunction are true, whichever operand is written first. -/
theorem order_is_irrelevant_to_disjunction :
    Rearranged (.binary .or (.var "p") (.var "q")) (.binary .or (.var "q") (.var "p")) ∧
      ∃ table : Table, table.IsOf (.binary .or (.var "q") (.var "p")) ∧
        table.names = ["q", "p"] ∧ table.satisfyingCount = 3 := by
  have rearranged := order_is_irrelevant.1 .or (.var "p") (.var "q")
  obtain ⟨firstTable, secondTable, firstIs, secondIs, _, counted, _⟩ :=
    order_is_irrelevant.2 _ _ rearranged
  obtain rfl := Except.ok.inj ((ofSentence_eq_rows _).symm.trans firstIs.complete)
  obtain rfl := Except.ok.inj ((ofSentence_eq_rows _).symm.trans secondIs.complete)
  exact ⟨rearranged, _, secondIs, rfl, counted.symm.trans (by decide)⟩

end Table

end Sentential
