import Sentential.Proofs.BlockProduct
import Sentential.Proofs.Brackets
import Sentential.Proofs.Composition
import Sentential.Table.Layout

/-!
# The printed form tells the table

A table of a text is printed with one line for the names and one for each row. The bar stands in the
same column of every line, behind all columns, each of which is as wide as its name and has a space
after it. In front of the bar, the words of the first line are the names; in the line of a row, the
letter of each value stands where the name of its column begins, and there are spaces everywhere else.
The letter of the result ends the line.

So the table can be read back: the bar and the words give the names, these give the places of the
letters, and the number of lines gives the number of rows. Two tables of texts are equal if they are
printed alike. What is said here of the printed form is told from its characters alone.

A table that has a name of more than `maxWidth` characters has no printed form.
-/

namespace Sentential

open Text Segmentation

/-- The words of a text: the longest runs without white space. -/
def Text.words (text : List Char) : List (List Char) :=
  (text.splitOnP isWhiteSpace).filter fun word => !word.isEmpty

/-- The character that stands for a truth value. -/
def truthChar (value : Bool) : Char := if value then 'T' else 'F'

namespace Table

/-- The number of characters in front of the bar: those of the names, and a space after each. -/
def barColumn (names : List String) : Nat :=
  names.foldr (fun name width => name.length + 1 + width) 0

/-- The number of characters in front of the name in a place. -/
def nameColumn (names : List String) (place : Nat) : Nat := barColumn (names.take place)

/-- The line has a single bar, with `before` in front of it and `after` behind it. -/
structure Barred (before after line : List Char) : Prop where
  whole : line = before ++ '|' :: after
  noneBefore : '|' ∉ before
  noneAfter : '|' ∉ after

/-- What the printed form of a table shows, line by line. -/
structure Legible (table : Table) (lines : List (List Char)) (printed : String) : Prop where
  /-- Each line is ended by a newline, and nothing stands behind the last one. -/
  ended : printed.toList.splitOn '\n' = lines ++ [[]]
  /-- There is a line for the names and one for each row. -/
  count : lines.length = table.size + 1
  /-- The bars stand below one another. -/
  aligned : ∀ line ∈ lines, ∃ before after, Barred before after line ∧
    before.length = barColumn table.names
  /-- The words in front of the first bar are the names, each of which begins in its column. -/
  header : ∃ before after line, lines[0]? = some line ∧ Barred before after line ∧
    words before = table.names.map String.toList ∧
    ∀ (place : Nat) (name : String), table.names[place]? = some name →
      name.toList <+: before.drop (nameColumn table.names place)
  /-- The values stand where the names of their columns begin, with nothing but spaces between, and
  the result stands at the end of the line. -/
  rows : ∀ (index : Nat) (row : Row), table.rows[index]? = some row →
    ∃ before line, lines[index + 1]? = some line ∧
      Barred before [' ', truthChar row.result] line ∧
      (∀ (place : Nat) (value : Bool), row.assignment.values[place]? = some value →
        before[nameColumn table.names place]? = some (truthChar value)) ∧
      ∀ column < barColumn table.names,
        (∀ place < table.names.length, nameColumn table.names place ≠ column) →
        before[column]? = some ' '

/-! ## Columns -/

@[simp] theorem barColumn_cons (name : String) (names : List String) :
    barColumn (name :: names) = name.length + 1 + barColumn names := rfl

@[simp] theorem nameColumn_zero (names : List String) : nameColumn names 0 = 0 := by
  simp [nameColumn, barColumn]

@[simp] theorem nameColumn_succ (name : String) (names : List String) (place : Nat) :
    nameColumn (name :: names) (place + 1) = name.length + 1 + nameColumn names place := rfl

/-- The characters of cells. -/
theorem toList_cells (texts : List String) :
    (cells texts).toList = texts.flatMap fun text => text.toList ++ [' '] := by
  simp [cells, String.toList_join, List.flatMap_map]

/-- The names take all the room in front of the bar. -/
theorem length_cells (names : List String) : (cells names).toList.length = barColumn names := by
  rw [toList_cells]
  induction names with
  | nil => rfl
  | cons name names inductionHypothesis =>
    simp only [List.flatMap_cons, List.length_append, inductionHypothesis, String.length_toList,
      List.length_singleton, barColumn_cons]

/-- Each name begins in its column. -/
theorem prefix_cells (names : List String) (place : Nat) (name : String)
    (here : names[place]? = some name) :
    name.toList <+: (cells names).toList.drop (nameColumn names place) := by
  have front := length_cells (names.take place)
  have split : (cells names).toList
      = (cells (names.take place)).toList ++ (cells (names.drop place)).toList := by
    simp only [toList_cells, ← List.flatMap_append, List.take_append_drop]
  obtain ⟨inside, rfl⟩ := List.getElem?_eq_some_iff.mp here
  rw [split, nameColumn, ← front, List.drop_left, List.drop_eq_getElem_cons inside, toList_cells,
    List.flatMap_cons, List.append_assoc]
  exact List.prefix_append _ _

/-- The words of cells that are words are these. -/
theorem words_cells (names : List String) (named : ∀ name ∈ names, IsWord name.toList) :
    words (cells names).toList = names.map String.toList := by
  rw [toList_cells]
  induction names with
  | nil => rfl
  | cons name names inductionHypothesis =>
    have isWord := named name List.mem_cons_self
    have others := inductionHypothesis fun other member => named other (List.mem_cons_of_mem _ member)
    have single : name.toList.splitOnP isWhiteSpace = [name.toList] := by
      refine List.splitOnP_eq_singleton ?_
      intro c member
      exact (wordChar_apart c (isWord.characters c member)).1
    rw [List.flatMap_cons, List.append_assoc, List.singleton_append, words,
      List.splitOnP_append_cons _ _ space_apart.1, single, List.filter_append, List.map_cons]
    rw [words] at others
    rw [others]
    simp [isWord.nonempty]

/-- The characters of the cells of a row: the letter of each value, and spaces up to the next name. -/
def rowCells (names : List String) (values : List Bool) : List Char :=
  (List.zipWith (fun name value => truthChar value :: List.replicate name.length ' ') names
    values).flatten

@[simp] theorem rowCells_cons (name : String) (names : List String) (value : Bool)
    (values : List Bool) : rowCells (name :: names) (value :: values)
      = truthChar value :: (List.replicate name.length ' ' ++ rowCells names values) := rfl

/-- A letter that is filled up to the width of a name and has a space after it. -/
theorem toList_padded_letter (width : Nat) (positive : 0 < width) (value : Bool) :
    (padded width (truthLetter value)).toList ++ [' ']
      = truthChar value :: List.replicate width ' ' := by
  obtain ⟨further, rfl⟩ := Nat.exists_eq_add_one.mpr positive
  have single : (truthLetter value).toList = [truthChar value] ∧ (truthLetter value).length = 1 := by
    cases value <;> decide
  rw [padded, String.toList_append, String.toList_ofList, single.1, single.2, Nat.add_sub_cancel,
    List.append_assoc, ← List.replicate_succ']
  rfl

/-- The cells of a row, if no name is empty. -/
theorem toList_cells_letters (names : List String) (values : List Bool)
    (nonempty : ∀ name ∈ names, 0 < name.length) :
    (cells (List.zipWith (fun value width => padded width (truthLetter value)) values
      (names.map String.length))).toList = rowCells names values := by
  rw [toList_cells]
  induction names generalizing values with
  | nil => cases values <;> rfl
  | cons name names inductionHypothesis =>
    cases values with
    | nil => rfl
    | cons value values =>
      have later := inductionHypothesis values fun other member =>
        nonempty other (List.mem_cons_of_mem _ member)
      rw [List.map_cons, List.zipWith_cons_cons, List.flatMap_cons, later,
        toList_padded_letter _ (nonempty name List.mem_cons_self), rowCells_cons, List.cons_append]

/-- There is nothing in the cells of a row but letters and spaces. -/
theorem mem_rowCells (names : List String) (values : List Bool) :
    ∀ c ∈ rowCells names values, c ∈ ['T', 'F', ' '] := by
  induction names generalizing values with
  | nil => simp [rowCells]
  | cons name names inductionHypothesis =>
    cases values with
    | nil => simp [rowCells]
    | cons value values =>
      intro c member
      rw [rowCells_cons, List.mem_cons, List.mem_append, List.mem_replicate] at member
      rcases member with rfl | ⟨_, rfl⟩ | later
      · cases value <;> decide
      · decide
      · exact inductionHypothesis values c later

/-- Behind the cell of the first name come those of the others. -/
theorem getElem?_rowCells_later (name : String) (names : List String) (value : Bool)
    (values : List Bool) (column : Nat) :
    (rowCells (name :: names) (value :: values))[name.length + 1 + column]?
      = (rowCells names values)[column]? := by
  rw [rowCells_cons, Nat.add_right_comm, List.getElem?_cons_succ,
    List.getElem?_append_right (by simp), List.length_replicate, Nat.add_sub_cancel_left]

section Row

variable (names : List String) (values : List Bool) (complete : values.length = names.length)

include complete

/-- The cells of a row are as wide as those of the names. -/
theorem length_rowCells : (rowCells names values).length = barColumn names := by
  induction names generalizing values with
  | nil => rfl
  | cons name names inductionHypothesis =>
    obtain ⟨value, values, rfl⟩ := List.exists_cons_of_length_eq_add_one complete
    simp only [rowCells_cons, List.length_cons, List.length_append, List.length_replicate,
      inductionHypothesis values (by simpa using complete), barColumn_cons]
    omega

/-- The letter of each value stands where the name of its column begins. -/
theorem getElem?_rowCells_nameColumn (place : Nat) (value : Bool)
    (here : values[place]? = some value) :
    (rowCells names values)[nameColumn names place]? = some (truthChar value) := by
  induction names generalizing values place with
  | nil =>
    obtain rfl := List.eq_nil_of_length_eq_zero complete
    exact absurd here (by simp)
  | cons name names inductionHypothesis =>
    obtain ⟨first, values, rfl⟩ := List.exists_cons_of_length_eq_add_one complete
    cases place with
    | zero => simpa using congrArg (Option.map truthChar) here
    | succ place =>
      rw [nameColumn_succ, getElem?_rowCells_later]
      exact inductionHypothesis values (by simpa using complete) place here

/-- Everywhere else there is a space. -/
theorem getElem?_rowCells_between (column : Nat) (inside : column < barColumn names)
    (between : ∀ place < names.length, nameColumn names place ≠ column) :
    (rowCells names values)[column]? = some ' ' := by
  induction names generalizing values column with
  | nil => exact absurd inside (Nat.not_lt_zero column)
  | cons name names inductionHypothesis =>
    obtain ⟨value, values, rfl⟩ := List.exists_cons_of_length_eq_add_one complete
    have behind : column ≠ 0 := by simpa [eq_comm] using between 0 (by simp)
    by_cases within : column ≤ name.length
    · obtain ⟨gap, rfl⟩ := Nat.exists_eq_add_one_of_ne_zero behind
      have short : gap < name.length := Nat.lt_of_succ_le within
      rw [rowCells_cons, List.getElem?_cons_succ, List.getElem?_append_left (by simpa using short)]
      simp [short]
    · obtain ⟨later, rfl⟩ := Nat.exists_eq_add_of_le (Nat.lt_of_not_le within)
      rw [barColumn_cons] at inside
      rw [getElem?_rowCells_later]
      refine inductionHypothesis values (by simpa using complete) later (by omega) ?_
      intro place below same
      refine between (place + 1) (by simpa using below) ?_
      rw [nameColumn_succ, same]

end Row

/-! ## Lines -/

/-- Neither the bar nor a newline belongs to a word. -/
theorem bar_apart : isWordChar '|' = false ∧ isWordChar '\n' = false := by decide

/-- There is nothing in the cells of names but word characters and spaces. -/
theorem notMem_cells {names : List String} (named : ∀ name ∈ names, IsWord name.toList) {c : Char}
    (notWord : isWordChar c = false) (notSpace : c ≠ ' ') : c ∉ (cells names).toList := by
  rw [toList_cells]
  intro member
  obtain ⟨name, listed, inside⟩ := List.mem_flatMap.mp member
  rcases List.mem_append.mp inside with letter | space
  · exact absurd (notWord.symm.trans ((named name listed).characters c letter)) Bool.false_ne_true
  · exact notSpace (List.mem_singleton.mp space)

/-- A line has no newline if there is none on either side of its bar. -/
theorem Barred.newline {before after line : List Char} (barred : Barred before after line)
    (noneBefore : '\n' ∉ before) (noneAfter : '\n' ∉ after) : '\n' ∉ line := by
  rw [barred.whole]
  simp [noneBefore, noneAfter]

/-- A line can be divided at its bar in one way only. -/
theorem Barred.unique {before after otherBefore otherAfter line : List Char}
    (first : Barred before after line) (second : Barred otherBefore otherAfter line) :
    before = otherBefore ∧ after = otherAfter := by
  have same := first.whole.symm.trans second.whole
  obtain ⟨sameBefore, _, sameAfter⟩ :=
    (List.append_cons_inj_of_notMem first.noneBefore first.noneAfter).mp same
  exact ⟨sameBefore, sameAfter⟩

/-- Lines without newlines of their own are found again by splitting at the newlines. -/
theorem splitOn_lines (lines : List (List Char)) (plain : ∀ line ∈ lines, '\n' ∉ line) :
    (lines.flatMap (· ++ ['\n'])).splitOn '\n' = lines ++ [[]] := by
  induction lines with
  | nil => rfl
  | cons line lines inductionHypothesis =>
    have later := inductionHypothesis fun other member => plain other (List.mem_cons_of_mem _ member)
    have single : line.splitOnP (· == '\n') = [line] := by
      refine List.splitOnP_eq_singleton ?_
      intro c member
      refine beq_false_of_ne ?_
      rintro rfl
      exact plain line List.mem_cons_self member
    rw [List.splitOn] at later ⊢
    rw [List.flatMap_cons, List.append_assoc, List.singleton_append,
      @List.splitOnP_append_cons Char (· == '\n') line _ '\n' rfl, single, later]
    rfl

/-- The characters of lines. -/
theorem toList_ofLines (lines : List String) :
    (ofLines lines).toList = (lines.map String.toList).flatMap (· ++ ['\n']) := by
  simp [ofLines, String.toList_join, List.flatMap_map]

section Printed

variable {table : Table} (named : ∀ name ∈ table.names, IsWord name.toList)
  (columns : ∀ row ∈ table.rows, row.assignment.names = table.names)

include named

/-- The line of names has one bar. -/
theorem barred_header :
    Barred (cells table.names).toList " result".toList table.header.toList where
  whole := by
    rw [header, String.toList_append]
    rfl
  noneBefore := notMem_cells named bar_apart.1 (by decide)
  noneAfter := by decide

/-- The line of a row consists of its cells, one bar and its result. -/
theorem barred_rowLine (row : Row) :
    Barred (rowCells table.names row.assignment.values) [' ', truthChar row.result]
      (rowLine (table.names.map String.length) row).toList where
  whole := by
    have nonempty : ∀ name ∈ table.names, 0 < name.length := by
      intro name member
      rw [← String.length_toList]
      exact List.length_pos_of_ne_nil (named name member).nonempty
    have letter : (truthLetter row.result).toList = [truthChar row.result] := by
      cases row.result <;> decide
    rw [rowLine, String.toList_append, String.toList_append, toList_cells_letters _ _ nonempty, letter,
      List.append_assoc]
    rfl
  noneBefore := fun member => absurd (mem_rowCells _ _ _ member) (by decide)
  noneAfter := by cases row.result <;> decide

include columns

/-- Every line has its bar behind all columns, and no newline of its own. -/
theorem barred_line (line : List Char) (listed : line ∈ table.lines.map String.toList) :
    ∃ before after, Barred before after line ∧ before.length = barColumn table.names ∧
      '\n' ∉ line := by
  rw [lines, List.map_cons, List.mem_cons, List.map_map] at listed
  rcases listed with rfl | listed
  · have barred := barred_header named
    refine ⟨_, _, barred, length_cells table.names, barred.newline ?_ (by decide)⟩
    exact notMem_cells named bar_apart.2 (by decide)
  · obtain ⟨row, member, rfl⟩ := List.mem_map.mp listed
    have barred := barred_rowLine named row
    refine ⟨_, _, barred, length_rowCells _ _ ?_, barred.newline ?_ ?_⟩
    · rw [Assignment.length_values, columns row member]
    · exact fun newline => absurd (mem_rowCells _ _ _ newline) (by decide)
    · cases row.result <;> decide

/-- The printed form of a table whose columns are words can be read. -/
theorem legible_ofLines :
    table.Legible (table.lines.map String.toList) (ofLines table.lines) where
  ended := by
    rw [toList_ofLines]
    refine splitOn_lines _ ?_
    intro line listed
    obtain ⟨_, _, _, _, plain⟩ := barred_line named columns line listed
    exact plain
  count := by simp [lines, size]
  aligned := by
    intro line listed
    obtain ⟨before, after, barred, width, _⟩ := barred_line named columns line listed
    exact ⟨before, after, barred, width⟩
  header :=
    ⟨_, _, _, rfl, barred_header named, words_cells table.names named, prefix_cells table.names⟩
  rows := by
    intro index row here
    have complete : row.assignment.values.length = table.names.length := by
      rw [Assignment.length_values, columns row (List.mem_of_getElem? here)]
    refine ⟨_, _, ?_, barred_rowLine named row, getElem?_rowCells_nameColumn _ _ complete,
      getElem?_rowCells_between _ _ complete⟩
    simp [lines, here]

end Printed

/-! ## Reading back -/

/-- Different truth values have different letters. -/
theorem truthChar_inj {first second : Bool} (same : truthChar first = truthChar second) :
    first = second := by
  cases first <;> cases second <;> simp [truthChar] at same ⊢

/-- A row is told by the names and the values of its columns and by its result. -/
theorem row_eq {first second : Row} (names : first.assignment.names = second.assignment.names)
    (values : first.assignment.values = second.assignment.values)
    (result : first.result = second.result) : first = second := by
  obtain ⟨⟨entries⟩, firstResult⟩ := first
  obtain ⟨⟨otherEntries⟩, secondResult⟩ := second
  have zipped : entries = (otherEntries.map Prod.fst).zip (otherEntries.map Prod.snd) :=
    List.zip_of_prod names values
  have others : otherEntries = (otherEntries.map Prod.fst).zip (otherEntries.map Prod.snd) :=
    List.zip_of_prod rfl rfl
  obtain rfl : entries = otherEntries := zipped.trans others.symm
  obtain rfl : firstResult = secondResult := result
  rfl

/-- Tables with the same printed form are equal, if the columns of their rows are those of the table.

The lines are found by splitting at the newlines, and each can be divided at its bar in one way. The
names are the words of the first line. They give the places of the letters in the other lines, which
tell the values and the result of each row. -/
theorem Legible.table_eq {first second : Table} {lines otherLines : List (List Char)}
    {printed : String} (legible : first.Legible lines printed)
    (otherLegible : second.Legible otherLines printed)
    (columns : ∀ row ∈ first.rows, row.assignment.names = first.names)
    (otherColumns : ∀ row ∈ second.rows, row.assignment.names = second.names) :
    first = second := by
  obtain rfl : lines = otherLines :=
    List.append_cancel_right (legible.ended.symm.trans otherLegible.ended)
  obtain ⟨names, rows⟩ := first
  obtain ⟨otherNames, otherRows⟩ := second
  obtain rfl : names = otherNames := by
    obtain ⟨before, after, line, here, barred, words, _⟩ := legible.header
    obtain ⟨otherBefore, otherAfter, other, otherHere, otherBarred, otherWords, _⟩ :=
      otherLegible.header
    obtain rfl := Option.some.inj (here.symm.trans otherHere)
    obtain ⟨rfl, _⟩ := barred.unique otherBarred
    exact (List.map_inj_right fun _ _ => String.toList_inj.mp).mp (words.symm.trans otherWords)
  refine congrArg (Table.mk names) (List.ext_getElem ?_ ?_)
  · exact Nat.succ.inj (legible.count.symm.trans otherLegible.count)
  intro index inside otherInside
  have sameNames : rows[index].assignment.names = otherRows[index].assignment.names :=
    (columns _ (List.getElem_mem inside)).trans (otherColumns _ (List.getElem_mem otherInside)).symm
  obtain ⟨before, line, here, barred, letters, _⟩ :=
    legible.rows index rows[index] (List.getElem?_eq_getElem inside)
  obtain ⟨otherBefore, other, otherHere, otherBarred, otherLetters, _⟩ :=
    otherLegible.rows index otherRows[index] (List.getElem?_eq_getElem otherInside)
  obtain rfl := Option.some.inj (here.symm.trans otherHere)
  obtain ⟨rfl, ends⟩ := barred.unique otherBarred
  refine row_eq sameNames (List.ext_getElem ?_ ?_) (truthChar_inj ?_)
  · rw [Assignment.length_values, Assignment.length_values, sameNames]
  · intro place valued otherValued
    have letter := letters place _ (List.getElem?_eq_getElem valued)
    rw [otherLetters place _ (List.getElem?_eq_getElem otherValued)] at letter
    exact (truthChar_inj (Option.some.inj letter)).symm
  · simpa using ends

/-! ## Tables of texts -/

/-- A table is printed if no name is too long for a column. -/
theorem text_eq_ok {table : Table} (short : ∀ name ∈ table.names, name.length ≤ maxWidth) :
    table.text = .ok (ofLines table.lines) := by
  refine if_pos (List.all_eq_true.mpr ?_)
  intro name member
  exact decide_eq_true (short name member)

/-- A table with a name that is too long for a column is not printed. -/
theorem text_eq_error {table : Table} (long : ∃ name ∈ table.names, maxWidth < name.length) :
    table.text = .error .columnTooWide := by
  obtain ⟨name, member, wide⟩ := long
  refine if_neg ?_
  intro every
  exact absurd (of_decide_eq_true (List.all_eq_true.mp every name member)) (Nat.not_le_of_lt wide)

/-- What is printed of a table are its lines. -/
theorem eq_ofLines_of_text {table : Table} {printed : String} (prints : table.text = .ok printed) :
    printed = ofLines table.lines := by
  unfold Table.text at prints
  split at prints
  · exact (Except.ok.inj prints).symm
  · simp at prints

/-- The columns of every row are those of the table. -/
theorem IsOf.columns {formula : Formula} {table : Table} (isOf : table.IsOf formula) :
    table.names = formula.names ∧ table.size = 2 ^ formula.names.length ∧
      ∀ row ∈ table.rows, row.assignment.names = table.names := by
  obtain rfl := Except.ok.inj ((ofSentence_eq_rows formula).symm.trans isOf.complete)
  refine ⟨rfl, formula.length_rows, ?_⟩
  intro row member
  obtain ⟨index, _, rfl⟩ := (formula.mem_rows row).mp member
  exact formula.names_row index

/-- The columns of the table of a text are words. -/
theorem IsOf.isWord {text : String} {sentence : Sentence} {table : Table}
    (accepted : Sentence.parse text = .ok sentence) (isOf : table.IsOf sentence.formula) :
    ∀ name ∈ table.names, IsWord name.toList := by
  intro name member
  rw [isOf.columns.1, Formula.mem_names] at member
  obtain ⟨tokens, tokenized, read⟩ := Sentence.exists_tokens_of_parse accepted
  exact (Sentence.identifier_of_ofTokens tokenized read name member).word

/-- The printed form of the table of a text can be read, since its names are words. -/
theorem IsOf.legible {text : String} {sentence : Sentence} {table : Table}
    (accepted : Sentence.parse text = .ok sentence) (isOf : table.IsOf sentence.formula) :
    table.Legible (table.lines.map String.toList) (ofLines table.lines) :=
  legible_ofLines (isOf.isWord accepted) isOf.columns.2.2

/-- The table of a text is told by what is printed of it. Its printed form has one line for the names
and one for each of the `2 ^ n` rows. The bars stand below one another, behind the columns of all names;
the words in front of the first bar are the names, each in its column; and a row has the letters of its
values below the names, spaces elsewhere, and the letter of its result at the end of the line. So if the
tables of two texts are printed alike, they are equal. A table is printed exactly if none of its names
has more than `maxWidth` characters. -/
theorem text_is_legible (text : String) (sentence : Sentence)
    (accepted : Sentence.parse text = .ok sentence) :
    (∃ (table : Table) (lines : List (List Char)) (printed : String),
      table.IsOf sentence.formula ∧ table.names = sentence.names ∧
      table.size = 2 ^ sentence.names.length ∧ table.Legible lines printed ∧
      ((∀ name ∈ sentence.names, name.length ≤ maxWidth) → table.text = .ok printed) ∧
      ((∃ name ∈ sentence.names, maxWidth < name.length) →
        table.text = .error .columnTooWide)) ∧
    ∀ (other : String) (otherSentence : Sentence) (table otherTable : Table) (printed : String),
      Sentence.parse other = .ok otherSentence →
      table.IsOf sentence.formula → otherTable.IsOf otherSentence.formula →
      table.text = .ok printed → otherTable.text = .ok printed → table = otherTable := by
  constructor
  · have isOf := isOf_rows sentence.formula
    have names : sentence.formula.names = sentence.names := sentence.names_eq.symm
    refine ⟨_, _, _, isOf, names, ?_, isOf.legible accepted, ?_, ?_⟩
    · rw [← names]
      exact isOf.columns.2.1
    · intro short
      exact text_eq_ok (names ▸ short)
    · intro long
      exact text_eq_error (names ▸ long)
  · intro other otherSentence table otherTable printed otherAccepted isOf otherIsOf prints
      otherPrints
    have legible := isOf.legible accepted
    have otherLegible := otherIsOf.legible otherAccepted
    rw [← eq_ofLines_of_text prints] at legible
    rw [← eq_ofLines_of_text otherPrints] at otherLegible
    exact legible.table_eq otherLegible isOf.columns.2.2 otherIsOf.columns.2.2

/-- The second column is two characters wide, however many bytes its name has. -/
theorem text_is_legible_in_two_columns :
    ∃ (table : Table) (lines : List (List Char)),
      Sentence.parse "p and é1" = .ok (.ofFormula (.binary .and (.var "p") (.var "é1"))) ∧
      table.text = .ok "p é1 | result\nF F  | F\nF T  | F\nT F  | F\nT T  | T\n" ∧
      table.Legible lines "p é1 | result\nF F  | F\nF T  | F\nT F  | F\nT T  | T\n" := by
  have accepted : Sentence.parse "p and é1"
      = .ok (.ofFormula (.binary .and (.var "p") (.var "é1"))) := by
    decide +kernel
  obtain ⟨table, lines, printed, isOf, _, _, legible, prints, _⟩ :=
    (text_is_legible _ _ accepted).1
  have short : ∀ name ∈ ["p", "é1"], name.length ≤ maxWidth := by decide
  have shown := prints short
  obtain rfl := Except.ok.inj ((ofSentence_eq_rows _).symm.trans isOf.complete)
  have known : Table.text ⟨["p", "é1"], Formula.rows (.binary .and (.var "p") (.var "é1"))⟩
      = .ok "p é1 | result\nF F  | F\nF T  | F\nT F  | F\nT T  | T\n" := by
    decide +kernel
  obtain rfl := Except.ok.inj (shown.symm.trans known)
  exact ⟨_, lines, accepted, known, legible⟩

/-- A run of more than three letters is an identifier: no reserved word is as long. -/
theorem isIdentifier_replicate {count : Nat} (long : 3 < count) :
    IsIdentifier (String.ofList (List.replicate count 'a')) := by
  have letters : ∀ c ∈ List.replicate count 'a', c = 'a' :=
    fun c member => List.eq_of_mem_replicate member
  refine ⟨⟨?_, ?_, ?_⟩, ?_⟩ <;> rw [String.toList_ofList]
  · intro empty
    have none := congrArg List.length empty
    rw [List.length_replicate, List.length_nil] at none
    omega
  · intro c member
    rw [letters c member]
    decide
  · intro c first
    rw [letters c (List.mem_of_mem_head? first)]
    decide
  · intro keyword reserved
    have same := congrArg List.length reserved
    rw [List.length_map, List.length_replicate] at same
    have short : keyword.word.toList.length ≤ 3 := by
      cases keyword with
      | not => decide
      | binary connective => cases connective <;> decide
    omega

/-- A text that consists of one name is a sentence, however long the name is. -/
theorem parse_replicate {count : Nat} (long : 3 < count) :
    Sentence.parse (String.ofList (List.replicate count 'a'))
      = .ok (.ofFormula (.var (String.ofList (List.replicate count 'a')))) := by
  have accepted := Sentence.parse_written (.var (String.ofList (List.replicate count 'a'))) rfl
    (show 1 ≤ maxHeight by decide) (by
      intro name occurs
      rw [List.mem_singleton.mp occurs]
      exact isIdentifier_replicate long)
  rwa [Formula.written, String.toList_ofList] at accepted

/-- A name of one character more than a column can be wide is a sentence whose table has two rows. The
table is built, but has no printed form, and so none that could be read. -/
theorem no_text_of_wide_column :
    ∃ (sentence : Sentence) (table : Table),
      Sentence.parse (String.ofList (List.replicate 65536 'a')) = .ok sentence ∧
      build sentence = .ok table ∧ table.size = 2 ∧ table.text = .error .columnTooWide ∧
      ¬ ∃ lines printed, table.text = .ok printed ∧ table.Legible lines printed := by
  have isOf := isOf_rows (.var (String.ofList (List.replicate 65536 'a')))
  have refused := @text_eq_error ⟨_, Formula.rows (.var (String.ofList (List.replicate 65536 'a')))⟩
    ⟨String.ofList (List.replicate 65536 'a'), List.mem_singleton_self _, by
      rw [← String.length_toList, String.toList_ofList, List.length_replicate]
      decide⟩
  refine ⟨_, _, parse_replicate (by decide), isOf.built, isOf.columns.2.1, refused, ?_⟩
  rintro ⟨lines, printed, prints, _⟩
  exact absurd (refused.symm.trans prints) (by simp)

end Table

end Sentential
