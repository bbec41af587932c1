import Sentential.CommandLine
import Sentential.CommandLine.Seconds
import Sentential.Proofs.Messages
import Sentential.Proofs.PrintedTable

/-!
# Both ways of showing a table agree

A call shows all rows of a table, or the true ones only. What it prints consists of complete lines, which
can be told apart since none has a newline of its own. The lines that describe the sentence, the line that
counts the true rows and the verdict are the same both ways, apart from the time in the count. Four
numbers agree with one another: the number of rows that is announced, that of the lines for the rows, the
count of the true rows, and that of the lines that end like a true row. The lines for the true rows alone
give the assignments of just these rows, in their order.

The exit code is zero if the report is complete. It is not complete if the expression is malformed, if it
has too many variables, or if memory cannot address the rows of its table. Besides, a report on all rows
breaks off where a name is too long to be the head of a column. The report on the true rows has no columns
and is complete even then.

None of this depends on how the arguments are read, nor on the log. Its records stand between the lines of
a report, as far as they were asked for, and a call that does not ask for them prints nothing but the report.
-/

namespace Sentential

open Text

/-! ## Lines -/

namespace Text

/-- The text has no newline. -/
def Unbroken (text : String) : Prop := '\n' ∉ text.toList

instance (text : String) : Decidable (Unbroken text) :=
  inferInstanceAs (Decidable ('\n' ∉ text.toList))

/-- The text consists of these lines, each with a newline behind it and none within. -/
def HasLines (text : String) (lines : List String) : Prop :=
  text.toList.splitOn '\n' = lines.map String.toList ++ [[]]

/-- Lines that are unbroken are found again in their text. -/
theorem hasLines_ofLines {lines : List String} (unbroken : ∀ line ∈ lines, Unbroken line) :
    HasLines (ofLines lines) lines := by
  rw [HasLines, Table.toList_ofLines]
  apply Table.splitOn_lines
  intro letters listed
  obtain ⟨line, member, rfl⟩ := List.mem_map.mp listed
  exact unbroken line member

@[simp] theorem unbroken_append (front back : String) :
    Unbroken (front ++ back) ↔ Unbroken front ∧ Unbroken back := by
  simp [Unbroken]

@[simp] theorem unbroken_repr (number : Nat) : Unbroken number.repr := by
  intro newline
  rw [← Nat.toString_eq_repr] at newline
  exact absurd (isDigit_of_mem_toString newline) (by decide)

@[simp] theorem unbroken_truthLetter (value : Bool) : Unbroken (truthLetter value) := by
  cases value <;> decide

/-- A word is unbroken. -/
theorem unbroken_of_isWord {name : String} (isWord : Segmentation.IsWord name.toList) :
    Unbroken name := by
  intro newline
  exact absurd (isWord.characters _ newline) (by decide)

/-- Unbroken parts are unbroken when joined by spaces. -/
theorem unbroken_intercalate {parts : List String} (unbroken : ∀ part ∈ parts, Unbroken part) :
    Unbroken (" ".intercalate parts) := by
  induction parts with
  | nil => decide
  | cons part parts inductionHypothesis =>
    have first := unbroken part List.mem_cons_self
    have later := inductionHypothesis fun other member => unbroken other (List.mem_cons_of_mem _ member)
    cases parts with
    | nil => simpa using first
    | cons next parts =>
      rw [String.intercalate_cons_cons]
      simp +decide [first, later]

end Text

/-- The text of a formula is unbroken if its variables are. -/
theorem Formula.unbroken_text (formula : Formula)
    (unbroken : ∀ name ∈ formula.occurrences, Unbroken name) : Unbroken formula.text := by
  induction formula with
  | var name => exact unbroken name (by simp [occurrences])
  | not operand operandHypothesis =>
    have inner := operandHypothesis unbroken
    simp +decide [text, inner]
  | binary connective left right leftHypothesis rightHypothesis =>
    have first := leftHypothesis fun name occurs => unbroken name (List.mem_append_left _ occurs)
    have second := rightHypothesis fun name occurs => unbroken name (List.mem_append_right _ occurs)
    have word : Unbroken connective.word := by cases connective <;> decide
    simp +decide [text, first, second, word]
  | paren inner innerHypothesis =>
    have inside := innerHypothesis unbroken
    simp +decide [text, inside]

/-- The text of an assignment is unbroken if its names are. -/
theorem Assignment.unbroken_text (assignment : Assignment)
    (unbroken : ∀ name ∈ assignment.names, Unbroken name) : Unbroken assignment.text := by
  apply unbroken_intercalate
  intro part listed
  obtain ⟨entry, member, rfl⟩ := List.mem_map.mp listed
  have name := unbroken entry.1 (List.mem_map_of_mem member)
  simp +decide [name]

namespace Table

/-- All rows are true if as many are true as there are. -/
theorem isTautology_iff (table : Table) :
    table.isTautology = true ↔ table.satisfyingCount = table.size := by
  simp [isTautology, results, satisfyingCount, satisfying, size]

/-- No row is true if the number of true rows is zero. -/
theorem isContradiction_iff (table : Table) :
    table.isContradiction = true ↔ table.satisfyingCount = 0 := by
  simp [isContradiction, results, satisfyingCount, satisfying]

end Table

namespace CommandLine

/-! ## Complete reports -/

/-- The two lines that describe a sentence. -/
def heading (sentence : Sentence) : List String :=
  ["expr = " ++ sentence.formula.text ++ " (size " ++ toString sentence.formula.size ++ ", depth "
      ++ toString sentence.formula.height ++ ")",
    "rows = " ++ toString (2 ^ sentence.names.length)]

/-- The lines of a complete report on a sentence that has `count` true rows, if the table is shown by the
lines `shown`. -/
def page (sentence : Sentence) (shown : List String) (count : Nat) (elapsed : String) : List String :=
  heading sentence ++ shown ++
    (toString count ++ " of " ++ toString (2 ^ sentence.names.length)
      ++ " rows satisfy the expression (" ++ elapsed ++ " s)") ::
    if count = 2 ^ sentence.names.length then ["The expression is a tautology"]
    else if count = 0 then ["The expression is a contradiction"]
    else []

/-- Whether a line ends like that of a true row. -/
def endsTrue (line : String) : Bool := "| T".toList.isSuffixOf line.toList

/-- What lines for all rows of the table of a sentence and lines for the true rows have in common. -/
structure Agreement (sentence : Sentence) (table : Table) (rows trueRows : List String)
    (count : Nat) : Prop where
  /-- It is the table of the sentence. -/
  isOf : table.IsOf sentence.formula
  /-- There is a line for each row, and there are as many as the description says. -/
  size : rows.length = 2 ^ sentence.names.length ∧ table.size = 2 ^ sentence.names.length
  /-- The line of a row ends as its result demands. -/
  results : rows.map endsTrue = table.results
  /-- The lines that end like a true row are as many as are counted. -/
  marked : (rows.filter endsTrue).length = count ∧ table.satisfyingCount = count
  /-- The lines for the true rows give the assignments of the rows whose lines end like that. -/
  assignments : trueRows = ((table.rows.zip rows).filter fun shown => endsTrue shown.2).map
    fun shown => shown.1.assignment.text
  /-- These lines are as many as well. -/
  listed : trueRows.length = count
  /-- The table is a tautology if all rows are counted, and a contradiction if none is. -/
  verdict : (table.isTautology = true ↔ count = 2 ^ sentence.names.length) ∧
    (table.isContradiction = true ↔ count = 0)

/-- The line of a row shows by its end whether the row is true. -/
theorem endsTrue_rowLine (widths : List Nat) (row : Row) :
    endsTrue (Table.rowLine widths row) = row.result := by
  obtain ⟨assignment, result⟩ := row
  rw [Bool.eq_iff_iff, endsTrue, List.isSuffixOf_iff_suffix, Table.rowLine]
  simp only [String.toList_append, List.append_assoc]
  cases result with
  | true => exact iff_of_true (List.suffix_append _ _) rfl
  | false =>
    -- The last three characters of the line are a bar, a space and the other letter.
    refine iff_of_false ?_ Bool.false_ne_true
    rintro ⟨front, same⟩
    have ends := (List.append_inj' same rfl).2
    exact absurd ends (by decide)

/-- Among rows and their lines, those whose lines end like a true row are the true rows. -/
theorem filter_endsTrue (rows : List Row) (line : Row → String)
    (shows : ∀ row, endsTrue (line row) = row.result) :
    ((rows.zip (rows.map line)).filter fun shown => endsTrue shown.2)
      = (rows.filter Row.result).map fun row => (row, line row) := by
  have paired : rows.zip (rows.map line) = rows.map fun row => (row, line row) := by
    simpa using List.zip_map' (l := rows) (f := id) (g := line)
  rw [paired, List.filter_map]
  congr 1
  apply List.filter_congr
  intro row _
  exact shows row

/-- The records of the log are no lines of the report. -/
theorem linesOf_log (options : Options) (events : List Event) :
    Output.linesOf (options.log events) = [] := Output.linesOf_records _

/-- The lines before the table is built describe the sentence. -/
theorem linesOf_opening (options : Options) (sentence : Sentence) :
    Output.linesOf (options.opening sentence) = heading sentence := by
  rw [Options.opening, Output.linesOf_append, linesOf_log, Output.linesOf_lines]
  rfl

/-- The lines of a report on a table begin with the description of its sentence. -/
theorem lines_tableReport_eq_append (options : Options) (elapsed : String) (sentence : Sentence)
    (table : Table) (shown : List String) :
    (options.tableReport elapsed sentence table shown).lines
      = heading sentence ++ (shown ++ summary elapsed table :: verdict table) := by
  simp only [Options.tableReport, Report.lines, Output.linesOf_append, Output.linesOf_lines,
    linesOf_opening, linesOf_log, List.append_nil]

section Tabulated

variable {sentence : Sentence} {table : Table} (isOf : table.IsOf sentence.formula)

include isOf

/-- The table has as many rows as the description of the sentence says. -/
theorem size_of_isOf : table.size = 2 ^ sentence.names.length := by
  rw [sentence.names_eq]
  exact isOf.columns.2.1

/-- Lines for all rows of a table agree with the assignments of its true rows. -/
theorem agreement_of_isOf (widths : List Nat) :
    Agreement sentence table (table.rows.map (Table.rowLine widths))
      (table.satisfying.map fun row => row.assignment.text) table.satisfyingCount where
  isOf := isOf
  size := ⟨by rw [List.length_map]; exact size_of_isOf isOf, size_of_isOf isOf⟩
  results := by simp [Table.results, Function.comp_def, endsTrue_rowLine]
  marked := by
    refine ⟨?_, rfl⟩
    simp [List.filter_map, Function.comp_def, endsTrue_rowLine, Table.satisfyingCount,
      Table.satisfying]
  assignments := by
    rw [filter_endsTrue _ _ (endsTrue_rowLine widths), List.map_map]
    rfl
  listed := List.length_map _
  verdict := by
    rw [Table.isTautology_iff, size_of_isOf isOf]
    exact ⟨Iff.rfl, table.isContradiction_iff⟩

/-- The lines of a report on a table are those of a complete report. -/
theorem lines_tableReport (options : Options) (elapsed : String) (shown : List String) :
    (options.tableReport elapsed sentence table shown).lines
      = page sentence shown table.satisfyingCount elapsed := by
  have size := size_of_isOf isOf
  simp only [lines_tableReport_eq_append, summary, verdict, table.isTautology_iff,
    table.isContradiction_iff, size, page, List.append_assoc]

end Tabulated

/-- Zeros are unbroken, however many there are. -/
theorem unbroken_zeros (count : Nat) : Unbroken ("".pushn '0' count) := by
  rw [String.pushn_eq_repeat_push]
  induction count with
  | zero => decide
  | succ count inductionHypothesis =>
    rw [Nat.repeat]
    simpa [Unbroken] using inductionHypothesis

/-- Seconds are unbroken. -/
theorem unbroken_seconds (milliseconds : Nat) : Unbroken (seconds milliseconds) := by
  unfold seconds
  simp +decide [unbroken_zeros]

/-- The lines that describe a sentence are unbroken if its variables are words. -/
theorem unbroken_heading {sentence : Sentence}
    (unbroken : ∀ name ∈ sentence.formula.occurrences, Unbroken name) :
    ∀ line ∈ heading sentence, Unbroken line := by
  have formula := sentence.formula.unbroken_text unbroken
  simp +decide [heading, formula]

/-- So are the lines of a complete report, if those that show the table are. -/
theorem unbroken_page {sentence : Sentence} {shown : List String} {elapsed : String} (count : Nat)
    (unbroken : ∀ name ∈ sentence.formula.occurrences, Unbroken name)
    (shownUnbroken : ∀ line ∈ shown, Unbroken line) (time : Unbroken elapsed) :
    ∀ line ∈ page sentence shown count elapsed, Unbroken line := by
  intro line listed
  rw [page, List.mem_append, List.mem_append, List.mem_cons] at listed
  rcases listed with (first | inside) | rfl | last
  · exact unbroken_heading unbroken line first
  · exact shownUnbroken line inside
  · simp +decide [time]
  · split_ifs at last
    · obtain rfl := List.mem_singleton.mp last
      decide
    · obtain rfl := List.mem_singleton.mp last
      decide
    · exact absurd last List.not_mem_nil

/-! ## Reports on findings -/

/-- The report ends with the given code and has printed these lines, and nothing else. -/
def Leaves (report : Report) (code : Nat) (lines : List String) : Prop :=
  report.exitCode = code ∧ HasLines report.text lines

/-- What the report has printed begins with these lines. -/
def Begins (report : Report) (lines : List String) : Prop :=
  (ofLines lines).toList <+: report.text.toList

/-- The sentence that was found. -/
def Finding.sentence? : Finding → Option Sentence
  | .malformed _ => none
  | .untabulated sentence _ => some sentence
  | .tabulated sentence _ => some sentence

/-- Once there is a sentence, it is described first, whatever comes of its table. -/
theorem begins_report {finding : Finding} {sentence : Sentence}
    (found : finding.sentence? = some sentence) (options : Options) (elapsed : String) :
    Begins (options.reportOn elapsed finding) (heading sentence) := by
  have described : ∃ further,
      (options.reportOn elapsed finding).lines = heading sentence ++ further := by
    cases finding with
    | malformed error => exact absurd found (by simp [Finding.sentence?])
    | untabulated other failure =>
      obtain rfl := Option.some.inj found
      refine ⟨[], ?_⟩
      simp only [Options.reportOn, Report.lines, Output.linesOf_append, linesOf_opening,
        linesOf_log]
    | tabulated other table =>
      obtain rfl := Option.some.inj found
      rw [Options.reportOn]
      split
      · exact ⟨_, lines_tableReport_eq_append options elapsed other table _⟩
      · split
        · exact ⟨_, lines_tableReport_eq_append options elapsed other table _⟩
        · refine ⟨[], ?_⟩
          simp only [Report.lines, Output.linesOf_append, linesOf_opening, linesOf_log]
  obtain ⟨further, lines⟩ := described
  rw [Begins, Report.text, lines, ofLines, ofLines, List.map_append, String.join_append,
    String.append_assoc, String.toList_append]
  exact List.prefix_append _ _

section Accepted

variable {expression : String} {sentence : Sentence}
  (accepted : Sentence.parse expression = .ok sentence)

include accepted

/-- The variables of an accepted text are unbroken. -/
theorem unbroken_of_parse : ∀ name ∈ sentence.formula.occurrences, Unbroken name := by
  intro name occurs
  have isWord := (Table.isOf_rows sentence.formula).isWord accepted
  exact unbroken_of_isWord (isWord name ((Formula.mem_names _ _).mpr occurs))

/-- Without a table, nothing is printed but the description of the sentence. -/
theorem leaves_untabulated (failure : Failure) (options : Options) (elapsed : String) :
    Leaves (options.reportOn elapsed (.untabulated sentence failure)) (failureCode failure)
      (heading sentence) := by
  have printed : (options.reportOn elapsed (.untabulated sentence failure)).text
      = ofLines (heading sentence) := by
    simp only [Options.reportOn, Report.text, Report.lines, Output.linesOf_append,
      linesOf_opening, linesOf_log, List.append_nil, String.append_empty]
  refine ⟨rfl, ?_⟩
  rw [printed]
  exact hasLines_ofLines (unbroken_heading (unbroken_of_parse accepted))

section Tabulated

variable {table : Table} (isOf : table.IsOf sentence.formula) {options : Options}
  {elapsed : String} (time : Unbroken elapsed)

include isOf time

/-- A report that shows the table by unbroken lines is complete. -/
theorem leaves_tableReport {shown : List String} (shownUnbroken : ∀ line ∈ shown, Unbroken line) :
    Leaves (options.tableReport elapsed sentence table shown) 0
      (page sentence shown table.satisfyingCount elapsed) := by
  have printed : (options.tableReport elapsed sentence table shown).text
      = ofLines (page sentence shown table.satisfyingCount elapsed) := by
    rw [← lines_tableReport isOf options]
    exact String.append_empty
  refine ⟨rfl, ?_⟩
  rw [printed]
  exact hasLines_ofLines (unbroken_page _ (unbroken_of_parse accepted) shownUnbroken time)

/-- The report on the true rows is complete. It has a line of the names and one for each true row. -/
theorem leaves_trueRows (asked : options.onlyTrue = true) :
    Leaves (options.reportOn elapsed (.tabulated sentence table)) 0
      (page sentence (" ".intercalate sentence.names
        :: table.satisfying.map fun row => row.assignment.text) table.satisfyingCount elapsed) := by
  obtain ⟨names, _, columns⟩ := isOf.columns
  have named : ∀ name ∈ table.names, Unbroken name := by
    intro name member
    rw [names, Formula.mem_names] at member
    exact unbroken_of_parse accepted name member
  rw [Options.reportOn, if_pos asked, sentence.names_eq, ← names]
  refine leaves_tableReport accepted isOf time ?_
  intro line listed
  rcases List.mem_cons.mp listed with rfl | later
  · exact unbroken_intercalate named
  · obtain ⟨row, member, rfl⟩ := List.mem_map.mp later
    apply Assignment.unbroken_text
    rw [columns row (List.mem_of_mem_filter member)]
    exact named

/-- The report on all rows is complete if the table has a printed form, and shows this form. -/
theorem leaves_lines (asked : options.onlyTrue = false) {printed : String}
    (prints : table.text = .ok printed) :
    Leaves (options.reportOn elapsed (.tabulated sentence table)) 0
      (page sentence table.lines table.satisfyingCount elapsed) := by
  have complete : options.reportOn elapsed (.tabulated sentence table)
      = options.tableReport elapsed sentence table table.lines := by
    simp [Options.reportOn, asked, prints]
  rw [complete]
  refine leaves_tableReport accepted isOf time ?_
  intro line listed
  obtain ⟨_, _, _, _, unbroken⟩ := Table.barred_line (isOf.isWord accepted) isOf.columns.2.2 line.toList
    (List.mem_map_of_mem listed)
  exact unbroken

end Tabulated

end Accepted

/-- Without a printed form, the report on all rows breaks off. -/
theorem exitCode_of_breach {options : Options} (asked : options.onlyTrue = false)
    {sentence : Sentence} {table : Table} {breach : ContractViolation}
    (refused : table.text = .error breach) (elapsed : String) :
    (options.reportOn elapsed (.tabulated sentence table)).exitCode = 101 := by
  simp [Options.reportOn, asked, refused, failureCode]

/-- What an expression that is accepted leads to: there are more variables than the limit allows, or
there is a table, or memory cannot address its rows. -/
theorem finding_cases {expression : String} {sentence : Sentence}
    (accepted : Sentence.parse expression = .ok sentence) (limit : VariableLimit) :
    (∃ most, limit = .atMost most ∧ most < sentence.names.length ∧
      Finding.ofText limit expression
        = .untabulated sentence (.tooManyVariables sentence.names.length most)) ∨
    (∀ most, limit = .atMost most → sentence.names.length ≤ most) ∧
      ((2 ^ sentence.names.length ≤ Table.maxRows ∧
          ∃ table : Table, table.IsOf sentence.formula ∧
            Finding.ofText limit expression = .tabulated sentence table) ∨
        (Table.maxRows < 2 ^ sentence.names.length ∧
          Finding.ofText limit expression = .untabulated sentence (.violation .tooManyRows))) := by
  rcases Table.within_cases limit sentence with
    ⟨most, limited, exceeded, refused⟩ | ⟨kept, ⟨addressed, built⟩ | ⟨unaddressed, refused⟩⟩
  · refine .inl ⟨most, limited, exceeded, ?_⟩
    simp only [Finding.ofText, accepted, refused]
  · refine .inr ⟨kept, .inl ⟨addressed, _, Table.isOf_rows sentence.formula, ?_⟩⟩
    simp only [Finding.ofText, accepted, built]
  · refine .inr ⟨kept, .inr ⟨unaddressed, ?_⟩⟩
    simp only [Finding.ofText, accepted, refused]

/-- The sentence that is found is the one that the expression spells. -/
theorem sentence?_finding {expression : String} {sentence : Sentence}
    (accepted : Sentence.parse expression = .ok sentence) (limit : VariableLimit) :
    (Finding.ofText limit expression).sentence? = some sentence := by
  rcases finding_cases accepted limit with
    ⟨_, _, _, found⟩ | ⟨_, ⟨_, _, _, found⟩ | ⟨_, found⟩⟩ <;>
  simp [found, Finding.sentence?]

/-! ## Limits -/

namespace Options

/-- The limit keeps a sentence from its table if it is in force and allows fewer variables: the
number that was given, or else the standard one. -/
theorem exceeds_limit_iff (options : Options) (count : Nat) :
    (∃ most, options.limit = .atMost most ∧ most < count) ↔
      options.unbounded = false ∧ options.mostVariables.getD 20 < count := by
  cases free : options.unbounded <;> simp [limit, free, VariableLimit.standardCount]

/-- The limit allows as many variables if it is not in force, or if they are no more than the number
that was given, or else the standard one. -/
theorem keeps_limit_iff (options : Options) (count : Nat) :
    (∀ most, options.limit = .atMost most → count ≤ most) ↔
      options.unbounded = true ∨ count ≤ options.mostVariables.getD 20 := by
  cases free : options.unbounded <;> simp [limit, free, VariableLimit.standardCount]

end Options

/-! ## The log -/

/-- Of the log, the records of those events are printed that are shown. -/
theorem recordsOf_log (options : Options) (events : List Event) :
    Output.recordsOf (options.log events) = options.shown events := Output.recordsOf_records _

/-- The records before the table is built are those of the tokens and of the sentence. -/
theorem recordsOf_opening (options : Options) (sentence : Sentence) :
    Output.recordsOf (options.opening sentence) = options.shown
      (Event.ofTokens options.expression ++ [.sentenceParsed options.expression sentence]) := by
  rw [Options.opening, Output.recordsOf_append, recordsOf_log, Output.recordsOf_lines,
    List.append_nil]

/-- The records of a call whose table is built are those of its tokens, of its sentence and of its
table, as far as they are shown, whether the table can be printed or not. -/
theorem records_of_tabulated {options : Options} {sentence : Sentence} {table : Table}
    (found : options.finding = .tabulated sentence table) (elapsed : String) :
    (options.report elapsed).records = options.shown
      (Event.ofTokens options.expression ++ [.sentenceParsed options.expression sentence]
        ++ Event.ofTable sentence table) := by
  have records : ∀ rest : List String,
      Output.recordsOf (options.opening sentence ++ options.log (Event.ofTable sentence table)
          ++ rest.map Output.line)
        = options.shown (Event.ofTokens options.expression
          ++ [.sentenceParsed options.expression sentence] ++ Event.ofTable sentence table) := by
    intro rest
    rw [Output.recordsOf_append, Output.recordsOf_append, recordsOf_opening, recordsOf_log,
      Output.recordsOf_lines, List.append_nil, Options.shown_append _ _ (Event.ofTable _ _)]
  rw [Options.report, found, Options.reportOn]
  split
  · exact records _
  · split
    · exact records _
    · simpa [Report.records] using records []

/-- The records of a call are all of a detail that was asked for. -/
theorem showsDetail_of_mem_records (options : Options) (elapsed : String) :
    ∀ event ∈ (options.report elapsed).records,
      showsDetail options.verbosity event.detail = true := by
  have ofShown : ∀ events, ∀ event ∈ options.shown events,
      showsDetail options.verbosity event.detail = true :=
    fun events event member => (List.mem_filter.mp member).2
  intro event member
  cases found : options.finding with
  | malformed error =>
    rw [Options.report, found, Options.reportOn, Report.records, recordsOf_log] at member
    exact ofShown _ event member
  | untabulated sentence failure =>
    rw [Options.report, found, Options.reportOn, Report.records, Output.recordsOf_append,
      recordsOf_opening, recordsOf_log, List.mem_append] at member
    exact member.elim (ofShown _ event) (ofShown _ event)
  | tabulated sentence table =>
    rw [records_of_tabulated found] at member
    exact ofShown _ event member

/-- If the log was not asked for, the text of the report is all that is printed. -/
theorem printed_of_quiet {options : Options} (quiet : options.verbosity = 0) {elapsed : String}
    {setOut : Event → String} :
    (options.report elapsed).printed setOut = (options.report elapsed).text := by
  apply Report.printed_eq_text
  apply List.eq_nil_iff_forall_not_mem.mpr
  intro event member
  have shown := showsDetail_of_mem_records options elapsed event member
  rw [quiet] at shown
  exact Bool.noConfusion shown

/-- If all of the log was asked for, an accepted expression whose table is built leaves a record of
each of its tokens, one of the sentence, and those of its table, among them one of each row. -/
theorem records_of_traced {options : Options} (traced : 2 ≤ options.verbosity)
    {tokens : List Located} (tokenized : tokenize options.expression = .ok tokens)
    {sentence : Sentence} {table : Table}
    (found : options.finding = .tabulated sentence table) (elapsed : String) :
    (options.report elapsed).records =
      tokens.map .tokenRead ++ [.sentenceParsed options.expression sentence]
        ++ .tableBegun sentence :: table.rows.map .rowBuilt ++ [.tableBuilt table] := by
  have all : ∀ events, options.shown events = events := by
    intro events
    obtain ⟨more, verbosity⟩ := Nat.exists_eq_add_of_le' traced
    apply List.filter_eq_self.mpr
    intro event _
    rw [verbosity]
    rfl
  rw [records_of_tabulated found, all, Event.ofTokens,
    readTokens_of_tokenize tokenized, Event.ofTable]
  simp

/-- If the log was asked for once, tokens and rows leave no records of their own. -/
theorem records_of_outlined {options : Options} (outlined : options.verbosity = 1)
    {sentence : Sentence} {table : Table}
    (found : options.finding = .tabulated sentence table) (elapsed : String) :
    (options.report elapsed).records =
      [.sentenceParsed options.expression sentence, .tableBegun sentence, .tableBuilt table] := by
  have tokens : options.shown (Event.ofTokens options.expression) = [] := by
    simp [Options.shown, outlined, Event.ofTokens, Event.detail, showsDetail]
  have built : options.shown (Event.ofTable sentence table)
      = [.tableBegun sentence, .tableBuilt table] := by
    simp [Options.shown, outlined, Event.ofTable, Event.detail, showsDetail]
  have parsed : options.shown [.sentenceParsed options.expression sentence]
      = [.sentenceParsed options.expression sentence] := by
    simp [Options.shown, outlined, Event.detail, showsDetail]
  rw [records_of_tabulated found, Options.shown_append, Options.shown_append, tokens, parsed, built]
  simp

/-! ## Both ways -/

/-- A call is answered by the report on the options that its arguments are read as. -/
theorem program_eq_report {read : List String → Except Stop Options} {arguments : List String}
    {options : Options} (asked : read arguments = .ok options) (elapsed : String) :
    program read arguments elapsed = options.report elapsed := by
  rw [program, asked]

/-- A malformed expression is refused with nothing printed. -/
theorem leaves_malformed {options : Options} {error : SyntaxError}
    (refused : Sentence.parse options.expression = .error error) {elapsed : String} :
    Leaves (options.report elapsed) 1 [] := by
  have found : options.finding = .malformed error := by
    simp only [Options.finding, Finding.ofText, refused]
  have printed : (options.reportOn elapsed (.malformed error)).text = "" := by
    simp only [Options.reportOn, Report.text, Report.lines, linesOf_log, String.append_empty]
    rfl
  rw [Options.report, found]
  refine ⟨rfl, ?_⟩
  rw [printed]
  rfl

section Accepted

variable {options : Options} {sentence : Sentence}
  (accepted : Sentence.parse options.expression = .ok sentence) {elapsed : String}

include accepted

/-- The report on an accepted expression begins with the description of its sentence. -/
theorem begins_of_parse : Begins (options.report elapsed) (heading sentence) :=
  begins_report (sentence?_finding accepted options.limit) options elapsed

/-- Nothing else is printed if there are more variables than the limit in force allows. -/
theorem leaves_exceeding (limited : options.unbounded = false)
    (exceeded : options.mostVariables.getD 20 < sentence.names.length) :
    Leaves (options.report elapsed) 1 (heading sentence) := by
  obtain ⟨most, isLimit, more⟩ := (options.exceeds_limit_iff _).mpr ⟨limited, exceeded⟩
  rcases finding_cases accepted options.limit with ⟨_, _, _, found⟩ | ⟨kept, _⟩
  · rw [Options.report, Options.finding, found]
    exact leaves_untabulated accepted _ options elapsed
  · exact absurd (kept most isLimit) (Nat.not_le_of_lt more)

section Admitted

variable (admitted : options.unbounded = true ∨
  sentence.names.length ≤ options.mostVariables.getD 20)

include admitted

/-- Nor is anything else printed if memory cannot address the rows. -/
theorem leaves_unaddressed (unaddressed : Table.maxRows < 2 ^ sentence.names.length) :
    Leaves (options.report elapsed) 101 (heading sentence) := by
  have keeps := (options.keeps_limit_iff _).mpr admitted
  rcases finding_cases accepted options.limit with
    ⟨most, limited, exceeded, _⟩ | ⟨_, ⟨addressed, _⟩ | ⟨_, found⟩⟩
  · exact absurd (keeps most limited) (Nat.not_le_of_lt exceeded)
  · exact absurd addressed (Nat.not_le_of_lt unaddressed)
  · rw [Options.report, Options.finding, found]
    exact leaves_untabulated accepted _ options elapsed

/-- There is a table if the limit in force allows the variables and memory can address the rows. -/
theorem finding_tabulated (addressed : 2 ^ sentence.names.length ≤ Table.maxRows) :
    ∃ table : Table, table.IsOf sentence.formula ∧
      options.finding = .tabulated sentence table := by
  have keeps := (options.keeps_limit_iff _).mpr admitted
  rcases finding_cases accepted options.limit with
    ⟨most, limited, exceeded, _⟩ | ⟨_, ⟨_, built⟩ | ⟨unaddressed, _⟩⟩
  · exact absurd (keeps most limited) (Nat.not_le_of_lt exceeded)
  · exact built
  · exact absurd addressed (Nat.not_le_of_lt unaddressed)

end Admitted

end Accepted

/-- The reports on all rows and on the true ones agree, whatever the expression and the limit, and
whoever reads the arguments. If the expression is malformed, neither has a line. Otherwise both first
describe the sentence, and have no other line if it has too many variables, more than were allowed or
more than 20 if no number was given, or if memory cannot address its rows. If there is a table, the
report on the true rows is a complete page. So is the report on all rows, which shows the printed
form of the table, if no name has more than `maxWidth` characters; the two pages have the same count
and differ in the lines for the rows alone, which agree with one another, and in the time. If some
name is longer, the report on all rows breaks off. If the log was not asked for, the report is all
that is printed. -/
theorem modes_agree (read : List String → Except Stop Options) (full short : List String)
    (expression : String) (mostVariables : Option Nat) (unbounded : Bool)
    (verbosity otherVerbosity time otherTime : Nat)
    (asked : read full = .ok ⟨expression, mostVariables, unbounded, false, verbosity⟩)
    (askedTrue : read short = .ok ⟨expression, mostVariables, unbounded, true, otherVerbosity⟩) :
    (verbosity = 0 → ∀ setOut, (program read full (seconds time)).printed setOut
      = (program read full (seconds time)).text) ∧
    (otherVerbosity = 0 → ∀ setOut, (program read short (seconds otherTime)).printed setOut
      = (program read short (seconds otherTime)).text) ∧
    (∀ error, Sentence.parse expression = .error error →
      Leaves (program read full (seconds time)) 1 [] ∧
      Leaves (program read short (seconds otherTime)) 1 []) ∧
    ∀ sentence, Sentence.parse expression = .ok sentence →
      Begins (program read full (seconds time)) (heading sentence) ∧
      Begins (program read short (seconds otherTime)) (heading sentence) ∧
      (unbounded = false → mostVariables.getD 20 < sentence.names.length →
        Leaves (program read full (seconds time)) 1 (heading sentence) ∧
        Leaves (program read short (seconds otherTime)) 1 (heading sentence)) ∧
      ((unbounded = true ∨ sentence.names.length ≤ mostVariables.getD 20) →
        (2 ^ sentence.names.length ≤ Table.maxRows →
          ∃ (table : Table) (header : String) (rows trueRows : List String) (count : Nat),
            Agreement sentence table rows trueRows count ∧
            Leaves (program read short (seconds otherTime)) 0
              (page sentence (" ".intercalate sentence.names :: trueRows) count
                (seconds otherTime)) ∧
            ((∀ name ∈ sentence.names, name.length ≤ Table.maxWidth) →
              table.text = .ok (ofLines (header :: rows)) ∧
              Leaves (program read full (seconds time)) 0
                (page sentence (header :: rows) count (seconds time))) ∧
            ((∃ name ∈ sentence.names, Table.maxWidth < name.length) →
              (program read full (seconds time)).exitCode = 101)) ∧
        (Table.maxRows < 2 ^ sentence.names.length →
          Leaves (program read full (seconds time)) 101 (heading sentence) ∧
          Leaves (program read short (seconds otherTime)) 101 (heading sentence))) := by
  rw [program_eq_report asked, program_eq_report askedTrue]
  refine ⟨?_, ?_, ?_, ?_⟩
  · intro quiet setOut
    apply printed_of_quiet
    exact quiet
  · intro quiet setOut
    apply printed_of_quiet
    exact quiet
  · intro error refused
    constructor <;> apply leaves_malformed <;> exact refused
  intro sentence accepted
  refine ⟨?_, ?_, ?_, ?_⟩
  · apply begins_of_parse
    exact accepted
  · apply begins_of_parse
    exact accepted
  · intro limited exceeded
    constructor <;> apply leaves_exceeding
    exacts [accepted, limited, exceeded, accepted, limited, exceeded]
  intro admitted
  constructor
  · intro addressed
    obtain ⟨table, isOf, found⟩ :=
      @finding_tabulated ⟨expression, mostVariables, unbounded, false, verbosity⟩ sentence accepted
        admitted addressed
    -- The finding depends on the expression and the limit alone.
    have foundTrue : Options.finding ⟨expression, mostVariables, unbounded, true, otherVerbosity⟩
        = .tabulated sentence table := found
    have names : table.names = sentence.names := isOf.columns.1.trans sentence.names_eq.symm
    rw [Options.report, Options.report, found, foundTrue]
    refine ⟨table, table.header, _, _, _, agreement_of_isOf isOf (table.names.map String.length),
      leaves_trueRows accepted isOf (unbroken_seconds otherTime) rfl, ?_, ?_⟩
    · intro narrow
      have prints := Table.text_eq_ok (names ▸ narrow)
      exact ⟨prints, leaves_lines accepted isOf (unbroken_seconds time) rfl prints⟩
    · intro wide
      exact exitCode_of_breach rfl (Table.text_eq_error (names ▸ wide)) _
  · intro unaddressed
    constructor <;> apply leaves_unaddressed
    exacts [accepted, admitted, unaddressed, accepted, admitted, unaddressed]

/-- One of the four rows of a conjunction is true, and both calls say so. -/
theorem modes_agree_on_conjunction :
    readArguments ["--max-vars", "2", "p and é1"] = .ok ⟨"p and é1", some 2, false, false, 0⟩ ∧
    readArguments ["p and é1", "-v", "--only-true", "--max-vars=2"]
      = .ok ⟨"p and é1", some 2, false, true, 1⟩ ∧
    ∃ (table : Table) (header : String) (rows trueRows : List String),
      Agreement (.ofFormula (.binary .and (.var "p") (.var "é1"))) table rows trueRows 1 ∧
      Leaves (program readArguments ["--max-vars", "2", "p and é1"] (seconds 4)) 0
        (page (.ofFormula (.binary .and (.var "p") (.var "é1"))) (header :: rows) 1 "0.004") ∧
      Leaves (program readArguments ["p and é1", "-v", "--only-true", "--max-vars=2"] (seconds 0)) 0
        (page (.ofFormula (.binary .and (.var "p") (.var "é1"))) ("p é1" :: trueRows) 1 "0.000") := by
  have asked : readArguments ["--max-vars", "2", "p and é1"]
      = .ok ⟨"p and é1", some 2, false, false, 0⟩ := by
    decide +kernel
  have askedTrue : readArguments ["p and é1", "-v", "--only-true", "--max-vars=2"]
      = .ok ⟨"p and é1", some 2, false, true, 1⟩ := by
    decide +kernel
  have accepted : Sentence.parse "p and é1"
      = .ok (.ofFormula (.binary .and (.var "p") (.var "é1"))) := by
    decide +kernel
  obtain ⟨_, _, _, reports⟩ := modes_agree readArguments _ _ _ _ _ _ _ 4 0 asked askedTrue
  obtain ⟨_, _, _, complete⟩ := reports _ accepted
  obtain ⟨table, header, rows, trueRows, count, agreement, shortReport, fullReport, _⟩ :=
    (complete (.inr (by decide))).1 (by decide)
  obtain ⟨_, fullLeaves⟩ := fullReport (by decide)
  have single : count = 1 := by
    rw [← agreement.marked.2]
    obtain rfl := Except.ok.inj ((Table.ofSentence_eq_rows _).symm.trans agreement.isOf.complete)
    decide +kernel
  subst single
  exact ⟨asked, askedTrue, table, header, rows, trueRows, agreement, fullLeaves, shortReport⟩

/-- A name of one character more than a column can be wide is an expression with one variable. The
call that shows the true rows is complete, the one that shows all rows is not. -/
theorem full_report_breaks_off :
    ∃ (expression : String) (sentence : Sentence),
      expression = String.ofList (List.replicate 65536 'a') ∧
      readArguments [expression] = .ok ⟨expression, none, false, false, 0⟩ ∧
      readArguments ["--only-true", expression] = .ok ⟨expression, none, false, true, 0⟩ ∧
      Sentence.parse expression = .ok sentence ∧ sentence.names.length = 1 ∧
      (program readArguments ["--only-true", expression] (seconds 0)).exitCode = 0 ∧
      (program readArguments [expression] (seconds 0)).exitCode = 101 := by
  have long : ∃ expression : String, expression = String.ofList (List.replicate 65536 'a') :=
    ⟨_, rfl⟩
  obtain ⟨expression, isLong⟩ := long
  have noHyphen : expression.toList.head? ≠ some '-' := by
    rw [isLong, String.toList_ofList]
    intro hyphen
    exact absurd (List.eq_of_mem_replicate (List.mem_of_mem_head? hyphen)) (by decide)
  have asked := readArguments_alone noHyphen
  have askedTrue := readArguments_onlyTrue noHyphen
  have accepted : Sentence.parse expression = .ok (.ofFormula (.var expression)) :=
    isLong ▸ Table.parse_replicate (show 3 < 65536 by decide)
  have width : expression.length = 65536 := by
    rw [isLong, ← String.length_toList, String.toList_ofList, List.length_replicate]
  have single : (Sentence.ofFormula (.var expression)).names.length = 1 := rfl
  obtain ⟨table, isOf, found⟩ :=
    @finding_tabulated ⟨expression, none, false, false, 0⟩ _ accepted
      (.inr (single.trans_le (show 1 ≤ 20 by decide)))
      (by rw [single]; decide)
  have foundTrue : Options.finding ⟨expression, none, false, true, 0⟩ = .tabulated _ table := found
  have wide : table.text = .error .columnTooWide := by
    apply Table.text_eq_error
    refine ⟨expression, ?_, ?_⟩
    · rw [isOf.columns.1]
      exact List.mem_singleton_self _
    · rw [width]
      decide
  refine ⟨expression, _, isLong, asked, askedTrue, accepted, single, ?_⟩
  rw [program_eq_report asked, program_eq_report askedTrue, Options.report, Options.report, found,
    foundTrue]
  exact ⟨rfl, exitCode_of_breach rfl wide _⟩

end CommandLine

end Sentential
