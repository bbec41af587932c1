import Sentential.Table

/-!
# What is recorded on the way

A log is kept of what is done. A token is recorded when it is read, a sentence when all its tokens
have been read as one formula, and a table when it is begun, with every row that is built, and when
it is complete. Single tokens and rows are details of more interest to those who trace a failure.

A text that is refused leaves behind the records of the tokens before its first violation. A
sentence that is refused for the number of its variables leaves no record of a table. Where memory
cannot address the rows, the first row has been built before room is set aside for all of them.
-/

namespace Sentential

open Text

/-- Reads the rest of a text as `Token.scan` does. The tokens before a violation are handed out as
well, beside the violation. -/
def Token.lex (found : List Located) (position : Nat) :
    List Char → List Located × Option SyntaxError
  | [] => (found.reverse, none)
  | c :: rest =>
    if isWhiteSpace c then Token.lex found (position + c.utf8Size) rest
    else if c = '(' then Token.lex (⟨.openParen, position⟩ :: found) (position + c.utf8Size) rest
    else if c = ')' then Token.lex (⟨.closeParen, position⟩ :: found) (position + c.utf8Size) rest
    else if isWordChar c then
      let word := c :: rest.takeWhile isWordChar
      let after := rest.dropWhile isWordChar
      match Token.ofWord position word after with
      | .error error => (found.reverse, some error)
      | .ok token => Token.lex (⟨token, position⟩ :: found) (position + byteLength word) after
    else (found.reverse, some ⟨.unexpectedChar c, position⟩)
termination_by text => text.length
decreasing_by
  all_goals simp only [List.length_cons]
  · omega
  · omega
  · omega
  · have shorter := (List.dropWhile_sublist (l := rest) isWordChar).length_le
    omega

/-- The tokens of a text up to its first lexical violation. -/
def readTokens (text : String) : List Located := (Token.lex [] 0 text.toList).1

/-- Something that is recorded. -/
inductive Event where
  | tokenRead (located : Located)
  | sentenceParsed (text : String) (sentence : Sentence)
  | tableBegun (sentence : Sentence)
  | rowBuilt (row : Row)
  | tableBuilt (table : Table)
deriving DecidableEq

/-- How detailed a record is. -/
inductive Detail where
  | debug
  | trace
deriving DecidableEq

/-- The form in which a record shows a token. A name is quoted. -/
def Token.recordedText : Token → String
  | .openParen => "LParen"
  | .closeParen => "RParen"
  | .reserved keyword => "Keyword(" ++ keyword.word.capitalize ++ ")"
  | .identifier name => "Ident(" ++ quotedWord name ++ ")"

namespace Event

/-- Tokens and rows are recorded in more detail than the rest. -/
def detail : Event → Detail
  | .tokenRead _ => .trace
  | .sentenceParsed _ _ => .debug
  | .tableBegun _ => .debug
  | .rowBuilt _ => .trace
  | .tableBuilt _ => .debug

/-- The text of a record. -/
def message : Event → String
  | .tokenRead located =>
    "token " ++ located.token.recordedText ++ " at " ++ toString located.position
  | .sentenceParsed text sentence =>
    "parse(" ++ quotedWord text ++ ") -> " ++ sentence.formula.text ++ " with variables ["
      ++ ", ".intercalate (sentence.names.map quotedWord) ++ "]"
  | .tableBegun sentence =>
    "evaluate(" ++ sentence.formula.text ++ ") over " ++ toString sentence.names.length
      ++ " variables"
  | .rowBuilt row => row.assignment.text ++ " -> " ++ toString row.result
  | .tableBuilt table =>
    "evaluate: " ++ toString table.size ++ " rows, " ++ toString table.satisfyingCount
      ++ " satisfying"

/-- The records of reading a text as tokens. -/
def ofTokens (text : String) : List Event := (readTokens text).map tokenRead

/-- The records of building a table to the end. -/
def ofTable (sentence : Sentence) (table : Table) : List Event :=
  tableBegun sentence :: table.rows.map rowBuilt ++ [tableBuilt table]

/-- The first row of the table of a sentence. -/
def firstRow? (sentence : Sentence) : Option Row :=
  match (Enumeration.ofNames sentence.names).next? with
  | none => none
  | some (assignment, _) => (sentence.evaluate assignment).toOption.map (Row.mk assignment)

/-- The records of a sentence whose table was not built to the end. -/
def ofFailure (sentence : Sentence) : Failure → List Event
  | .malformed _ => []
  | .tooManyVariables _ _ => []
  | .violation _ => tableBegun sentence :: (firstRow? sentence).toList.map rowBuilt

end Event

/-- Both ways to read a text come to the same tokens, or to the same violation. -/
theorem Token.scan_eq_lex (found : List Located) (position : Nat) (text : List Char) :
    Token.scan found position text =
      match Token.lex found position text with
      | (tokens, none) => .ok tokens
      | (_, some error) => .error error := by
  fun_induction Token.lex found position text with
  | case1 found position => rw [Token.scan]
  | case2 found position c rest space inductionHypothesis =>
    rw [Token.scan, if_pos space, inductionHypothesis]
  | case3 found position rest space inductionHypothesis =>
    rw [Token.scan, if_neg space, if_pos rfl, inductionHypothesis]
  | case4 found position rest space opening inductionHypothesis =>
    rw [Token.scan, if_neg space, if_neg opening, if_pos rfl, inductionHypothesis]
  | case5 found position c rest space opening closing wordChar word after error failed =>
    rw [Token.scan, if_neg space, if_neg opening, if_neg closing, if_pos wordChar]
    simp only [word, after] at failed
    simp only [failed]
  | case6 found position c rest space opening closing wordChar word after token spelled
      inductionHypothesis =>
    rw [Token.scan, if_neg space, if_neg opening, if_neg closing, if_pos wordChar,
      ← inductionHypothesis]
    simp only [word, after] at spelled ⊢
    simp only [spelled]
  | case7 found position c rest space opening closing wordChar =>
    rw [Token.scan, if_neg space, if_neg opening, if_neg closing, if_neg wordChar]

/-- The tokens that are read of a text without violation are its tokens. -/
theorem readTokens_of_tokenize {text : String} {tokens : List Located}
    (tokenized : tokenize text = .ok tokens) : readTokens text = tokens := by
  rw [tokenize, Token.scan_eq_lex] at tokenized
  rw [readTokens]
  split at tokenized
  · rename_i lexed
    rw [lexed]
    exact Except.ok.inj tokenized
  · simp at tokenized

end Sentential
