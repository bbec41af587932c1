import Sentential.Proofs.Equivalence
import Sentential.Proofs.LexicalErrors
import Sentential.Proofs.QuotedText
import Sentential.Proofs.Viability

/-!
# The message tells the failure

Different failures read differently: the message of a failure that a text and a limit come to determines
the failure, with its cause, its place, its numbers and whatever it quotes.

The kind of a cause is told by how its message begins. This depends on what can be said at all. A token is
shown as it is, so one that is shown as unexpected could imitate the words of another cause; a closing
parenthesis does. But where a closing parenthesis cannot stand, it is unmatched, and never shown as an
unexpected token.
-/

namespace Sentential

open Text Segmentation Viability

/-! ## What texts come to -/

/-- The causes that a text can come to: no closing parenthesis is shown as unexpected. -/
def SyntaxError.Cause.Arises : SyntaxError.Cause → Prop
  | .unexpectedToken text => ∃ token : Token, token ≠ .closeParen ∧ text = token.text
  | _ => True

/-- The failures that a text can come to: the only breach of contract is a table too large. -/
def Failure.Arises : Failure → Prop
  | .malformed error => error.cause.Arises
  | .tooManyVariables _ _ => True
  | .violation breach => breach = .tooManyRows

/-- A lexical violation shows no token. -/
theorem arises_of_tokenize {text : String} {error : SyntaxError}
    (failed : tokenize text = .error error) : error.cause.Arises := by
  obtain ⟨before, after, _, _, violation⟩ := violated_of_scan text.toList [] 0 error failed
  cases violation <;> trivial

/-- Where a connective is due, a closing parenthesis ends a group or is unmatched. -/
theorem arises_of_step {state : State} {located : Located} {error : SyntaxError}
    (refused : Viability.step state located = .error error) : error.cause.Arises := by
  obtain ⟨due, pending⟩ := state
  obtain ⟨token, position⟩ := located
  cases due with
  | operand =>
    cases token with
    | openParen | identifier name => simp [Viability.step] at refused
    | closeParen =>
      obtain rfl := Except.error.inj refused
      trivial
    | reserved keyword =>
      cases keyword with
      | not => simp [Viability.step] at refused
      | binary connective =>
        obtain rfl := Except.error.inj refused
        trivial
  | connective =>
    cases token with
    | openParen | identifier name =>
      obtain rfl := Except.error.inj refused
      exact ⟨_, Token.noConfusion, rfl⟩
    | closeParen =>
      cases pending with
      | zero =>
        obtain rfl := Except.error.inj refused
        trivial
      | succ outer => simp [Viability.step] at refused
    | reserved keyword =>
      cases keyword with
      | not =>
        obtain rfl := Except.error.inj refused
        exact ⟨.reserved .not, Token.noConfusion, rfl⟩
      | binary connective => simp [Viability.step] at refused

/-- Along the tokens nothing else is reported than by one of the steps, or at the end. -/
theorem arises_of_verdict {finish : Nat} {state : State} {tokens : List Located} {error : SyntaxError}
    (refused : verdict finish state tokens = .error error) : error.cause.Arises := by
  induction tokens generalizing state with
  | nil =>
    obtain ⟨due, pending⟩ := state
    rw [verdict] at refused
    cases due with
    | operand =>
      obtain rfl := Except.error.inj refused
      trivial
    | connective =>
      cases pending with
      | zero => simp [ended] at refused
      | succ outer =>
        obtain rfl := Except.error.inj refused
        trivial
  | cons located rest inductionHypothesis =>
    rw [verdict] at refused
    cases moved : Viability.step state located with
    | error other =>
      rw [moved] at refused
      obtain rfl := Except.error.inj refused
      exact arises_of_step moved
    | ok next =>
      rw [moved] at refused
      exact inductionHypothesis refused

/-- What a malformed text is refused for: a lexical violation, no token at all, a formula too high, or
what the scan with one counter comes to. -/
theorem arises_of_parse {text : String} {error : SyntaxError}
    (refused : Sentence.parse text = .error error) : error.cause.Arises := by
  rw [Sentence.parse] at refused
  cases tokenized : tokenize text with
  | error other =>
    rw [tokenized] at refused
    obtain rfl := Except.error.inj refused
    exact arises_of_tokenize tokenized
  | ok tokens =>
    rw [tokenized] at refused
    by_cases present : tokens = []
    · subst present
      obtain rfl := Except.error.inj refused
      trivial
    · have failed : Sentence.ofTokens text.utf8ByteSize tokens = .error error := refused
      rcases ofTokens_agrees text.utf8ByteSize tokens present with ⟨position, deep⟩ | same
      · obtain rfl := Except.error.inj (deep.symm.trans failed)
        trivial
      · rw [failed] at same
        exact arises_of_verdict same.symm

/-- A text without a table is malformed, has too many variables, or would have too large a table: no
variable is ever missing. -/
theorem arises_of_ofText {text : String} {limit : VariableLimit} {failure : Failure}
    (failed : Table.ofText limit text = .error failure) : failure.Arises := by
  rw [Table.ofText] at failed
  cases parsed : Sentence.parse text with
  | error error =>
    rw [parsed] at failed
    obtain rfl := Except.error.inj failed
    exact arises_of_parse parsed
  | ok sentence =>
    rw [parsed] at failed
    rcases Table.within_cases limit sentence with
      ⟨most, _, _, refused⟩ | ⟨_, ⟨_, built⟩ | ⟨_, refused⟩⟩
    · obtain rfl := Except.error.inj (refused.symm.trans failed)
      trivial
    · exact absurd (built.symm.trans failed) (by simp)
    · obtain rfl := Except.error.inj (refused.symm.trans failed)
      rfl

/-! ## Numbers -/

/-- A number is written in digits. -/
theorem isDigit_of_mem_toString {number : Nat} {c : Char} (member : c ∈ (toString number).toList) :
    c.isDigit = true := by
  rw [Nat.toString_eq_repr, Nat.toList_repr] at member
  exact Nat.isDigit_of_mem_toDigits (by decide) (by decide) member

/-- A number that no digit follows can be told from the text that it begins. -/
theorem toString_append_inj {first second : Nat} {rest other : List Char}
    (ends : ∀ c ∈ rest.head?, c.isDigit = false) (otherEnds : ∀ c ∈ other.head?, c.isDigit = false)
    (same : (toString first).toList ++ rest = (toString second).toList ++ other) :
    first = second ∧ rest = other := by
  obtain ⟨digits, after⟩ :=
    takeWhile_run Char.isDigit _ rest (fun c => isDigit_of_mem_toString) ends
  obtain ⟨otherDigits, otherAfter⟩ :=
    takeWhile_run Char.isDigit _ other (fun c => isDigit_of_mem_toString) otherEnds
  rw [same, otherDigits] at digits
  rw [same, otherAfter] at after
  refine ⟨?_, after.symm⟩
  have values := congrArg (fun digits => Nat.ofDigitChars 10 digits 0) digits
  simpa using values.symm

/-! ## Causes -/

namespace SyntaxError.Cause

/-- How messages begin, in the order of the causes. The opening of a token that is shown comes after
those that go on from it. -/
def openings : List String :=
  ["empty expression", "unexpected character ", "invalid identifier ", "expected whitespace after '",
    "reserved word '", "expected an operand, found end of input", "expected ')'", "unexpected ')'",
    "unexpected ", "expression is nested deeper than "]

/-- The place of the first of the openings that a message has. -/
def placeOf (message : String) : Nat :=
  openings.findIdx fun opening => opening.toList.isPrefixOf message.toList

/-- The opening of a message tells the kind of its cause. -/
theorem placeOf_message (cause : Cause) (arises : cause.Arises) :
    placeOf cause.message = cause.ctorIdx := by
  cases cause with
  | emptyInput | missingOperand | unclosedParen | unmatchedParen => rfl
  | unexpectedChar c =>
    change placeOf (_ ++ quotedChar c) = _
    rw [placeOf, String.toList_append]
    rfl
  | invalidIdentifier word =>
    change placeOf (_ ++ quotedWord word) = _
    rw [placeOf, String.toList_append]
    rfl
  | missingSpaceAfter keyword | reservedWord keyword =>
    change placeOf (_ ++ keyword.word ++ _) = _
    rw [placeOf, String.toList_append, String.toList_append, List.append_assoc]
    rfl
  | tooDeep =>
    change placeOf (_ ++ toString maxHeight ++ _) = _
    rw [placeOf, String.toList_append, String.toList_append, List.append_assoc]
    rfl
  | unexpectedToken text =>
    obtain ⟨token, shown, rfl⟩ := arises
    cases token with
    | openParen => rfl
    | closeParen => exact absurd rfl shown
    | reserved keyword =>
      cases keyword with
      | not => rfl
      | binary connective => cases connective <;> rfl
    | identifier name =>
      change placeOf (_ ++ (_ ++ name ++ _)) = _
      rw [placeOf, String.toList_append, String.toList_append, String.toList_append,
        List.append_assoc]
      rfl

/-- Different causes that texts come to are stated differently. The opening tells the kind, and what is
shown after it tells the character, word or token. -/
theorem message_injective {first second : Cause} (arises : first.Arises) (otherArises : second.Arises)
    (same : first.message = second.message) : first = second := by
  have kinds : first.ctorIdx = second.ctorIdx := by
    rw [← placeOf_message first arises, same, placeOf_message second otherArises]
  have shown : ∀ {opening detail other : String}, opening ++ detail = opening ++ other →
      detail = other := fun whole => (String.append_right_inj _).mp whole
  have enclosed : ∀ {opening closing : String} {keyword other : Keyword},
      opening ++ keyword.word ++ closing = opening ++ other.word ++ closing → keyword = other := by
    intro opening closing keyword other whole
    exact Keyword.word_injective _ _ (shown ((String.append_left_inj _).mp whole))
  cases first <;> cases second <;> try exact absurd kinds (Nat.ne_of_beq_eq_false rfl)
  case unexpectedChar.unexpectedChar c d => rw [quotedChar_injective (shown same)]
  case invalidIdentifier.invalidIdentifier word other => rw [quotedWord_injective (shown same)]
  case missingSpaceAfter.missingSpaceAfter keyword other => rw [enclosed same]
  case reservedWord.reservedWord keyword other => rw [enclosed same]
  case unexpectedToken.unexpectedToken text other => rw [shown same]
  all_goals rfl

end SyntaxError.Cause

/-! ## Failures -/

namespace Failure

/-- The characters of a message about a malformed text: the place, then the cause. -/
theorem toList_message_malformed (cause : SyntaxError.Cause) (position : Nat) :
    (malformed ⟨cause, position⟩).message.toList
      = "syntax error at ".toList ++ ((toString position).toList
          ++ (": ".toList ++ cause.message.toList)) := by
  change (_ ++ toString position ++ _ ++ cause.message).toList = _
  simp only [String.toList_append, List.append_assoc]

/-- The characters of a message about too many variables: their number, then the limit. -/
theorem toList_message_tooManyVariables (count limit : Nat) :
    (tooManyVariables count limit).message.toList
      = "expression has ".toList ++ ((toString count).toList
          ++ (" distinct variables, but at most ".toList ++ ((toString limit).toList
            ++ " are allowed".toList))) := by
  change (_ ++ toString count ++ _ ++ toString limit ++ _).toList = _
  simp only [String.toList_append, List.append_assoc]

/-- The letter that the message of a failure begins with. -/
def initial : Failure → Char
  | .malformed _ => 's'
  | .tooManyVariables _ _ => 'e'
  | .violation _ => 'c'

/-- The three kinds of failure begin with different letters. -/
theorem head_message (failure : Failure) (arises : failure.Arises) :
    failure.message.toList.head? = some failure.initial := by
  cases failure with
  | malformed error =>
    rw [toList_message_malformed]
    rfl
  | tooManyVariables count limit =>
    rw [toList_message_tooManyVariables]
    rfl
  | violation breach =>
    obtain rfl : breach = .tooManyRows := arises
    rfl

/-- Different failures that texts come to read differently. A number ends where no digit follows, so it
can be told from the message, and so can what is said after it. -/
theorem message_injective {first second : Failure} (arises : first.Arises)
    (otherArises : second.Arises) (same : first.message = second.message) : first = second := by
  have initials : first.initial = second.initial := by
    have heads := head_message first arises
    rw [same, head_message second otherArises] at heads
    exact (Option.some.inj heads).symm
  have letters := congrArg String.toList same
  cases first <;> cases second <;> try simp [initial] at initials
  case malformed.malformed error other =>
    obtain ⟨cause, position⟩ := error
    obtain ⟨otherCause, otherPosition⟩ := other
    rw [toList_message_malformed, toList_message_malformed] at letters
    obtain ⟨places, rest⟩ := toString_append_inj (by rintro c ⟨⟩; rfl) (by rintro c ⟨⟩; rfl)
      (List.append_cancel_left letters)
    have stated : cause.message = otherCause.message :=
      String.toList_inj.mp (List.append_cancel_left rest)
    have causes : cause = otherCause :=
      SyntaxError.Cause.message_injective arises otherArises stated
    rw [causes, places]
  case tooManyVariables.tooManyVariables count limit otherCount otherLimit =>
    rw [toList_message_tooManyVariables, toList_message_tooManyVariables] at letters
    obtain ⟨counts, rest⟩ := toString_append_inj (by rintro c ⟨⟩; rfl) (by rintro c ⟨⟩; rfl)
      (List.append_cancel_left letters)
    obtain ⟨limits, _⟩ := toString_append_inj (by rintro c ⟨⟩; rfl) (by rintro c ⟨⟩; rfl)
      (List.append_cancel_left rest)
    rw [counts, limits]
  case violation.violation breach other =>
    obtain rfl : breach = .tooManyRows := arises
    obtain rfl : other = .tooManyRows := otherArises
    rfl

end Failure

/-- Different failures always read differently. If two texts, each under a limit of its own, have no table
and do not fail alike, then the messages differ: the message tells the cause with what it quotes, the
place, the number of variables and the limit. -/
theorem ofText_messages_differ (text other : String) (limit otherLimit : VariableLimit)
    (failure otherFailure : Failure) (failed : Table.ofText limit text = .error failure)
    (otherFailed : Table.ofText otherLimit other = .error otherFailure)
    (different : failure ≠ otherFailure) : failure.message ≠ otherFailure.message := by
  intro same
  exact different
    (Failure.message_injective (arises_of_ofText failed) (arises_of_ofText otherFailed) same)

/-- A parenthesis after an operand is unmatched if it closes, and shown as a token if it opens. -/
theorem messages_differ_at_paren :
    Table.ofText .standard "p )" = .error (.malformed ⟨.unmatchedParen, 2⟩) ∧
      Table.ofText .unbounded "p (" = .error (.malformed ⟨.unexpectedToken "'('", 2⟩) ∧
      (Failure.malformed ⟨.unmatchedParen, 2⟩).message
        ≠ (Failure.malformed ⟨.unexpectedToken "'('", 2⟩).message := by
  have closing : Table.ofText .standard "p )" = .error (.malformed ⟨.unmatchedParen, 2⟩) := by
    decide +kernel
  have opening : Table.ofText .unbounded "p ("
      = .error (.malformed ⟨.unexpectedToken "'('", 2⟩) := by
    decide +kernel
  exact ⟨closing, opening, ofText_messages_differ _ _ _ _ _ _ closing opening (by decide)⟩

-- A closing parenthesis that was shown as a token would read like an unmatched one.
example : (SyntaxError.Cause.unexpectedToken "')'").message
    = SyntaxError.Cause.unmatchedParen.message := by
  decide

end Sentential
