import Sentential.Proofs.Grammar
import Sentential.Proofs.Segmentation
import Sentential.Proofs.Variables

/-!
# Formulas written out

A formula can be written out with only its own parentheses, and with one space on either side of a
connective and after a negation. Where every variable is called by an identifier, the tokens of this
text are those of the formula: a space or a parenthesis follows wherever a word could go on.

The variables that a text mentions are always called by identifiers.
-/

namespace Sentential

open Text Segmentation

/-- What a variable can be called in a text: a word that is not reserved. -/
structure IsIdentifier (name : String) : Prop where
  word : IsWord name.toList
  free : ∀ keyword, ¬ IsReserved name.toList keyword

/-- Whether a name is an identifier can be told from its characters. -/
theorem isIdentifier_iff (name : String) :
    IsIdentifier name ↔ name.toList ≠ [] ∧ name.toList.all isWordChar = true ∧
      name.toList.head?.any Char.isDigit = false ∧ Keyword.ofWord? name.toList = none := by
  rw [ofWord?_eq_none_iff, List.all_eq_true, Option.any_eq_false]
  constructor
  · rintro ⟨word, free⟩
    refine ⟨word.nonempty, word.characters, ?_, free⟩
    intro c first
    simp [word.begins c first]
  · rintro ⟨nonempty, characters, begins, free⟩
    refine ⟨.of_characters nonempty characters ?_, free⟩
    intro c first
    simpa using begins c first

instance (name : String) : Decidable (IsIdentifier name) :=
  decidable_of_iff' _ (isIdentifier_iff name)

namespace Formula

/-- The text of a formula without brackets. -/
def written : Formula → List Char
  | .var name => name.toList
  | .not operand => Keyword.not.word.toList ++ ' ' :: operand.written
  | .binary connective left right =>
    left.written ++ ' ' :: ((Keyword.binary connective).word.toList ++ ' ' :: right.written)
  | .paren inner => '(' :: (inner.written ++ [')'])

end Formula

/-! ## Reading what is written -/

/-- A space is white space, and no part of a word. -/
theorem space_apart : isWhiteSpace ' ' = true ∧ isWordChar ' ' = false := by decide

/-- The spelling of a reserved word is in lower case and consists of letters. -/
theorem reserved_letters (keyword : Keyword) :
    keyword.word.toList ≠ [] ∧
      (∀ c ∈ keyword.word.toList, isWordChar c = true ∧ c.isDigit = false) ∧
      keyword.word.toList.map Char.toLower = keyword.word.toList := by
  have spelling : keyword.word.toList ≠ [] ∧
      (keyword.word.toList.all fun c => isWordChar c && !c.isDigit) = true ∧
      keyword.word.toList.map Char.toLower = keyword.word.toList := by
    cases keyword with
    | not => decide
    | binary connective => cases connective <;> decide
  obtain ⟨nonempty, letters, lower⟩ := spelling
  refine ⟨nonempty, ?_, lower⟩
  intro c member
  simpa using List.all_eq_true.mp letters c member

/-- A reserved word is spelled by a word. -/
theorem spells_reserved (keyword : Keyword) : Spells keyword.word.toList (.reserved keyword) := by
  obtain ⟨nonempty, letters, lower⟩ := reserved_letters keyword
  refine ⟨.of_characters nonempty ?_ ?_, lower⟩
  · intro c member
    exact (letters c member).1
  · intro c first
    exact (letters c (List.mem_of_mem_head? first)).2

/-- A single space is passed over. -/
theorem scan_space (found : List Located) (position : Nat) (after : List Char) :
    Token.scan found position (' ' :: after) = Token.scan found (position + 1) after := by
  rw [Token.scan, if_pos space_apart.1]
  rfl

/-- A parenthesis is a token wherever it stands. -/
theorem scan_paren (found : List Located) (position : Nat) (after : List Char) :
    Token.scan found position ('(' :: after)
        = Token.scan (⟨.openParen, position⟩ :: found) (position + 1) after ∧
      Token.scan found position (')' :: after)
        = Token.scan (⟨.closeParen, position⟩ :: found) (position + 1) after := by
  have opening : Spells ['('] .openParen := rfl
  have closing : Spells [')'] .closeParen := rfl
  exact ⟨scan_lexeme found position (.inl rfl) opening,
    scan_lexeme found position (.inr (.inl rfl)) closing⟩

/-- A reserved word with a space after it is read as such, and the space is passed over. -/
theorem scan_reserved (found : List Located) (position : Nat) (keyword : Keyword)
    (after : List Char) :
    Token.scan found position (keyword.word.toList ++ ' ' :: after)
      = Token.scan (⟨.reserved keyword, position⟩ :: found)
          (position + byteLength keyword.word.toList + 1) after := by
  have spells := spells_reserved keyword
  have stands : Stands keyword.word.toList (' ' :: after) := by
    refine spells.1.stands ?_ ?_
    · rintro c ⟨⟩
      exact space_apart.2
    · intro _ _
      exact ⟨' ', rfl, space_apart.1⟩
  rw [scan_lexeme found position stands spells, scan_space]

/-- An identifier that what follows does not extend is read as such. -/
theorem scan_identifier (found : List Located) (position : Nat) {name : String}
    (identifier : IsIdentifier name) (after : List Char)
    (ends : ∀ c ∈ after.head?, isWordChar c = false) :
    Token.scan found position (name.toList ++ after)
      = Token.scan (⟨.identifier name, position⟩ :: found)
          (position + byteLength name.toList) after := by
  refine scan_lexeme found position ?_ ⟨identifier.word, identifier.free, rfl⟩
  refine identifier.word.stands ends ?_
  intro keyword reserved
  exact absurd reserved (identifier.free keyword)

/-- A formula that is written out is read as its tokens, before whatever does not extend its last
word.

Induct on the formula. The tokens found before are carried along, and each part is read before what
is written after it. -/
theorem scan_written (formula : Formula)
    (named : ∀ name ∈ formula.occurrences, IsIdentifier name) (found : List Located)
    (position : Nat) (after : List Char) (ends : ∀ c ∈ after.head?, isWordChar c = false) :
    ∃ (read : List Located) (reached : Nat), read.map Located.token = formula.tokens ∧
      Token.scan found position (formula.written ++ after)
        = Token.scan (read.reverse ++ found) reached after := by
  induction formula generalizing found position after with
  | var name =>
    have identifier := named name (List.mem_singleton_self name)
    exact ⟨[⟨.identifier name, position⟩], _, rfl,
      scan_identifier found position identifier after ends⟩
  | not operand inductionHypothesis =>
    obtain ⟨read, reached, written, scanned⟩ := inductionHypothesis named
      (⟨.reserved .not, position⟩ :: found) (position + byteLength Keyword.not.word.toList + 1)
      after ends
    refine ⟨⟨.reserved .not, position⟩ :: read, reached, ?_, ?_⟩
    · rw [List.map_cons, written, Formula.tokens]
    · rw [Formula.written, List.append_assoc, List.cons_append, scan_reserved, scanned,
        List.reverse_cons, List.append_assoc, List.singleton_append]
  | binary connective left right leftHypothesis rightHypothesis =>
    have leftNamed := fun name member => named name (List.mem_append_left _ member)
    have rightNamed := fun name member => named name (List.mem_append_right _ member)
    obtain ⟨leftRead, middle, leftWritten, leftScanned⟩ := leftHypothesis leftNamed found position
      (' ' :: ((Keyword.binary connective).word.toList ++ ' ' :: (right.written ++ after))) (by
        rintro c ⟨⟩
        exact space_apart.2)
    obtain ⟨rightRead, reached, rightWritten, rightScanned⟩ := rightHypothesis rightNamed
      (⟨.reserved (.binary connective), middle + 1⟩ :: (leftRead.reverse ++ found))
      (middle + 1 + byteLength (Keyword.binary connective).word.toList + 1) after ends
    refine ⟨leftRead ++ ⟨.reserved (.binary connective), middle + 1⟩ :: rightRead, reached, ?_, ?_⟩
    · rw [List.map_append, List.map_cons, leftWritten, rightWritten, Formula.tokens]
    · have parts : (Formula.binary connective left right).written ++ after
          = left.written ++ ' ' :: ((Keyword.binary connective).word.toList
              ++ ' ' :: (right.written ++ after)) := by
        simp only [Formula.written, List.append_assoc, List.cons_append]
      rw [parts, leftScanned, scan_space, scan_reserved, rightScanned]
      simp only [List.reverse_append, List.reverse_cons, List.append_assoc, List.cons_append,
        List.nil_append]
  | paren inner inductionHypothesis =>
    obtain ⟨read, reached, written, scanned⟩ := inductionHypothesis named
      (⟨.openParen, position⟩ :: found) (position + 1) (')' :: after) (by
        rintro c ⟨⟩
        exact parens_apart.2.1)
    refine ⟨⟨.openParen, position⟩ :: (read ++ [⟨.closeParen, reached⟩]), reached + 1, ?_, ?_⟩
    · rw [List.map_cons, List.map_append, written, Formula.tokens]
      rfl
    · have parts : (Formula.paren inner).written ++ after
          = '(' :: (inner.written ++ ')' :: after) := by
        simp only [Formula.written, List.append_assoc, List.cons_append, List.nil_append]
      rw [parts, (scan_paren _ _ _).1, scanned, (scan_paren _ _ _).2]
      simp only [List.reverse_append, List.reverse_cons, List.append_assoc, List.cons_append,
        List.reverse_nil, List.nil_append]

/-- The text of a formula that is written out has the tokens of the formula. -/
theorem tokenize_written (formula : Formula)
    (named : ∀ name ∈ formula.occurrences, IsIdentifier name) :
    ∃ tokens, tokenize (String.ofList formula.written) = .ok tokens ∧
      tokens.map Located.token = formula.tokens := by
  obtain ⟨read, reached, written, scanned⟩ := scan_written formula named [] 0 [] (by simp)
  refine ⟨read, ?_, written⟩
  rw [List.append_nil] at scanned
  rw [tokenize, String.toList_ofList, scanned, Token.scan, List.append_nil, List.reverse_reverse]

/-! ## The names in a text -/

/-- Every token that a cut gives is spelled by some lexeme. -/
theorem spells_of_gives (before : List Char) (pieces : List Piece) (tokens : List Located)
    (gives : Gives before pieces tokens) :
    ∀ located ∈ tokens, ∃ lexeme, Spells lexeme located.token := by
  induction pieces generalizing before tokens with
  | nil =>
    cases tokens with
    | nil => simp
    | cons located further => exact gives.elim
  | cons piece later inductionHypothesis =>
    cases tokens with
    | nil => exact gives.elim
    | cons first further =>
      obtain ⟨_, spells, rest⟩ := gives
      intro located member
      rcases List.mem_cons.mp member with rfl | deeper
      · exact ⟨piece.lexeme, spells⟩
      · exact inductionHypothesis _ further rest located deeper

/-- What is read as an identifier is one. -/
theorem identifier_of_tokenize (text : String) (tokens : List Located)
    (tokenized : tokenize text = .ok tokens) (name : String)
    (member : .identifier name ∈ tokens.map Located.token) : IsIdentifier name := by
  obtain ⟨cut, _, further, rfl, gives⟩ := cut_of_scan [] 0 text.toList tokens tokenized [] rfl
  obtain ⟨located, listed, same⟩ := List.mem_map.mp member
  obtain ⟨lexeme, spells⟩ := spells_of_gives _ _ _ gives located listed
  rw [same] at spells
  obtain ⟨word, free, rfl⟩ := spells
  exact ⟨word, free⟩

/-- Every variable has a token. -/
theorem Formula.identifier_mem_tokens (formula : Formula) (name : String)
    (occurs : name ∈ formula.occurrences) : .identifier name ∈ formula.tokens := by
  induction formula with
  | var leaf =>
    rw [List.mem_singleton.mp occurs]
    exact List.mem_singleton_self _
  | not operand inductionHypothesis => exact List.mem_cons_of_mem _ (inductionHypothesis occurs)
  | binary connective left right leftHypothesis rightHypothesis =>
    rcases List.mem_append.mp occurs with before | behind
    · exact List.mem_append_left _ (leftHypothesis before)
    · exact List.mem_append_right _ (List.mem_cons_of_mem _ (rightHypothesis behind))
  | paren inner inductionHypothesis =>
    exact List.mem_cons_of_mem _ (List.mem_append_left _ (inductionHypothesis occurs))

end Sentential
