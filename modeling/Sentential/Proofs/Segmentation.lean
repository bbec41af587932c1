import Sentential.Token.Lexer

/-!
# Texts as lexemes and white space

A text that has tokens can be cut into white space and lexemes in turn. A lexeme is a parenthesis
or a word; a word is not cut short, and a word that spells a reserved word is followed by white
space. There is at most one way to cut a text like this.

A cut text has one token for each lexeme, which begins as many bytes into the text as all that
stands before the lexeme is long. The tokens that are read from a text are these, and a text that
cannot be cut has none.
-/

namespace Sentential.Segmentation

open Text

/-- A run of letters and ASCII digits that does not begin with a digit. -/
structure IsWord (lexeme : List Char) : Prop where
  nonempty : lexeme ≠ []
  alphanumeric : ∀ c ∈ lexeme, isAlphabetic c = true ∨ c.isDigit = true
  begins : ∀ c ∈ lexeme.head?, c.isDigit = false

/-- A run of white space, which may be empty. -/
def IsBlank (space : List Char) : Prop := ∀ c ∈ space, isWhiteSpace c = true

/-- The lexeme is a reserved word in some mixture of upper and lower case. -/
def IsReserved (lexeme : List Char) (keyword : Keyword) : Prop :=
  lexeme.map Char.toLower = keyword.word.toList

/-- What can stand as a lexeme in front of the text `after`. -/
def Stands (lexeme after : List Char) : Prop :=
  lexeme = ['('] ∨ lexeme = [')'] ∨
    IsWord lexeme ∧ (∀ c ∈ after.head?, isAlphabetic c = false ∧ c.isDigit = false) ∧
      ∀ keyword, IsReserved lexeme keyword → ∃ c ∈ after.head?, isWhiteSpace c = true

/-- The token that a lexeme is written for. An identifier keeps its spelling. -/
def Spells (lexeme : List Char) : Token → Prop
  | .openParen => lexeme = ['(']
  | .closeParen => lexeme = [')']
  | .reserved keyword => IsWord lexeme ∧ IsReserved lexeme keyword
  | .identifier name =>
    IsWord lexeme ∧ (∀ keyword, ¬ IsReserved lexeme keyword) ∧ name.toList = lexeme

/-- A lexeme and the white space after it. -/
structure Piece where
  lexeme : List Char
  space : List Char

/-- The text that consists of the given pieces. -/
def joined : List Piece → List Char
  | [] => []
  | piece :: later => piece.lexeme ++ (piece.space ++ joined later)

/-- Every lexeme stands in front of what follows it, and there is only white space between. -/
def Proper : List Piece → Prop
  | [] => True
  | piece :: later =>
    Stands piece.lexeme (piece.space ++ joined later) ∧ IsBlank piece.space ∧ Proper later

/-- The tokens are those of the lexemes in turn, in a text where `before` stands in front of the
pieces: a token begins after the bytes of all that precedes its lexeme. -/
def Gives (before : List Char) : List Piece → List Located → Prop
  | [], [] => True
  | piece :: later, located :: further =>
    located.position = byteLength before ∧ Spells piece.lexeme located.token ∧
      Gives (before ++ (piece.lexeme ++ piece.space)) later further
  | _, _ => False

/-- White space, and pieces that each hold a lexeme and the white space after it. -/
structure Cut where
  lead : List Char
  pieces : List Piece

/-- The cut is one of the given text. -/
structure Cut.IsOf (cut : Cut) (text : List Char) : Prop where
  blank : IsBlank cut.lead
  proper : Proper cut.pieces
  whole : cut.lead ++ joined cut.pieces = text

/-- The tokens of a cut of a text in front of which `before` stands. -/
def Cut.Gives (cut : Cut) (before : List Char) (tokens : List Located) : Prop :=
  Segmentation.Gives (before ++ cut.lead) cut.pieces tokens

/-! ## Words as the lexer tells them -/

/-- The characters of a word are those that the lexer takes for one. -/
theorem IsWord.characters {lexeme : List Char} (word : IsWord lexeme) :
    ∀ c ∈ lexeme, isWordChar c = true :=
  fun c member => (isWordChar_iff c).mpr (word.alphanumeric c member)

/-- What the lexer takes for the characters of a word is one, unless it begins with a digit. -/
theorem IsWord.of_characters {lexeme : List Char} (nonempty : lexeme ≠ [])
    (characters : ∀ c ∈ lexeme, isWordChar c = true)
    (begins : ∀ c ∈ lexeme.head?, c.isDigit = false) : IsWord lexeme :=
  ⟨nonempty, fun c member => (isWordChar_iff c).mp (characters c member), begins⟩

/-- What follows does not extend a word exactly if the lexer takes its first character for none of
the word's. -/
theorem ends_iff (after : List Char) :
    (∀ c ∈ after.head?, isWordChar c = false) ↔
      ∀ c ∈ after.head?, isAlphabetic c = false ∧ c.isDigit = false := by
  simp only [isWordChar_eq_false_iff]

/-- A word stands where no character of a word follows, and white space where it is reserved. -/
theorem IsWord.stands {lexeme after : List Char} (word : IsWord lexeme)
    (ends : ∀ c ∈ after.head?, isWordChar c = false)
    (followed : ∀ keyword, IsReserved lexeme keyword → ∃ c ∈ after.head?, isWhiteSpace c = true) :
    Stands lexeme after :=
  .inr (.inr ⟨word, (ends_iff after).mp ends, followed⟩)

/-! ## One way to cut a text -/

/-- A run of characters of one kind that none of that kind follows is the longest one. -/
theorem takeWhile_run (kind : Char → Bool) (run after : List Char) (inside : ∀ c ∈ run, kind c = true)
    (outside : ∀ c ∈ after.head?, kind c = false) :
    (run ++ after).takeWhile kind = run ∧ (run ++ after).dropWhile kind = after := by
  have stops : after.takeWhile kind = [] ∧ after.dropWhile kind = after := by
    cases after with
    | nil => exact ⟨rfl, rfl⟩
    | cons c rest =>
      have other : kind c = false := outside c rfl
      simp [other]
  rw [List.takeWhile_append_of_pos inside, List.dropWhile_append_of_pos inside, stops.1, stops.2]
  exact ⟨List.append_nil run, rfl⟩

/-- A character of a word is no white space and no parenthesis. -/
theorem wordChar_apart (c : Char) (wordChar : isWordChar c = true) :
    isWhiteSpace c = false ∧ c ≠ '(' ∧ c ≠ ')' := by
  refine ⟨?_, ?_, ?_⟩
  · cases space : isWhiteSpace c with
    | false => rfl
    | true =>
      rw [isWordChar_of_isWhiteSpace c space] at wordChar
      exact absurd wordChar Bool.noConfusion
  · rintro rfl
    exact absurd (wordChar.symm.trans parens_apart.1) Bool.noConfusion
  · rintro rfl
    exact absurd (wordChar.symm.trans parens_apart.2.1) Bool.noConfusion

/-- A parenthesis is not a word. -/
theorem not_isWord_paren : ¬ IsWord ['('] ∧ ¬ IsWord [')'] :=
  ⟨fun word => absurd rfl (wordChar_apart '(' (word.characters '(' (by simp))).2.1,
    fun word => absurd rfl (wordChar_apart ')' (word.characters ')' (by simp))).2.2⟩

/-- White space is not the beginning of a lexeme. -/
theorem Stands.not_blank {lexeme after : List Char} (stands : Stands lexeme after) :
    ∃ c rest, lexeme = c :: rest ∧ isWhiteSpace c = false := by
  rcases stands with rfl | rfl | ⟨word, _, _⟩
  · exact ⟨'(', [], rfl, parens_apart.2.2.1⟩
  · exact ⟨')', [], rfl, parens_apart.2.2.2⟩
  · obtain ⟨c, rest, rfl⟩ := List.exists_cons_of_ne_nil word.nonempty
    exact ⟨c, rest, rfl, (wordChar_apart c (word.characters c List.mem_cons_self)).1⟩

/-- What begins with a lexeme, or is empty, does not begin with white space. -/
theorem head_joined (pieces : List Piece) (proper : Proper pieces) :
    ∀ c ∈ (joined pieces).head?, isWhiteSpace c = false := by
  cases pieces with
  | nil => simp [joined]
  | cons piece later =>
    obtain ⟨c, rest, lexeme, notBlank⟩ := proper.1.not_blank
    simp [joined, lexeme, notBlank]

/-- The lexeme that a text begins with, told from the text alone. -/
def firstLexeme (text : List Char) : List Char :=
  if text.head?.any isWordChar then text.takeWhile isWordChar else text.take 1

/-- A lexeme is told from the text that it begins. -/
theorem Stands.eq_firstLexeme {lexeme after : List Char} (stands : Stands lexeme after) :
    firstLexeme (lexeme ++ after) = lexeme := by
  rcases stands with rfl | rfl | ⟨word, ends, _⟩
  · simp [firstLexeme, parens_apart.1]
  · simp [firstLexeme, parens_apart.2.1]
  · have longest := (takeWhile_run isWordChar lexeme after word.characters ((ends_iff after).mpr ends)).1
    obtain ⟨c, rest, rfl⟩ := List.exists_cons_of_ne_nil word.nonempty
    have begins : isWordChar c = true := word.characters c List.mem_cons_self
    rw [firstLexeme, List.cons_append, List.head?_cons, Option.any_some, if_pos begins,
      ← List.cons_append, longest]

/-- White space and what begins with a lexeme can be told apart. -/
theorem blank_unique {first second : List Char} (firstBlank : IsBlank first)
    (secondBlank : IsBlank second) (firstPieces secondPieces : List Piece)
    (firstProper : Proper firstPieces) (secondProper : Proper secondPieces)
    (same : first ++ joined firstPieces = second ++ joined secondPieces) :
    first = second ∧ joined firstPieces = joined secondPieces := by
  obtain ⟨taken, dropped⟩ :=
    takeWhile_run isWhiteSpace first _ firstBlank (head_joined firstPieces firstProper)
  obtain ⟨otherTaken, otherDropped⟩ :=
    takeWhile_run isWhiteSpace second _ secondBlank (head_joined secondPieces secondProper)
  rw [same] at taken dropped
  exact ⟨taken.symm.trans otherTaken, dropped.symm.trans otherDropped⟩

/-- The pieces of a text are determined by the text. -/
theorem pieces_unique (first second : List Piece) (firstProper : Proper first)
    (secondProper : Proper second) (same : joined first = joined second) : first = second := by
  induction first generalizing second with
  | nil =>
    cases second with
    | nil => rfl
    | cons piece later =>
      obtain ⟨c, rest, lexeme, _⟩ := secondProper.1.not_blank
      simp [joined, lexeme] at same
  | cons piece later inductionHypothesis =>
    cases second with
    | nil =>
      obtain ⟨c, rest, lexeme, _⟩ := firstProper.1.not_blank
      simp [joined, lexeme] at same
    | cons other further =>
      obtain ⟨stands, blank, laterProper⟩ := firstProper
      obtain ⟨otherStands, otherBlank, furtherProper⟩ := secondProper
      obtain ⟨lexeme, space⟩ := piece
      obtain ⟨otherLexeme, otherSpace⟩ := other
      have sameLexeme : lexeme = otherLexeme := calc
        lexeme = firstLexeme (lexeme ++ (space ++ joined later)) := stands.eq_firstLexeme.symm
        _ = firstLexeme (otherLexeme ++ (otherSpace ++ joined further)) :=
          congrArg firstLexeme same
        _ = otherLexeme := otherStands.eq_firstLexeme
      subst sameLexeme
      have rest := List.append_cancel_left same
      obtain ⟨rfl, sameLater⟩ := blank_unique blank otherBlank later further laterProper
        furtherProper rest
      rw [inductionHypothesis further laterProper furtherProper sameLater]

/-- There is at most one way to cut a text. -/
theorem cut_unique {text : List Char} (first second : Cut) (firstOf : first.IsOf text)
    (secondOf : second.IsOf text) : first = second := by
  obtain ⟨lead, pieces⟩ := first
  obtain ⟨otherLead, otherPieces⟩ := second
  obtain ⟨rfl, same⟩ := blank_unique firstOf.blank secondOf.blank pieces otherPieces
    firstOf.proper secondOf.proper (firstOf.whole.trans secondOf.whole.symm)
  rw [pieces_unique pieces otherPieces firstOf.proper secondOf.proper same]

/-! ## Reading a cut text -/

/-- Whether a text begins with a character of a kind. -/
theorem head_any_iff (kind : Char → Bool) (text : List Char) :
    text.head?.any kind = true ↔ ∃ c ∈ text.head?, kind c = true := by
  cases text <;> simp

/-- A word that spells no reserved word is recognised as none, and only then. -/
theorem ofWord?_eq_none_iff (word : List Char) :
    Keyword.ofWord? word = none ↔ ∀ keyword, ¬ IsReserved word keyword := by
  constructor
  · intro unrecognised keyword reserved
    rw [(Keyword.ofWord?_eq_some_iff word keyword).mpr reserved] at unrecognised
    simp at unrecognised
  · intro free
    cases recognised : Keyword.ofWord? word with
    | none => rfl
    | some keyword =>
      exact absurd ((Keyword.ofWord?_eq_some_iff word keyword).mp recognised) (free keyword)

/-- A word is read as the token that it spells if white space follows where it has to. -/
theorem ofWord_eq_ok (position : Nat) {word after : List Char} {token : Token}
    (isWord : IsWord word) (spells : Spells word token)
    (followed : ∀ keyword, IsReserved word keyword → ∃ c ∈ after.head?, isWhiteSpace c = true) :
    Token.ofWord position word after = .ok token := by
  have noDigit : ¬ word.head?.any Char.isDigit = true := by
    intro digit
    obtain ⟨c, first, isDigit⟩ := (head_any_iff _ _).mp digit
    rw [isWord.begins c first] at isDigit
    exact Bool.noConfusion isDigit
  rw [Token.ofWord, if_neg noDigit]
  cases token with
  | openParen =>
    subst spells
    exact absurd isWord not_isWord_paren.1
  | closeParen =>
    subst spells
    exact absurd isWord not_isWord_paren.2
  | reserved keyword =>
    obtain ⟨_, reserved⟩ := spells
    rw [(Keyword.ofWord?_eq_some_iff word keyword).mpr reserved]
    exact if_pos ((head_any_iff _ _).mpr (followed keyword reserved))
  | identifier name =>
    obtain ⟨_, free, named⟩ := spells
    rw [(ofWord?_eq_none_iff word).mpr free, ← named, String.ofList_toList]

/-- A run of word characters is read only if it is a word, as the token that it spells, and with
white space after it where it has to be. -/
theorem spells_of_ofWord (position : Nat) (run after : List Char) (token : Token)
    (nonempty : run ≠ []) (characters : ∀ c ∈ run, isWordChar c = true)
    (read : Token.ofWord position run after = .ok token) :
    (IsWord run ∧ Spells run token) ∧
      ∀ keyword, IsReserved run keyword → ∃ c ∈ after.head?, isWhiteSpace c = true := by
  unfold Token.ofWord at read
  split at read
  · simp at read
  · rename_i noDigit
    have isWord : IsWord run := by
      refine .of_characters nonempty characters ?_
      intro c first
      cases digit : c.isDigit with
      | false => rfl
      | true => exact absurd ((head_any_iff _ _).mpr ⟨c, first, digit⟩) noDigit
    split at read
    · rename_i unrecognised
      have free := (ofWord?_eq_none_iff run).mp unrecognised
      obtain rfl := Except.ok.inj read
      exact ⟨⟨isWord, isWord, free, String.toList_ofList⟩,
        fun keyword reserved => absurd reserved (free keyword)⟩
    · rename_i keyword recognised
      split at read
      · rename_i followed
        have reserved : IsReserved run keyword :=
          (Keyword.ofWord?_eq_some_iff run keyword).mp recognised
        obtain rfl := Except.ok.inj read
        exact ⟨⟨isWord, isWord, reserved⟩, fun _ _ => (head_any_iff _ _).mp followed⟩
      · simp at read

/-- White space is passed over, and moves the places of what follows by its bytes. -/
theorem scan_blank (found : List Located) (position : Nat) (space rest : List Char)
    (blank : IsBlank space) :
    Token.scan found position (space ++ rest)
      = Token.scan found (position + byteLength space) rest := by
  induction space generalizing position with
  | nil => rfl
  | cons c further inductionHypothesis =>
    have first : isWhiteSpace c = true := blank c List.mem_cons_self
    have others : IsBlank further := fun d member => blank d (List.mem_cons_of_mem c member)
    rw [List.cons_append, Token.scan, if_pos first, inductionHypothesis _ others,
      byteLength_cons, Nat.add_assoc]

/-- A word that what follows does not extend is read as a whole. -/
theorem scan_word (found : List Located) (position : Nat) (word after : List Char)
    (nonempty : word ≠ []) (characters : ∀ c ∈ word, isWordChar c = true)
    (ends : ∀ c ∈ after.head?, isWordChar c = false) :
    Token.scan found position (word ++ after) =
      match Token.ofWord position word after with
      | .error error => .error error
      | .ok token => Token.scan (⟨token, position⟩ :: found) (position + byteLength word) after := by
  obtain ⟨c, rest, rfl⟩ := List.exists_cons_of_ne_nil nonempty
  have first : isWordChar c = true := characters c List.mem_cons_self
  obtain ⟨notSpace, notOpening, notClosing⟩ := wordChar_apart c first
  have others : ∀ d ∈ rest, isWordChar d = true :=
    fun d member => characters d (List.mem_cons_of_mem c member)
  obtain ⟨taken, dropped⟩ := takeWhile_run isWordChar rest after others ends
  rewrite [List.cons_append, Token.scan, if_neg (by simp [notSpace]), if_neg notOpening,
    if_neg notClosing, if_pos first, taken, dropped]
  rfl

/-- Only an opening parenthesis is written as one. -/
theorem eq_of_spells_openParen {token : Token} (spells : Spells ['('] token) :
    token = .openParen := by
  cases token with
  | openParen => rfl
  | closeParen => exact absurd (show ['('] = [')'] from spells) (by decide)
  | reserved keyword => exact absurd spells.1 not_isWord_paren.1
  | identifier name => exact absurd spells.1 not_isWord_paren.1

/-- Only a closing parenthesis is written as one. -/
theorem eq_of_spells_closeParen {token : Token} (spells : Spells [')'] token) :
    token = .closeParen := by
  cases token with
  | openParen => exact absurd (show [')'] = ['('] from spells) (by decide)
  | closeParen => rfl
  | reserved keyword => exact absurd spells.1 not_isWord_paren.2
  | identifier name => exact absurd spells.1 not_isWord_paren.2

/-- A lexeme is read as the token that it spells. -/
theorem scan_lexeme (found : List Located) (position : Nat) {lexeme after : List Char}
    {token : Token} (stands : Stands lexeme after) (spells : Spells lexeme token) :
    Token.scan found position (lexeme ++ after)
      = Token.scan (⟨token, position⟩ :: found) (position + byteLength lexeme) after := by
  rcases stands with rfl | rfl | ⟨isWord, ends, followed⟩
  · obtain rfl := eq_of_spells_openParen spells
    rw [List.cons_append, Token.scan, if_neg (by simp [parens_apart.2.2.1]), if_pos rfl]
    rfl
  · obtain rfl := eq_of_spells_closeParen spells
    rw [List.cons_append, Token.scan, if_neg (by simp [parens_apart.2.2.2]), if_neg (by decide),
      if_pos rfl]
    rfl
  · rw [scan_word found position lexeme after isWord.nonempty isWord.characters
        ((ends_iff after).mpr ends), ofWord_eq_ok position isWord spells followed]

/-- Proper pieces are read as the tokens that they give.

Induct on the pieces. The tokens found before are carried along, and the place of the next token is
that of the text in front of it. -/
theorem scan_pieces (found : List Located) (before : List Char) (pieces : List Piece)
    (proper : Proper pieces) (tokens : List Located) (gives : Gives before pieces tokens) :
    Token.scan found (byteLength before) (joined pieces) = .ok (found.reverse ++ tokens) := by
  induction pieces generalizing found before tokens with
  | nil =>
    cases tokens with
    | nil => simp [joined, Token.scan]
    | cons located further => exact gives.elim
  | cons piece later inductionHypothesis =>
    cases tokens with
    | nil => exact gives.elim
    | cons located further =>
      obtain ⟨stands, blank, laterProper⟩ := proper
      obtain ⟨token, position⟩ := located
      obtain ⟨rfl, spells, rest⟩ := gives
      have laterRead := inductionHypothesis (⟨token, byteLength before⟩ :: found) _ laterProper
        further rest
      rw [joined, scan_lexeme found _ stands spells, scan_blank _ _ _ _ blank]
      rw [byteLength_append, byteLength_append, ← Nat.add_assoc] at laterRead
      rw [laterRead, List.reverse_cons, List.append_assoc, List.singleton_append]

/-- A cut text is read as the tokens that the cut gives. -/
theorem tokenize_of_cut (text : String) (cut : Cut) (tokens : List Located)
    (isOf : cut.IsOf text.toList) (gives : cut.Gives [] tokens) : tokenize text = .ok tokens := by
  have read := scan_pieces [] cut.lead cut.pieces isOf.proper tokens gives
  rw [tokenize, ← isOf.whole, scan_blank _ _ _ _ isOf.blank, Nat.zero_add, read]
  rfl

/-! ## Cutting a text that was read -/

/-- The longest run of characters of one kind ends where none of that kind follows. -/
theorem longest_run (kind : Char → Bool) (text : List Char) :
    (∀ c ∈ text.takeWhile kind, kind c = true) ∧
      ∀ c ∈ (text.dropWhile kind).head?, kind c = false := by
  constructor
  · exact List.all_eq_true.mp List.all_takeWhile
  · intro c next
    have stopped := List.head?_dropWhile_not kind text
    rw [Option.mem_def.mp next] at stopped
    exact stopped

/-- A cut after white space is a cut with more white space in front. -/
theorem Cut.IsOf.blank_cons {cut : Cut} {rest : List Char} (isOf : cut.IsOf rest) (c : Char)
    (space : isWhiteSpace c = true) : Cut.IsOf ⟨c :: cut.lead, cut.pieces⟩ (c :: rest) := by
  refine ⟨?_, isOf.proper, congrArg (c :: ·) isOf.whole⟩
  intro d member
  rcases List.mem_cons.mp member with rfl | further
  · exact space
  · exact isOf.blank d further

/-- A cut after a lexeme has the lexeme as its first piece, with the white space that the cut
began with. -/
theorem Cut.IsOf.lexeme_cons {cut : Cut} {lexeme after : List Char} (isOf : cut.IsOf after)
    (stands : Stands lexeme after) :
    Cut.IsOf ⟨[], ⟨lexeme, cut.lead⟩ :: cut.pieces⟩ (lexeme ++ after) := by
  refine ⟨fun c member => absurd member (by simp), ⟨?_, isOf.blank, isOf.proper⟩, ?_⟩
  · rw [isOf.whole]
    exact stands
  · exact congrArg (lexeme ++ ·) isOf.whole

/-- The first token of a cut that begins with a lexeme is that of the lexeme. -/
theorem Cut.Gives.lexeme_cons {cut : Cut} {before lexeme : List Char} {token : Token}
    {tokens : List Located} (spells : Spells lexeme token)
    (gives : cut.Gives (before ++ lexeme) tokens) :
    Cut.Gives ⟨[], ⟨lexeme, cut.lead⟩ :: cut.pieces⟩ before
      (⟨token, byteLength before⟩ :: tokens) := by
  unfold Cut.Gives at gives ⊢
  rw [List.append_assoc] at gives
  rw [List.append_nil]
  exact ⟨rfl, spells, gives⟩

/-- Where reading gives tokens there is a cut of the text that gives the same ones.

Follow the scan. Each character of white space is added to the front of the cut of the rest, each
lexeme becomes its first piece; `before` stands for the text that was passed already. -/
theorem cut_of_scan (found : List Located) (position : Nat) (text : List Char)
    (tokens : List Located) (read : Token.scan found position text = .ok tokens)
    (before : List Char) (passed : byteLength before = position) :
    ∃ cut : Cut, cut.IsOf text ∧ ∃ further, tokens = found.reverse ++ further ∧
      cut.Gives before further := by
  fun_induction Token.scan found position text generalizing before with
  | case1 found position =>
    obtain rfl := Except.ok.inj read
    refine ⟨⟨[], []⟩, ⟨fun c member => absurd member (by simp), trivial, rfl⟩, [], by simp, ?_⟩
    trivial
  | case2 found position c rest space inductionHypothesis =>
    obtain ⟨cut, isOf, further, rfl, gives⟩ :=
      inductionHypothesis read (before ++ [c]) (by simp [passed])
    refine ⟨_, isOf.blank_cons c space, further, rfl, ?_⟩
    unfold Cut.Gives at gives ⊢
    rwa [List.append_assoc] at gives
  | case3 found position rest space inductionHypothesis =>
    obtain ⟨cut, isOf, further, rfl, gives⟩ :=
      inductionHypothesis read (before ++ ['(']) (by simp [passed])
    subst passed
    have first : Spells ['('] .openParen := rfl
    exact ⟨_, isOf.lexeme_cons (.inl rfl), _, by simp, Cut.Gives.lexeme_cons first gives⟩
  | case4 found position rest space opening inductionHypothesis =>
    obtain ⟨cut, isOf, further, rfl, gives⟩ :=
      inductionHypothesis read (before ++ [')']) (by simp [passed])
    subst passed
    have first : Spells [')'] .closeParen := rfl
    exact ⟨_, isOf.lexeme_cons (.inr (.inl rfl)), _, by simp, Cut.Gives.lexeme_cons first gives⟩
  | case5 found position c rest space opening closing wordChar word after error failed =>
    simp at read
  | case6 found position c rest space opening closing wordChar word after token spelled
      inductionHypothesis =>
    obtain ⟨cut, isOf, further, rfl, gives⟩ :=
      inductionHypothesis read (before ++ word) (by rw [byteLength_append, passed])
    subst passed
    obtain ⟨inside, ends⟩ := longest_run isWordChar rest
    have characters : ∀ d ∈ word, isWordChar d = true := by
      intro d member
      rcases List.mem_cons.mp member with rfl | further
      · exact wordChar
      · exact inside d further
    obtain ⟨⟨isWord, spells⟩, followed⟩ :=
      spells_of_ofWord _ word after token (List.cons_ne_nil _ _) characters spelled
    have whole : word ++ after = c :: rest := by
      rw [List.cons_append, List.takeWhile_append_dropWhile]
    rw [← whole]
    exact ⟨_, isOf.lexeme_cons (isWord.stands ends followed), _, by simp,
      Cut.Gives.lexeme_cons spells gives⟩
  | case7 found position c rest space opening closing wordChar => simp at read

/-- A lexeme always spells a token. -/
theorem Stands.exists_spells {lexeme after : List Char} (stands : Stands lexeme after) :
    ∃ token, Spells lexeme token := by
  rcases stands with rfl | rfl | ⟨isWord, _, _⟩
  · exact ⟨.openParen, rfl⟩
  · exact ⟨.closeParen, rfl⟩
  · cases recognised : Keyword.ofWord? lexeme with
    | none =>
      exact ⟨.identifier (String.ofList lexeme), isWord, (ofWord?_eq_none_iff lexeme).mp recognised,
        String.toList_ofList⟩
    | some keyword =>
      exact ⟨.reserved keyword, isWord, (Keyword.ofWord?_eq_some_iff lexeme keyword).mp recognised⟩

/-- Proper pieces always give tokens. -/
theorem exists_gives (before : List Char) (pieces : List Piece) (proper : Proper pieces) :
    ∃ tokens, Gives before pieces tokens := by
  induction pieces generalizing before with
  | nil => exact ⟨[], trivial⟩
  | cons piece later inductionHypothesis =>
    obtain ⟨stands, _, laterProper⟩ := proper
    obtain ⟨token, spells⟩ := stands.exists_spells
    obtain ⟨tokens, gives⟩ :=
      inductionHypothesis (before ++ (piece.lexeme ++ piece.space)) laterProper
    exact ⟨⟨token, byteLength before⟩ :: tokens, rfl, spells, gives⟩

/-- The tokenizer accepts exactly the texts that can be cut into white space and lexemes; there is
one way at most to cut a text; and the tokens of a text are those of the lexemes of its cut in turn,
each with the number of bytes that stand before its lexeme. -/
theorem tokenize_iff_cut (text : String) :
    ((∃ tokens, tokenize text = .ok tokens) ↔ ∃ cut : Cut, cut.IsOf text.toList) ∧
    (∀ first second : Cut, first.IsOf text.toList → second.IsOf text.toList → first = second) ∧
    (∀ cut : Cut, cut.IsOf text.toList →
      ∀ tokens, tokenize text = .ok tokens ↔ cut.Gives [] tokens) := by
  have sound : ∀ tokens, tokenize text = .ok tokens →
      ∃ cut : Cut, cut.IsOf text.toList ∧ cut.Gives [] tokens := by
    intro tokens read
    obtain ⟨cut, isOf, further, rfl, gives⟩ := cut_of_scan [] 0 text.toList tokens read [] rfl
    exact ⟨cut, isOf, gives⟩
  refine ⟨⟨?_, ?_⟩, cut_unique, ?_⟩
  · rintro ⟨tokens, read⟩
    obtain ⟨cut, isOf, _⟩ := sound tokens read
    exact ⟨cut, isOf⟩
  · rintro ⟨cut, isOf⟩
    obtain ⟨tokens, gives⟩ := exists_gives ([] ++ cut.lead) cut.pieces isOf.proper
    exact ⟨tokens, tokenize_of_cut text cut tokens isOf gives⟩
  · intro cut isOf tokens
    constructor
    · intro read
      obtain ⟨other, otherIsOf, gives⟩ := sound tokens read
      rwa [cut_unique cut other isOf otherIsOf]
    · exact tokenize_of_cut text cut tokens isOf

end Sentential.Segmentation
