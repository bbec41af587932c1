import Sentential.Proofs.Written

/-!
# Texts read in two parts

Reading a text proceeds from one lexeme to the next: past a character of white space, a parenthesis,
or a maximal run of word characters; any other character ends it. A text that is divided at a place
where no run of word characters goes on can be read in two parts. If the first part has tokens,
reading the whole comes down to reading the second part with these tokens found.
-/

namespace Sentential

open Text Segmentation

/-- The word characters `word`, which are not cut short, followed by the text `after`. -/
structure Run (word after : List Char) : Prop where
  nonempty : word ≠ []
  characters : ∀ c ∈ word, isWordChar c = true
  ends : ∀ c ∈ after.head?, isWordChar c = false

/-- No run of word characters goes on from the first text into the second. -/
def Apart (before after : List Char) : Prop :=
  ∀ c ∈ before.getLast?, isWordChar c = true → ∀ d ∈ after.head?, isWordChar d = false

/-- The parentheses and their tokens. -/
inductive IsParen : Char → Token → Prop where
  | opening : IsParen '(' .openParen
  | closing : IsParen ')' .closeParen

/-- Induction along a text as it is read: over white space, parentheses and maximal runs of word
characters. Nothing is read after any other character. -/
@[elab_as_elim]
theorem text_induction {motive : List Char → Prop}
    (ended : motive [])
    (blank : ∀ c rest, isWhiteSpace c = true → motive rest → motive (c :: rest))
    (paren : ∀ c token rest, IsParen c token → motive rest → motive (c :: rest))
    (run : ∀ word rest, Run word rest → motive rest → motive (word ++ rest))
    (other : ∀ c rest, isWhiteSpace c = false → c ≠ '(' → c ≠ ')' → isWordChar c = false →
      motive (c :: rest))
    (text : List Char) : motive text := by
  induction size : text.length using Nat.strongRecOn generalizing text with
  | ind size shorter =>
    subst size
    match text with
    | [] => exact ended
    | c :: rest =>
      have tail : motive rest := shorter rest.length (Nat.lt_succ_self _) rest rfl
      by_cases space : isWhiteSpace c = true
      · exact blank c rest space tail
      by_cases isOpening : c = '('
      · subst isOpening
        exact paren '(' .openParen rest .opening tail
      by_cases isClosing : c = ')'
      · subst isClosing
        exact paren ')' .closeParen rest .closing tail
      by_cases wordChar : isWordChar c = true
      · obtain ⟨inside, ends⟩ := longest_run isWordChar rest
        have first : Run (c :: rest.takeWhile isWordChar) (rest.dropWhile isWordChar) := by
          refine ⟨List.cons_ne_nil _ _, ?_, ends⟩
          intro d member
          rcases List.mem_cons.mp member with rfl | further
          · exact wordChar
          · exact inside d further
        have fewer : (rest.dropWhile isWordChar).length < (c :: rest).length :=
          Nat.lt_succ_of_le (List.dropWhile_sublist isWordChar).length_le
        have whole := run _ _ first (shorter _ fewer _ rfl)
        rwa [List.cons_append, List.takeWhile_append_dropWhile] at whole
      · exact other c rest (by simpa using space) isOpening isClosing (by simpa using wordChar)

/-- A run begins with a word character. -/
theorem Run.head {word after : List Char} (run : Run word after) :
    ∃ c ∈ (word ++ after).head?, isWordChar c = true := by
  obtain ⟨c, rest, rfl⟩ := List.exists_cons_of_ne_nil run.nonempty
  exact ⟨c, rfl, run.characters c List.mem_cons_self⟩

/-- A run ends with a word character. -/
theorem Run.getLast {word after : List Char} (run : Run word after) :
    ∃ c ∈ word.getLast?, isWordChar c = true := by
  refine ⟨word.getLast run.nonempty, List.getLast?_eq_some_getLast run.nonempty, ?_⟩
  exact run.characters _ (List.getLast_mem run.nonempty)

/-- Nothing goes on from a character that is no word character. -/
theorem apart_of_not_wordChar {c : Char} (notWord : isWordChar c = false) (after : List Char) :
    Apart [c] after := by
  rintro d ⟨⟩ wordChar
  exact absurd (notWord.symm.trans wordChar) Bool.noConfusion

/-- Where two texts are apart, so is any final part of the first from the second. -/
theorem Apart.of_append (lead : List Char) {before after : List Char}
    (apart : Apart (lead ++ before) after) : Apart before after := by
  intro c last
  have nonempty : before ≠ [] := by
    rintro rfl
    exact absurd last (by simp)
  refine apart c ?_
  rwa [List.getLast?_append_of_ne_nil lead nonempty]

/-- A run that ends in the first of two texts is not lengthened by the second. -/
theorem Run.append {word rest after : List Char} (run : Run word rest)
    (apart : Apart (word ++ rest) after) : Run word (rest ++ after) := by
  refine ⟨run.nonempty, run.characters, ?_⟩
  cases rest with
  | nil =>
    obtain ⟨c, last, wordChar⟩ := run.getLast
    rw [List.append_nil] at apart
    exact apart c last wordChar
  | cons d further => exact run.ends

/-- A run that is begun in a text is also begun if more stands in front of the text, unless a run
goes on from there. -/
theorem begun_append {lead before word rest : List Char} (run : Run word rest)
    (apart : Apart lead (before ++ (word ++ rest)))
    (begun : ∀ c ∈ before.getLast?, isWordChar c = false) :
    ∀ c ∈ (lead ++ before).getLast?, isWordChar c = false := by
  intro c last
  by_cases empty : before = []
  · subst empty
    rw [List.append_nil] at last
    obtain ⟨d, first, wordChar⟩ := run.head
    cases ending : isWordChar c with
    | false => rfl
    | true => exact absurd ((apart c last ending d first).symm.trans wordChar) Bool.noConfusion
  · rw [List.getLast?_append_of_ne_nil lead empty] at last
    exact begun c last

/-! ## One step of reading -/

/-- A character of white space is passed over. -/
theorem scan_whiteSpace (found : List Located) (position : Nat) {c : Char} (rest : List Char)
    (space : isWhiteSpace c = true) :
    Token.scan found position (c :: rest) = Token.scan found (position + c.utf8Size) rest := by
  rw [Token.scan, if_pos space]

/-- A parenthesis is a lexeme wherever it stands. -/
theorem IsParen.stands {c : Char} {token : Token} (paren : IsParen c token) (after : List Char) :
    Stands [c] after := by
  cases paren with
  | opening => exact .inl rfl
  | closing => exact .inr (.inl rfl)

/-- A parenthesis is no part of a word. -/
theorem IsParen.notWord {c : Char} {token : Token} (paren : IsParen c token) :
    isWordChar c = false := by
  cases paren with
  | opening => exact parens_apart.1
  | closing => exact parens_apart.2.1

/-- A parenthesis is read as its token. -/
theorem IsParen.scan {c : Char} {token : Token} (paren : IsParen c token) (found : List Located)
    (position : Nat) (rest : List Char) :
    Token.scan found position (c :: rest)
      = Token.scan (⟨token, position⟩ :: found) (position + c.utf8Size) rest := by
  cases paren with
  | opening => exact (scan_paren found position rest).1
  | closing => exact (scan_paren found position rest).2

/-- A run of word characters is read as a whole. -/
theorem Run.scan {word after : List Char} (run : Run word after) (found : List Located)
    (position : Nat) :
    Token.scan found position (word ++ after) =
      match Token.ofWord position word after with
      | .error error => .error error
      | .ok token => Token.scan (⟨token, position⟩ :: found) (position + byteLength word) after :=
  scan_word found position word after run.nonempty run.characters run.ends

/-- A character that begins no lexeme is refused where it stands. -/
theorem scan_other (found : List Located) (position : Nat) {c : Char} (rest : List Char)
    (notSpace : isWhiteSpace c = false) (notOpening : c ≠ '(') (notClosing : c ≠ ')')
    (notWord : isWordChar c = false) :
    Token.scan found position (c :: rest) = .error ⟨.unexpectedChar c, position⟩ := by
  rw [Token.scan, if_neg (by simp [notSpace]), if_neg notOpening, if_neg notClosing,
    if_neg (by simp [notWord])]

/-- What follows a word is looked at only after a reserved word, and only for white space. -/
theorem ofWord_congr (position : Nat) (word after other : List Char)
    (alike : ∀ keyword, IsReserved word keyword →
      after.head?.any isWhiteSpace = other.head?.any isWhiteSpace) :
    Token.ofWord position word after = Token.ofWord position word other := by
  unfold Token.ofWord
  cases recognised : Keyword.ofWord? word with
  | none => rfl
  | some keyword => rw [alike keyword ((Keyword.ofWord?_eq_some_iff word keyword).mp recognised)]

/-- A word that is read at the end of a text is read alike if the text goes on. -/
theorem ofWord_append {position : Nat} {word rest : List Char} {token : Token} (run : Run word rest)
    (read : Token.ofWord position word rest = .ok token) (after : List Char) :
    Token.ofWord position word (rest ++ after) = .ok token := by
  rw [← read]
  apply ofWord_congr
  intro keyword reserved
  obtain ⟨_, followed⟩ :=
    spells_of_ofWord position word rest token run.nonempty run.characters read
  obtain ⟨c, next, _⟩ := followed keyword reserved
  cases rest with
  | nil => exact absurd next (by simp)
  | cons d further => rfl

/-- If the first of two texts that are apart has tokens, reading both comes down to reading the
second with these tokens found. -/
theorem scan_append_of_ok {before after : List Char} (apart : Apart before after)
    {found tokens : List Located} {position : Nat}
    (read : Token.scan found position before = .ok tokens) :
    Token.scan found position (before ++ after)
      = Token.scan tokens.reverse (position + byteLength before) after := by
  induction before using text_induction generalizing found position with
  | ended =>
    rw [Token.scan] at read
    rw [← Except.ok.inj read, List.reverse_reverse]
    rfl
  | blank c rest space inductionHypothesis =>
    rw [scan_whiteSpace _ _ _ space] at read
    rw [List.cons_append, scan_whiteSpace _ _ _ space,
      inductionHypothesis (Apart.of_append [c] apart) read, byteLength_cons,
      Nat.add_assoc]
  | paren c token rest paren inductionHypothesis =>
    rw [paren.scan] at read
    rw [List.cons_append, paren.scan, inductionHypothesis (Apart.of_append [c] apart) read,
      byteLength_cons, Nat.add_assoc]
  | run word rest run inductionHypothesis =>
    rw [run.scan] at read
    cases first : Token.ofWord position word rest with
    | error error =>
      rw [first] at read
      exact absurd read (by simp)
    | ok token =>
      rw [first] at read
      rw [List.append_assoc, (run.append apart).scan, ofWord_append run first after]
      simp only
      rw [inductionHypothesis (Apart.of_append word apart) read, byteLength_append, Nat.add_assoc]
  | other c rest notSpace notOpening notClosing notWord =>
    rw [scan_other _ _ _ notSpace notOpening notClosing notWord] at read
    exact absurd read (by simp)

end Sentential
