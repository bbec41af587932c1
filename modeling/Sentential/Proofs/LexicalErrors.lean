import Sentential.Proofs.Splitting

/-!
# The leftmost lexical violation

A text has no tokens exactly if, at some place in it, what stands before has tokens and what follows
begins with a violation: a character that begins no lexeme, a word that begins with a digit, or a
reserved word without white space after it. The violation and its place are what is reported. So no
earlier part of a text hides or moves a violation, and no text contains two that could be reported.
-/

namespace Sentential

open Text Segmentation

/-- `Violation before after place error`: the text `after`, which begins at byte `place` and has
`before` in front of it, begins with a lexical violation that is reported as `error`. -/
inductive Violation (before after : List Char) (place : Nat) : SyntaxError → Prop where
  /-- A character that is no white space, no parenthesis and no word character. -/
  | character {c : Char} {rest : List Char} (next : after = c :: rest)
      (notSpace : isWhiteSpace c = false) (notOpening : c ≠ '(') (notClosing : c ≠ ')')
      (notLetter : isAlphabetic c = false) (notDigit : c.isDigit = false) :
      Violation before after place ⟨.unexpectedChar c, place⟩
  /-- A maximal run of word characters that begins with a digit. -/
  | digit {word rest : List Char} (next : after = word ++ rest) (run : Run word rest)
      (begun : ∀ c ∈ before.getLast?, isWordChar c = false)
      (begins : ∃ c ∈ word.head?, c.isDigit = true) :
      Violation before after place ⟨.invalidIdentifier (String.ofList word), place⟩
  /-- A maximal run that spells a reserved word, at the end of the text or in front of something
  other than white space. It is reported at its end. -/
  | unspaced {word rest : List Char} {keyword : Keyword} (next : after = word ++ rest)
      (run : Run word rest) (begun : ∀ c ∈ before.getLast?, isWordChar c = false)
      (reserved : IsReserved word keyword) (followed : ∀ c ∈ rest.head?, isWhiteSpace c = false) :
      Violation before after place
        ⟨.missingSpaceAfter keyword, place + keyword.word.utf8ByteSize⟩

/-! ## The spelling of reserved words -/

/-- The lower case of a character is encoded in as many bytes. -/
theorem utf8Size_toLower (c : Char) : c.toLower.utf8Size = c.utf8Size := by
  by_cases capital : c.val ≥ 'A'.val ∧ c.val ≤ 'Z'.val
  · have lowered : c.toLower.val = c.val + ('a'.val - 'A'.val) :=
      congrArg Char.val (dif_pos capital)
    obtain ⟨lower, upper⟩ := capital
    have bounds : 65 ≤ c.val.toNat ∧ c.val.toNat ≤ 90 := ⟨lower, upper⟩
    have shifted : (c.val + ('a'.val - 'A'.val)).toNat = (c.val.toNat + 32) % 2 ^ 32 :=
      UInt32.toNat_add _ _
    have lowerSize : c.toLower.utf8Size = 1 := by
      rw [Char.utf8Size_eq_one_iff, lowered, UInt32.le_iff_toNat_le, shifted]
      change _ ≤ 127
      omega
    have size : c.utf8Size = 1 := by
      rw [Char.utf8Size_eq_one_iff]
      exact UInt32.le_trans upper (by decide)
    rw [lowerSize, size]
  · have same : c.toLower = c := dif_neg capital
    rw [same]

/-- A text in lower case is as long as in capitals. -/
theorem byteLength_map_toLower (text : List Char) :
    byteLength (text.map Char.toLower) = byteLength text := by
  induction text with
  | nil => rfl
  | cons c rest inductionHypothesis =>
    rw [List.map_cons, byteLength_cons, byteLength_cons, utf8Size_toLower, inductionHypothesis]

/-- A reserved word in capitals is as long as in lower case. -/
theorem byteLength_of_reserved {word : List Char} {keyword : Keyword}
    (reserved : IsReserved word keyword) : byteLength word = keyword.word.utf8ByteSize := by
  rw [← byteLength_map_toLower, reserved, byteLength_toList]

/-- A digit has no lower case of its own. -/
theorem toLower_of_isDigit {c : Char} (digit : c.isDigit = true) : c.toLower = c := by
  simp only [Char.isDigit, Bool.and_eq_true, decide_eq_true_eq] at digit
  apply dif_neg
  rintro ⟨capital, _⟩
  have below : c.val < 'A'.val := UInt32.lt_of_le_of_lt digit.2 (by decide)
  exact absurd capital (UInt32.not_le.mpr below)

/-- No reserved word begins with a digit. -/
theorem head_of_reserved {word : List Char} {keyword : Keyword}
    (reserved : IsReserved word keyword) : word.head?.any Char.isDigit = false := by
  cases word with
  | nil => rfl
  | cons c rest =>
    cases digit : c.isDigit with
    | false => exact digit
    | true =>
      have member : c ∈ keyword.word.toList := by
        rw [← show (c :: rest).map Char.toLower = keyword.word.toList from reserved,
          List.map_cons, toLower_of_isDigit digit]
        exact List.mem_cons_self
      have letter := ((reserved_letters keyword).2.1 c member).2
      exact absurd (digit.symm.trans letter) Bool.noConfusion

/-- A capital of a word character is one as well. -/
theorem isWordChar_of_toLower {c : Char} (lower : isWordChar c.toLower = true) :
    isWordChar c = true := by
  by_cases capital : c.val ≥ 'A'.val ∧ c.val ≤ 'Z'.val
  · have latin : c.isAlpha = true := Bool.or_eq_true_iff.mpr (.inl (decide_eq_true capital))
    rw [isWordChar, isAlphabetic_of_isAlpha c latin, Bool.true_or]
  · have same : c.toLower = c := dif_neg capital
    rwa [same] at lower

/-- A reserved word is a word, in capitals as well. -/
theorem isWord_of_reserved {word : List Char} {keyword : Keyword}
    (reserved : IsReserved word keyword) : IsWord word := by
  obtain ⟨nonempty, letters, _⟩ := reserved_letters keyword
  refine .of_characters ?_ ?_ ?_
  · rintro rfl
    exact nonempty reserved.symm
  · intro c member
    refine isWordChar_of_toLower (letters c.toLower ?_).1
    rw [← show word.map Char.toLower = keyword.word.toList from reserved]
    exact List.mem_map_of_mem member
  · intro c first
    have noDigit := (Option.any_eq_false _ _).mp (head_of_reserved reserved) c first
    simpa using noDigit

/-! ## A violation is refused -/

/-- No run of word characters goes on into a violation. -/
theorem Violation.apart {before after : List Char} {place : Nat} {error : SyntaxError}
    (violation : Violation before after place error) : Apart before after := by
  intro c last wordChar
  cases violation with
  | character next notSpace notOpening notClosing notLetter notDigit =>
    rw [next]
    rintro d ⟨⟩
    rw [isWordChar, notLetter, notDigit]
    rfl
  | digit next run begun begins =>
    exact absurd ((begun c last).symm.trans wordChar) Bool.noConfusion
  | unspaced next run begun reserved followed =>
    exact absurd ((begun c last).symm.trans wordChar) Bool.noConfusion

/-- Reading a text that begins with a violation reports it. -/
theorem Violation.scan {before after : List Char} {place : Nat} {error : SyntaxError}
    (violation : Violation before after place error) (found : List Located) :
    Token.scan found place after = .error error := by
  cases violation with
  | character next notSpace notOpening notClosing notLetter notDigit =>
    rw [next]
    apply scan_other _ _ _ notSpace notOpening notClosing
    rw [isWordChar, notLetter, notDigit]
    rfl
  | digit next run begun begins =>
    rw [next, run.scan, Token.ofWord, if_pos ((head_any_iff Char.isDigit _).mpr begins)]
  | @unspaced word rest keyword next run begun reserved followed =>
    have noDigit : ¬ word.head?.any Char.isDigit = true := by simp [head_of_reserved reserved]
    have noSpace : ¬ rest.head?.any isWhiteSpace = true := by
      intro space
      obtain ⟨c, first, isSpace⟩ := (head_any_iff _ _).mp space
      exact absurd ((followed c first).symm.trans isSpace) Bool.noConfusion
    rw [next, run.scan, Token.ofWord, if_neg noDigit,
      (Keyword.ofWord?_eq_some_iff _ keyword).mpr reserved]
    simp only [if_neg noSpace, byteLength_of_reserved reserved]

/-! ## A refused text has a violation -/

/-- A run of word characters that is refused is a violation, wherever no word character stands in
front of it. -/
theorem violation_of_ofWord {before word rest : List Char} {place : Nat} {error : SyntaxError}
    (run : Run word rest) (begun : ∀ c ∈ before.getLast?, isWordChar c = false)
    (failed : Token.ofWord place word rest = .error error) :
    Violation before (word ++ rest) place error := by
  unfold Token.ofWord at failed
  split at failed
  · rename_i digit
    obtain rfl := Except.error.inj failed
    exact .digit rfl run begun ((head_any_iff _ _).mp digit)
  · split at failed
    · simp at failed
    · rename_i keyword recognised
      have reserved := (Keyword.ofWord?_eq_some_iff word keyword).mp recognised
      split at failed
      · simp at failed
      · rename_i noSpace
        obtain rfl := Except.error.inj failed
        rw [byteLength_of_reserved reserved]
        refine .unspaced rfl run begun reserved ?_
        intro c first
        cases space : isWhiteSpace c with
        | false => rfl
        | true => exact absurd ((head_any_iff _ _).mpr ⟨c, first, space⟩) noSpace

/-- A violation does not begin with white space. -/
theorem Violation.head {before after : List Char} {place : Nat} {error : SyntaxError}
    (violation : Violation before after place error) :
    ∀ c ∈ after.head?, isWhiteSpace c = false := by
  have ofRun : ∀ {word rest : List Char}, Run word rest →
      ∀ c ∈ (word ++ rest).head?, isWhiteSpace c = false := by
    intro word rest run c first
    obtain ⟨d, second, wordChar⟩ := run.head
    obtain rfl := Option.some.inj ((Option.mem_def.mp first).symm.trans second)
    exact (wordChar_apart c wordChar).1
  cases violation with
  | character next notSpace notOpening notClosing notLetter notDigit =>
    rw [next]
    rintro d ⟨⟩
    exact notSpace
  | digit next run begun begins => exact next ▸ ofRun run
  | unspaced next run begun reserved followed => exact next ▸ ofRun run

/-- What stands further in front of a violation makes no difference. -/
theorem Violation.append {lead before after : List Char} {place : Nat} {error : SyntaxError}
    (violation : Violation before after place error) (apart : Apart lead (before ++ after)) :
    Violation (lead ++ before) after place error := by
  cases violation with
  | character next notSpace notOpening notClosing notLetter notDigit =>
    exact .character next notSpace notOpening notClosing notLetter notDigit
  | digit next run begun begins =>
    exact .digit next run (begun_append run (next ▸ apart) begun) begins
  | unspaced next run begun reserved followed =>
    exact .unspaced next run (begun_append run (next ▸ apart) begun) reserved followed

/-- Somewhere in the text, which begins at byte `position`, stands a violation that is reported as
`error`, and what stands before it in the text can be cut. -/
def Violated (text : List Char) (position : Nat) (error : SyntaxError) : Prop :=
  ∃ before after : List Char, before ++ after = text ∧ (∃ cut : Cut, cut.IsOf before) ∧
    Violation before after (position + byteLength before) error

/-- A text that begins with a violation has one. -/
theorem Violation.violated {text : List Char} {position : Nat} {error : SyntaxError}
    (violation : Violation [] text position error) : Violated text position error :=
  ⟨[], text, rfl, ⟨⟨[], []⟩, by simp [IsBlank], trivial, rfl⟩, violation⟩

/-- A text with a violation in it still has one if more stands in front of it, from where no run
goes on and which can be cut off in front of anything that stands before a violation. -/
theorem Violated.append (lead : List Char) {text : List Char} {position : Nat}
    {error : SyntaxError}
    (violated : Violated text (position + byteLength lead) error) (apart : Apart lead text)
    (cuts : ∀ (before after : List Char) (place : Nat) (cut : Cut), before ++ after = text →
      Violation before after place error → cut.IsOf before →
      ∃ longer : Cut, longer.IsOf (lead ++ before)) :
    Violated (lead ++ text) position error := by
  obtain ⟨before, after, rfl, ⟨cut, isOf⟩, violation⟩ := violated
  refine ⟨lead ++ before, after, List.append_assoc _ _ _, ?_, ?_⟩
  · exact cuts before after _ cut rfl violation isOf
  · rw [byteLength_append, ← Nat.add_assoc]
    exact violation.append apart

/-- A word that was read stands in front of whatever precedes a violation in the text after it:
white space follows a reserved word, and no violation begins with that. -/
theorem stands_of_ofWord {word before after : List Char} {position place : Nat} {token : Token}
    {error : SyntaxError} (run : Run word (before ++ after))
    (read : Token.ofWord position word (before ++ after) = .ok token)
    (violation : Violation before after place error) : Stands word before := by
  obtain ⟨⟨isWord, _⟩, followed⟩ :=
    spells_of_ofWord position word _ token run.nonempty run.characters read
  refine isWord.stands ?_ ?_
  · intro c next
    apply run.ends
    rw [List.head?_append, Option.mem_def.mp next]
    rfl
  · intro keyword reserved
    obtain ⟨c, next, space⟩ := followed keyword reserved
    cases before with
    | nil => exact absurd ((violation.head c next).symm.trans space) Bool.noConfusion
    | cons d further => exact ⟨c, next, space⟩

/-- A text is refused only for a violation in it.

Go along the text as it is read. What is passed comes in front of the part before the violation. -/
theorem violated_of_scan (text : List Char) (found : List Located) (position : Nat)
    (error : SyntaxError) (failed : Token.scan found position text = .error error) :
    Violated text position error := by
  induction text using text_induction generalizing found position with
  | ended => simp [Token.scan] at failed
  | blank c rest space inductionHypothesis =>
    rw [scan_whiteSpace _ _ _ space] at failed
    apply Violated.append [c] (inductionHypothesis _ _ failed)
    · exact apart_of_not_wordChar (isWordChar_of_isWhiteSpace c space) rest
    · intro before after place cut _ _ isOf
      exact ⟨_, isOf.blank_cons c space⟩
  | paren c token rest paren inductionHypothesis =>
    rw [paren.scan] at failed
    apply Violated.append [c] (inductionHypothesis _ _ failed)
    · exact apart_of_not_wordChar paren.notWord rest
    · intro before after place cut _ _ isOf
      exact ⟨_, isOf.lexeme_cons (paren.stands before)⟩
  | run word rest run inductionHypothesis =>
    rw [run.scan] at failed
    cases first : Token.ofWord position word rest with
    | error other =>
      rw [first] at failed
      obtain rfl := Except.error.inj failed
      exact (violation_of_ofWord run (by simp) first).violated
    | ok token =>
      rw [first] at failed
      apply Violated.append word (inductionHypothesis _ _ failed)
      · intro _ _ _
        exact run.ends
      · rintro before after place cut rfl violation isOf
        exact ⟨_, isOf.lexeme_cons (stands_of_ofWord run first violation)⟩
  | other c rest notSpace notOpening notClosing notWord =>
    rw [scan_other _ _ _ notSpace notOpening notClosing notWord] at failed
    obtain rfl := Except.error.inj failed
    obtain ⟨notLetter, notDigit⟩ := Bool.or_eq_false_iff.mp notWord
    exact Violation.violated (.character rfl notSpace notOpening notClosing notLetter notDigit)

/-- The tokenizer reports the leftmost lexical violation, and nothing else. A text is refused with
an error exactly if it can be divided so that the first part has tokens and the second begins with a
violation that is reported as that error: an unexpected character or a word with a digit in front at
the place of the division, a reserved word without white space two or three bytes later, at its
end. -/
theorem tokenize_error_iff (text : String) (error : SyntaxError) :
    (tokenize text = .error error ↔
      ∃ before after : String, before ++ after = text ∧ (∃ tokens, tokenize before = .ok tokens) ∧
        Violation before.toList after.toList before.utf8ByteSize error) ∧
    ∀ keyword : Keyword, keyword.word.utf8ByteSize = 2 ∨ keyword.word.utf8ByteSize = 3 := by
  refine ⟨⟨?_, ?_⟩, ?_⟩
  · intro failed
    obtain ⟨before, after, whole, ⟨cut, isOf⟩, violation⟩ :=
      violated_of_scan text.toList [] 0 error failed
    refine ⟨String.ofList before, String.ofList after, ?_, ?_, ?_⟩
    · rw [← String.toList_inj, String.toList_append, String.toList_ofList, String.toList_ofList,
        whole]
    · obtain ⟨tokens, gives⟩ := exists_gives ([] ++ cut.lead) cut.pieces isOf.proper
      rw [← String.toList_ofList (l := before)] at isOf
      exact ⟨tokens, tokenize_of_cut _ cut tokens isOf gives⟩
    · rw [← byteLength_toList, String.toList_ofList, String.toList_ofList]
      rwa [Nat.zero_add] at violation
  · rintro ⟨before, after, rfl, ⟨tokens, read⟩, violation⟩
    rw [tokenize, String.toList_append, scan_append_of_ok violation.apart read, Nat.zero_add,
      byteLength_toList, violation.scan]
  · intro keyword
    cases keyword with
    | not => decide
    | binary connective => cases connective <;> decide

end Sentential
