import Sentential.Proofs.LexicalErrors
import Sentential.Proofs.Parsing

/-!
# The case of letters

Whether the letters of a reserved word are capitals makes no difference to anything: the text has the
same tokens in the same places, and so it is the same sentence, or it is refused for the same cause at
the same place. It is the whole word that counts, so a letter of `andy` or of `1and` is no letter of a
reserved word.

An identifier is kept as it is spelled. So a sentence tells all identifiers of its text, with the case
of their letters, as it tells the other tokens.
-/

namespace Sentential

open Text Segmentation

/-- The place is that of a letter of a reserved word: of a maximal run of word characters that spells
one in some mixture of upper and lower case. -/
def InReserved (text : List Char) (place : Nat) : Prop :=
  ∃ (front word after : List Char) (keyword : Keyword),
    text = front ++ (word ++ after) ∧ Run word after ∧
      (∀ c ∈ front.getLast?, isWordChar c = false) ∧ IsReserved word keyword ∧
      front.length ≤ place ∧ place < front.length + word.length

/-- The texts are the same up to the case of the ASCII letters of reserved words: they are as long as
one another, and where they differ, they do so in the case of a letter of a reserved word. -/
structure SameButCase (first second : List Char) : Prop where
  lower : first.map Char.toLower = second.map Char.toLower
  reserved : ∀ place, first[place]? ≠ second[place]? → InReserved first place

/-! ## The letters of reserved words -/

/-- A letter of a reserved word is a word character. -/
theorem InReserved.head {text : List Char} (inReserved : InReserved text 0) :
    ∃ c ∈ text.head?, isWordChar c = true := by
  obtain ⟨front, word, after, keyword, rfl, run, _, _, least, _⟩ := inReserved
  obtain rfl := List.length_eq_zero_iff.mp (Nat.le_zero.mp least)
  exact run.head

/-- A run that begins in the first of two texts that are apart, and ends in the second, begins
there. -/
theorem eq_nil_of_apart {lead between tail after : List Char}
    (run : Run (between ++ tail) after) (nonempty : tail ≠ [])
    (apart : Apart (lead ++ between) (tail ++ after)) : between = [] := by
  by_contra more
  obtain ⟨d, rest, rfl⟩ := List.exists_cons_of_ne_nil nonempty
  have last := List.getLast?_eq_some_getLast more
  have ending := run.characters _ (List.mem_append_left _ (List.getLast_mem more))
  have going := run.characters d (List.mem_append_right _ List.mem_cons_self)
  have stopped := Apart.of_append lead apart _ last ending d rfl
  exact absurd (stopped.symm.trans going) Bool.false_ne_true

/-- No reserved word lies across the place between two texts that are apart. -/
theorem InReserved.of_append {lead rest : List Char} {place : Nat} (apart : Apart lead rest)
    (inReserved : InReserved (lead ++ rest) (lead.length + place)) : InReserved rest place := by
  obtain ⟨front, word, after, keyword, split, run, begun, reserved, least, most⟩ := inReserved
  -- A word that begins before the seam ends before it too, or begins exactly there: a run that went
  -- on across it would join the two texts.
  rcases List.append_eq_append_iff.mp split with ⟨between, rfl, rfl⟩ | ⟨between, rfl, joined⟩
  · refine ⟨between, word, after, keyword, rfl, run, ?_, reserved, ?_, ?_⟩
    · intro c last
      exact begun c (by simp [List.getLast?_append, Option.mem_def.mp last])
    · simp only [List.length_append] at least
      omega
    · simp only [List.length_append] at most
      omega
  · have shorter : between.length + place < word.length := by
      simp only [List.length_append] at most
      omega
    rcases List.append_eq_append_iff.mp joined with ⟨tail, rfl, _⟩ | ⟨tail, rfl, rfl⟩
    · simp only [List.length_append] at shorter
      omega
    · have nonempty : tail ≠ [] := by
        rintro rfl
        simp only [List.length_append, List.length_nil] at shorter
        omega
      obtain rfl := eq_nil_of_apart run nonempty apart
      exact ⟨[], tail, after, keyword, rfl, run, by simp, reserved, Nat.zero_le _, by
        simpa using shorter⟩

/-- A run with a letter of a reserved word is that reserved word. -/
theorem InReserved.reserved {word rest : List Char} {place : Nat} (run : Run word rest)
    (inside : place < word.length) (inReserved : InReserved (word ++ rest) place) :
    ∃ keyword, IsReserved word keyword := by
  obtain ⟨front, other, after, keyword, split, otherRun, begun, reserved, least, _⟩ := inReserved
  have first : front = [] := by
    by_contra more
    obtain ⟨tail, rfl, _⟩ : ∃ tail, word = front ++ tail ∧ other ++ after = tail ++ rest := by
      rcases List.append_eq_append_iff.mp split with ⟨tail, rfl, _⟩ | found
      · simp only [List.length_append] at least
        omega
      · exact found
    have last := List.getLast?_eq_some_getLast more
    have ending := run.characters _ (List.mem_append_left _ (List.getLast_mem more))
    exact absurd ((begun _ last).symm.trans ending) Bool.false_ne_true
  subst first
  have same : word = other := calc
    word = (word ++ rest).takeWhile isWordChar :=
      (takeWhile_run isWordChar word rest run.characters run.ends).1.symm
    _ = (other ++ after).takeWhile isWordChar := by rw [split, List.nil_append]
    _ = other := (takeWhile_run isWordChar other after otherRun.characters otherRun.ends).1
  exact ⟨keyword, same ▸ reserved⟩

/-- What is read where a reserved word stands: the word, if white space follows it. -/
theorem ofWord_of_reserved {word : List Char} {keyword : Keyword}
    (reserved : IsReserved word keyword) (position : Nat) (after : List Char) :
    Token.ofWord position word after
      = if after.head?.any isWhiteSpace then .ok (.reserved keyword)
        else .error ⟨.missingSpaceAfter keyword, position + keyword.word.utf8ByteSize⟩ := by
  simp only [Token.ofWord, head_of_reserved reserved, Bool.false_eq_true, if_false,
    (Keyword.ofWord?_eq_some_iff word keyword).mpr reserved, byteLength_of_reserved reserved]

/-! ## Reading a text with other letters -/

/-- Texts that are the same up to the case of reserved words begin with the same character, unless
they begin with a word character. -/
theorem SameButCase.head {first second : List Char} (same : SameButCase first second)
    (notWord : ∀ c ∈ first.head?, isWordChar c = false) : second.head? = first.head? := by
  by_contra differs
  rw [List.head?_eq_getElem?, List.head?_eq_getElem?] at differs
  obtain ⟨c, begins, wordChar⟩ := (same.reserved 0 (Ne.symm differs)).head
  exact absurd ((notWord c begins).symm.trans wordChar) Bool.false_ne_true

/-- What follows first parts of one length, from which the first text is apart, is the same up to the
case of reserved words. -/
theorem SameButCase.rest {lead rest otherLead otherRest : List Char} (apart : Apart lead rest)
    (aligned : lead.length = otherLead.length)
    (same : SameButCase (lead ++ rest) (otherLead ++ otherRest)) : SameButCase rest otherRest := by
  obtain ⟨lower, reserved⟩ := same
  simp only [List.map_append] at lower
  refine ⟨(List.append_inj lower (by simpa using aligned)).2, ?_⟩
  intro place differs
  refine InReserved.of_append apart (reserved (lead.length + place) ?_)
  rwa [List.getElem?_append_right (Nat.le_add_right _ _), Nat.add_sub_cancel_left, aligned,
    List.getElem?_append_right (Nat.le_add_right _ _), Nat.add_sub_cancel_left]

/-- A character that belongs to no word stands in front of both texts. -/
theorem SameButCase.cons {c : Char} {rest second : List Char} (notWord : isWordChar c = false)
    (same : SameButCase (c :: rest) second) :
    ∃ otherRest, second = c :: otherRest ∧ SameButCase rest otherRest := by
  have begins : second.head? = some c := same.head (by simpa using notWord)
  obtain ⟨otherRest, rfl⟩ := List.head?_eq_some_iff.mp begins
  exact ⟨otherRest, rfl, @SameButCase.rest [c] rest [c] otherRest (apart_of_not_wordChar notWord rest)
    rfl same⟩

/-- Where a run stands in front of a text, one of the same length stands in front of the other text,
and both are read alike: as the same reserved word, or they are the same. -/
theorem SameButCase.run {word rest second : List Char} (run : Run word rest)
    (same : SameButCase (word ++ rest) second) :
    ∃ otherWord otherRest, second = otherWord ++ otherRest ∧ Run otherWord otherRest ∧
      byteLength otherWord = byteLength word ∧ SameButCase rest otherRest ∧
      ∀ position, Token.ofWord position otherWord otherRest = Token.ofWord position word rest := by
  obtain ⟨otherWord, otherRest, rfl, wordLower, restLower⟩ := List.map_eq_append_iff.mp
    (same.lower.symm.trans List.map_append)
  have aligned : word.length = otherWord.length := by
    simpa using (congrArg List.length wordLower).symm
  have later : SameButCase rest otherRest := SameButCase.rest (fun _ _ _ => run.ends) aligned same
  have next : otherRest.head? = rest.head? := later.head run.ends
  refine ⟨otherWord, otherRest, rfl, ?_⟩
  by_cases isReserved : ∃ keyword, IsReserved word keyword
  · obtain ⟨keyword, reserved⟩ := isReserved
    have otherReserved : IsReserved otherWord keyword := wordLower.trans reserved
    have isWord := isWord_of_reserved otherReserved
    refine ⟨⟨isWord.nonempty, isWord.characters, next ▸ run.ends⟩, ?_, later, ?_⟩
    · rw [byteLength_of_reserved otherReserved, byteLength_of_reserved reserved]
    · intro position
      rw [ofWord_of_reserved otherReserved, ofWord_of_reserved reserved, next]
  · obtain rfl : otherWord = word := by
      refine List.ext_getElem aligned.symm ?_
      intro place otherInside inside
      by_contra differs
      refine isReserved (InReserved.reserved run inside (same.reserved place ?_))
      rw [List.getElem?_append_left inside, List.getElem?_append_left otherInside]
      simpa [inside, otherInside] using Ne.symm differs
    refine ⟨⟨run.nonempty, run.characters, next ▸ run.ends⟩, rfl, later, ?_⟩
    intro position
    apply ofWord_congr
    rw [next]
    exact fun _ _ => rfl

/-- Texts that are the same up to the case of reserved words are read as the same tokens in the same
places, or refused alike.

Go along the first text as it is read. White space, parentheses and whatever else is no word character
stand in both texts; runs are read alike. -/
theorem scan_sameButCase {first second : List Char} (same : SameButCase first second)
    (found : List Located) (position : Nat) :
    Token.scan found position second = Token.scan found position first := by
  induction first using text_induction generalizing second found position with
  | ended =>
    obtain rfl : second = [] := by simpa using same.lower.symm
    rfl
  | blank c rest space inductionHypothesis =>
    obtain ⟨otherRest, rfl, later⟩ := same.cons (isWordChar_of_isWhiteSpace c space)
    rw [scan_whiteSpace _ _ _ space, scan_whiteSpace _ _ _ space, inductionHypothesis later]
  | paren c token rest paren inductionHypothesis =>
    obtain ⟨otherRest, rfl, later⟩ := same.cons paren.notWord
    rw [paren.scan, paren.scan, inductionHypothesis later]
  | run word rest run inductionHypothesis =>
    obtain ⟨otherWord, otherRest, rfl, otherRun, bytes, later, alike⟩ := same.run run
    rw [run.scan, otherRun.scan, alike, bytes]
    cases Token.ofWord position word rest with
    | error error => rfl
    | ok token => exact inductionHypothesis later _ _
  | other c rest notSpace notOpening notClosing notWord =>
    obtain ⟨otherRest, rfl, _⟩ := same.cons notWord
    rw [scan_other _ _ _ notSpace notOpening notClosing notWord,
      scan_other _ _ _ notSpace notOpening notClosing notWord]

/-- A reserved word can be spelled in another way. -/
theorem sameButCase_of_reserved {front word other after : List Char} {keyword : Keyword}
    (run : Run word after) (begun : ∀ c ∈ front.getLast?, isWordChar c = false)
    (reserved : IsReserved word keyword) (otherReserved : IsReserved other keyword) :
    SameButCase (front ++ (word ++ after)) (front ++ (other ++ after)) := by
  have lower : word.map Char.toLower = other.map Char.toLower := reserved.trans otherReserved.symm
  have aligned : word.length = other.length := by simpa using congrArg List.length lower
  refine ⟨by simp [lower], ?_⟩
  intro place differs
  by_cases before : place < front.length
  · simp [List.getElem?_append_left before] at differs
  by_cases behind : front.length + word.length ≤ place
  · rw [List.getElem?_append_right (by omega), List.getElem?_append_right (by omega),
      List.getElem?_append_right (by omega), List.getElem?_append_right (by omega), aligned] at differs
    exact absurd rfl differs
  exact ⟨front, word, after, keyword, rfl, run, begun, reserved, by omega, by omega⟩

namespace Sentence

open Formula

/-- Sentences have the same formula exactly if their texts have the same tokens. -/
theorem formula_eq_iff {first second : String} {left right : Sentence}
    (firstAccepted : parse first = .ok left) (secondAccepted : parse second = .ok right) :
    ∃ firstTokens secondTokens, tokenize first = .ok firstTokens ∧
      tokenize second = .ok secondTokens ∧
      (left.formula = right.formula ↔
        firstTokens.map Located.token = secondTokens.map Located.token) := by
  obtain ⟨firstTokens, firstRead, firstOk⟩ := exists_tokens_of_parse firstAccepted
  obtain ⟨secondTokens, secondRead, secondOk⟩ := exists_tokens_of_parse secondAccepted
  obtain ⟨leftFormula, leftCanonical, leftWritten, _, rfl⟩ :=
    (ofTokens_eq_ok_iff firstTokens left).mp firstOk
  obtain ⟨rightFormula, rightCanonical, rightWritten, _, rfl⟩ :=
    (ofTokens_eq_ok_iff secondTokens right).mp secondOk
  refine ⟨firstTokens, secondTokens, firstRead, secondRead, ?_⟩
  rw [leftWritten, rightWritten]
  exact ⟨congrArg Formula.tokens, tokens_injective _ _ leftCanonical rightCanonical⟩

/-- The case of letters matters in identifiers and nowhere else. If two texts are the same up to the
case of reserved words, they have the same tokens in the same places or are refused with the same
lexical error; so they are the same sentence, or are refused with the same error.

But two sentences have the same formula only if their texts have the same tokens. So if an identifier
in one text differs from the one in its place in the other, be it in the case of a letter, the formulas
differ. -/
theorem case_matters_in_identifiers_alone :
    (∀ first second : String, SameButCase first.toList second.toList →
      tokenize second = tokenize first ∧ parse second = parse first) ∧
    ∀ (first second : String) (left right : Sentence),
      parse first = .ok left → parse second = .ok right →
      ∃ firstTokens secondTokens, tokenize first = .ok firstTokens ∧
        tokenize second = .ok secondTokens ∧
        (left.formula = right.formula ↔
          firstTokens.map Located.token = secondTokens.map Located.token) ∧
        ∀ (place : Nat) (name other : String),
          (firstTokens.map Located.token)[place]? = some (.identifier name) →
          (secondTokens.map Located.token)[place]? = some (.identifier other) →
          name ≠ other → left.formula ≠ right.formula := by
  constructor
  · intro first second same
    have read : tokenize second = tokenize first := scan_sameButCase same [] 0
    have bytes : second.utf8ByteSize = first.utf8ByteSize := by
      rw [← byteLength_toList, ← byteLength_toList, ← byteLength_map_toLower, ← same.lower,
        byteLength_map_toLower]
    exact ⟨read, by rw [parse, parse, read, bytes]⟩
  · intro first second left right firstAccepted secondAccepted
    obtain ⟨firstTokens, secondTokens, firstRead, secondRead, told⟩ :=
      formula_eq_iff firstAccepted secondAccepted
    refine ⟨firstTokens, secondTokens, firstRead, secondRead, told, ?_⟩
    intro place name other here there differ same
    rw [told.mp same, there] at here
    exact differ (Token.identifier.inj (Option.some.inj here)).symm

/-- A capital in a reserved word makes no difference to where white space is missing after it, and one
in the identifier `andY` makes another formula. -/
theorem case_matters_in_name :
    SameButCase "noT(p)".toList "NOt(p)".toList ∧
      parse "NOt(p)" = .error ⟨.missingSpaceAfter .not, 3⟩ ∧
      ∃ left right, parse "p AND andY" = .ok left ∧ parse "p and andy" = .ok right ∧
        left.formula ≠ right.formula := by
  have run : Run "noT".toList "(p)".toList := by
    refine ⟨by decide, List.all_eq_true.mp (by decide), ?_⟩
    rintro c ⟨⟩
    exact parens_apart.1
  have same : SameButCase "noT(p)".toList "NOt(p)".toList :=
    @sameButCase_of_reserved [] _ "NOt".toList _ .not run (by simp) rfl rfl
  have firstAccepted : parse "p AND andY"
      = .ok (ofFormula (.binary .and (.var "p") (.var "andY"))) := by
    decide +kernel
  have secondAccepted : parse "p and andy"
      = .ok (ofFormula (.binary .and (.var "p") (.var "andy"))) := by
    decide +kernel
  have refused : parse "noT(p)" = .error ⟨.missingSpaceAfter .not, 3⟩ := by decide +kernel
  obtain ⟨ignores, tells⟩ := case_matters_in_identifiers_alone
  refine ⟨same, (ignores _ _ same).2.trans refused, _, _, firstAccepted, secondAccepted, ?_⟩
  obtain ⟨firstTokens, secondTokens, firstRead, secondRead, _, differ⟩ :=
    tells _ _ _ _ firstAccepted secondAccepted
  have firstKnown : tokenize "p AND andY" = .ok
      [⟨.identifier "p", 0⟩, ⟨.reserved (.binary .and), 2⟩, ⟨.identifier "andY", 6⟩] := by
    decide +kernel
  have secondKnown : tokenize "p and andy" = .ok
      [⟨.identifier "p", 0⟩, ⟨.reserved (.binary .and), 2⟩, ⟨.identifier "andy", 6⟩] := by
    decide +kernel
  obtain rfl := Except.ok.inj (firstRead.symm.trans firstKnown)
  obtain rfl := Except.ok.inj (secondRead.symm.trans secondKnown)
  exact differ 2 "andY" "andy" rfl rfl (by decide)

end Sentence

end Sentential
