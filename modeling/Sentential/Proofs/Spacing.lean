import Mathlib.Data.List.Basic
import Sentential.Proofs.Relocation
import Sentential.Proofs.Splitting

/-!
# More white space

White space can be put into a text wherever that neither divides a word nor supplies the white space
that is missing after a reserved word. The text is then the same sentence as before, or is refused
for the same cause; only the places from there on move by the bytes that were put in.
-/

namespace Sentential

open Text Segmentation

/-- White space between `before` and `after` changes neither a word nor what is missing: the place
is not inside a run of word characters, and not at the end of a run that spells a reserved word
unless white space follows there already. -/
structure Gap (before after : List Char) : Prop where
  apart : Apart before after
  followed : ∀ (front word : List Char) (keyword : Keyword), before = front ++ word →
    Run word after → (∀ c ∈ front.getLast?, isWordChar c = false) → IsReserved word keyword →
      ∃ c ∈ after.head?, isWhiteSpace c = true

/-- The place to which a place moves if `width` bytes are put in at byte `place`. -/
def widened (place width position : Nat) : Nat :=
  if position < place then position else position + width

/-- A reading of which all places were moved. -/
def movedReading (move : Nat → Nat) :
    Except SyntaxError (List Located) → Except SyntaxError (List Located)
  | .ok tokens => .ok (tokens.map (Located.moved move))
  | .error error => .error (error.moved move)

/-! ## Places before and after the gap -/

/-- A place in front of the gap stays. -/
theorem widened_of_lt {place position : Nat} (width : Nat) (before : position < place) :
    widened place width position = position := if_pos before

/-- A place behind the gap moves by its width. -/
theorem widened_of_le {place position : Nat} (width : Nat) (after : place ≤ position) :
    widened place width position = position + width := if_neg (Nat.not_lt_of_le after)

/-- A text that is not empty has bytes. -/
theorem byteLength_pos {text : List Char} (nonempty : text ≠ []) : 0 < byteLength text := by
  obtain ⟨c, rest, rfl⟩ := List.exists_cons_of_ne_nil nonempty
  rw [byteLength_cons]
  have size := c.utf8Size_pos
  omega

/-- A word further on in the text is the same token, or is refused alike further on. -/
theorem ofWord_moved {place position : Nat} (width : Nat) (beyond : place ≤ position)
    (word after : List Char) :
    Token.ofWord (position + width) word after
      = (Token.ofWord position word after).mapError (SyntaxError.moved (widened place width)) := by
  unfold Token.ofWord
  split
  · simp only [Except.mapError, SyntaxError.moved, widened_of_le width beyond]
  · cases Keyword.ofWord? word with
    | none => rfl
    | some keyword =>
      by_cases space : after.head?.any isWhiteSpace = true
      · simp only [if_pos space]
        rfl
      · have further : place ≤ position + byteLength word := Nat.le_add_right_of_le beyond
        simp only [if_neg space, Except.mapError, SyntaxError.moved, widened_of_le width further,
          Nat.add_right_comm]

/-- What begins behind the gap is read alike, further on. -/
theorem scan_moved (text : List Char) (found : List Located) {place position : Nat} (width : Nat)
    (beyond : place ≤ position) :
    Token.scan (found.map (Located.moved (widened place width))) (position + width) text
      = movedReading (widened place width) (Token.scan found position text) := by
  have here : widened place width position = position + width := widened_of_le width beyond
  induction text using text_induction generalizing found position with
  | ended =>
    rw [Token.scan, Token.scan, movedReading, List.map_reverse]
  | blank c rest space inductionHypothesis =>
    have further := Nat.le_add_right_of_le (k := c.utf8Size) beyond
    rw [scan_whiteSpace _ _ _ space, scan_whiteSpace _ _ _ space, Nat.add_right_comm]
    exact inductionHypothesis found further (widened_of_le width further)
  | paren c token rest paren inductionHypothesis =>
    have further := Nat.le_add_right_of_le (k := c.utf8Size) beyond
    rw [paren.scan, paren.scan, Nat.add_right_comm,
      ← inductionHypothesis _ further (widened_of_le width further), List.map_cons, Located.moved,
      here]
  | run word rest run inductionHypothesis =>
    have further := Nat.le_add_right_of_le (k := byteLength word) beyond
    rw [run.scan, run.scan, ofWord_moved width beyond]
    cases Token.ofWord position word rest with
    | error error => rfl
    | ok token =>
      simp only [Except.mapError]
      rw [Nat.add_right_comm, ← inductionHypothesis _ further (widened_of_le width further),
        List.map_cons, Located.moved, here]
  | other c rest notSpace notOpening notClosing notWord =>
    rw [scan_other _ _ _ notSpace notOpening notClosing notWord,
      scan_other _ _ _ notSpace notOpening notClosing notWord, movedReading, SyntaxError.moved,
      here]

/-! ## Reading across the gap -/

/-- A gap in a text is also one in its final part, unless a run goes on into that part. -/
theorem Gap.of_append (lead : List Char) {before after : List Char}
    (gap : Gap (lead ++ before) after) (apart : Apart lead (before ++ after)) :
    Gap before after := by
  refine ⟨Apart.of_append lead gap.apart, ?_⟩
  rintro front word keyword rfl run begun reserved
  rw [List.append_assoc] at apart
  exact gap.followed (lead ++ front) word keyword (List.append_assoc _ _ _).symm run
    (begun_append run apart begun) reserved

/-- With white space between them, two texts are apart as before. -/
theorem Apart.insert {before after : List Char} (apart : Apart before after) {space : List Char}
    (blank : IsBlank space) : Apart before (space ++ after) := by
  cases space with
  | nil => exact apart
  | cons d further =>
    rintro c _ _ e ⟨⟩
    exact isWordChar_of_isWhiteSpace d (blank d List.mem_cons_self)

/-- A word in front of a gap is followed by white space as before, if it is reserved. -/
theorem ofWord_insert {word rest after space : List Char} (position : Nat) (run : Run word rest)
    (gap : Gap (word ++ rest) after) (blank : IsBlank space) :
    Token.ofWord position word (rest ++ (space ++ after))
      = Token.ofWord position word (rest ++ after) := by
  apply ofWord_congr
  intro keyword reserved
  cases rest with
  | cons d further => rfl
  | nil =>
    have followed : ∃ c ∈ after.head?, isWhiteSpace c = true :=
      gap.followed [] word keyword (List.append_nil word) (run.append gap.apart) (by simp) reserved
    cases space with
    | nil => rfl
    | cons d further =>
      have first : isWhiteSpace d = true := blank d List.mem_cons_self
      have other := (head_any_iff isWhiteSpace after).mpr followed
      simp [first, other]

/-- A word in front of a gap is refused, if it is, in front of the gap. -/
theorem position_of_refused_word {word rest after : List Char} {position : Nat}
    {error : SyntaxError} (run : Run word rest) (gap : Gap (word ++ rest) after)
    (failed : Token.ofWord position word (rest ++ after) = .error error) :
    error.position < position + byteLength (word ++ rest) := by
  have bytes := byteLength_pos run.nonempty
  rw [byteLength_append]
  unfold Token.ofWord at failed
  split at failed
  · obtain rfl := Except.error.inj failed
    change position < _
    omega
  · split at failed
    · simp at failed
    · rename_i keyword recognised
      have reserved := (Keyword.ofWord?_eq_some_iff word keyword).mp recognised
      split at failed
      · simp at failed
      · rename_i noSpace
        obtain rfl := Except.error.inj failed
        have more : rest ≠ [] := by
          rintro rfl
          have followed := gap.followed [] word keyword (List.append_nil word)
            (run.append gap.apart) (by simp) reserved
          exact noSpace ((head_any_iff _ _).mpr followed)
        have moreBytes := byteLength_pos more
        change position + byteLength word < _
        omega

/-- Reading across a gap that was widened comes to the same tokens, or the same refusal, with the
places from the gap on moved.

Go along the text in front of the gap as it is read. The tokens found there are not moved; behind
the gap everything is. -/
theorem scan_insert {before after space : List Char} (gap : Gap before after)
    (blank : IsBlank space) (found : List Located) (position place : Nat)
    (reached : position + byteLength before = place) :
    Token.scan (found.map (Located.moved (widened place (byteLength space)))) position
        (before ++ (space ++ after))
      = movedReading (widened place (byteLength space))
          (Token.scan found position (before ++ after)) := by
  induction before using text_induction generalizing found position with
  | ended =>
    rw [List.nil_append, List.nil_append, scan_blank _ _ _ _ blank]
    exact scan_moved after found _ (Nat.le_of_eq reached.symm)
  | blank c rest isSpace inductionHypothesis =>
    rw [byteLength_cons, ← Nat.add_assoc] at reached
    rw [List.cons_append, List.cons_append, scan_whiteSpace _ _ _ isSpace,
      scan_whiteSpace _ _ _ isSpace]
    apply inductionHypothesis _ found _ reached
    exact gap.of_append [c] (apart_of_not_wordChar (isWordChar_of_isWhiteSpace c isSpace) _)
  | paren c token rest paren inductionHypothesis =>
    have inFront : position < place := by
      have bytes := byteLength_pos (List.cons_ne_nil c rest)
      omega
    rw [byteLength_cons, ← Nat.add_assoc] at reached
    have later : Gap rest after := gap.of_append [c] (apart_of_not_wordChar paren.notWord _)
    rw [List.cons_append, List.cons_append, paren.scan, paren.scan,
      ← inductionHypothesis later _ _ reached, List.map_cons, Located.moved,
      widened_of_lt _ inFront]
  | run word rest run inductionHypothesis =>
    have inside : Run word (rest ++ after) := run.append gap.apart
    have insideWider : Run word (rest ++ (space ++ after)) := run.append (gap.apart.insert blank)
    rw [List.append_assoc, List.append_assoc, inside.scan, insideWider.scan,
      ofWord_insert position run gap blank]
    cases first : Token.ofWord position word (rest ++ after) with
    | error error =>
      have inFront : error.position < place := by
        rw [← reached]
        exact position_of_refused_word run gap first
      rw [movedReading, SyntaxError.moved, widened_of_lt _ inFront]
    | ok token =>
      rw [byteLength_append, ← Nat.add_assoc] at reached
      have inFront : position < place := by
        have bytes := byteLength_pos run.nonempty
        omega
      have apart : Apart word (rest ++ after) := fun _ _ _ => inside.ends
      simp only
      rw [← inductionHypothesis (gap.of_append word apart) _ _ reached, List.map_cons,
        Located.moved, widened_of_lt _ inFront]
  | other c rest notSpace notOpening notClosing notWord =>
    have inFront : position < place := by
      have bytes := byteLength_pos (List.cons_ne_nil c rest)
      omega
    rw [List.cons_append, List.cons_append,
      scan_other _ _ _ notSpace notOpening notClosing notWord,
      scan_other _ _ _ notSpace notOpening notClosing notWord, movedReading, SyntaxError.moved,
      widened_of_lt _ inFront]

namespace Sentence

/-- A text with white space put into a gap is what it was, with the places from the gap on moved. -/
theorem parse_insert (before space after : String) (blank : IsBlank space.toList)
    (gap : Gap before.toList after.toList) :
    parse (before ++ space ++ after)
      = (parse (before ++ after)).mapError
          (SyntaxError.moved (widened before.utf8ByteSize space.utf8ByteSize)) := by
  have read : tokenize (before ++ space ++ after)
      = movedReading (widened before.utf8ByteSize space.utf8ByteSize)
          (tokenize (before ++ after)) := by
    have across := scan_insert gap blank [] 0 _ (Nat.zero_add _)
    rw [byteLength_toList, byteLength_toList] at across
    rw [tokenize, tokenize, String.toList_append, String.toList_append, String.toList_append,
      List.append_assoc]
    exact across
  have finish : (before ++ space ++ after).utf8ByteSize
      = widened before.utf8ByteSize space.utf8ByteSize (before ++ after).utf8ByteSize := by
    rw [widened_of_le _ (by rw [String.utf8ByteSize_append]; exact Nat.le_add_right _ _)]
    simp only [String.utf8ByteSize_append]
    omega
  unfold parse
  rw [read]
  cases tokenize (before ++ after) with
  | error error => rfl
  | ok tokens =>
    simp only [movedReading]
    rw [finish]
    exact ofTokens_moved _ _ tokens

/-- More white space changes nothing but places. Let white space be put into a text at a place that
is not inside a word, and not at the end of a reserved word unless white space follows there. If the
text was a sentence, it is the same sentence as before. If it was refused, be it for its characters,
its tokens, its height or its end, it is refused for the same cause: at the same place if that lies
before the white space, and as many bytes later as were put in otherwise. -/
theorem parse_insert_space (before space after : String) (blank : IsBlank space.toList)
    (gap : Gap before.toList after.toList) :
    (∀ sentence, parse (before ++ after) = .ok sentence →
      parse (before ++ space ++ after) = .ok sentence) ∧
    (∀ cause position, parse (before ++ after) = .error ⟨cause, position⟩ →
      (before.utf8ByteSize ≤ position →
        parse (before ++ space ++ after) = .error ⟨cause, position + space.utf8ByteSize⟩) ∧
      (position < before.utf8ByteSize →
        parse (before ++ space ++ after) = .error ⟨cause, position⟩)) := by
  rw [parse_insert before space after blank gap]
  constructor
  · intro sentence accepted
    rw [accepted]
    rfl
  · intro cause position refused
    rw [refused]
    constructor
    · intro after
      simp only [Except.mapError, SyntaxError.moved, widened_of_le _ after]
    · intro before
      simp only [Except.mapError, SyntaxError.moved, widened_of_lt _ before]

/-- White space of two kinds after a reserved word moves the end of the text, where a parenthesis is
missing. -/
theorem parse_insert_after_reserved :
    IsBlank "\t\u2003".toList ∧ Gap "not (p or".toList " q".toList ∧
      parse "not (p or q" = .error ⟨.unclosedParen, 11⟩ ∧
      parse "not (p or\t\u2003 q" = .error ⟨.unclosedParen, 15⟩ := by
  have blank : IsBlank "\t\u2003".toList := by
    intro c member
    exact List.all_eq_true.mp (show "\t\u2003".toList.all isWhiteSpace = true by decide) c member
  have space : ∃ c ∈ " q".toList.head?, isWhiteSpace c = true := ⟨' ', rfl, by decide⟩
  have gap : Gap "not (p or".toList " q".toList := by
    refine ⟨?_, fun _ _ _ _ _ _ _ => space⟩
    rintro c _ _ d ⟨⟩
    decide
  have tokenized : tokenize ("not (p or" ++ " q") = .ok
      [⟨.reserved .not, 0⟩, ⟨.openParen, 4⟩, ⟨.identifier "p", 5⟩, ⟨.reserved (.binary .or), 7⟩,
        ⟨.identifier "q", 10⟩] := by
    decide +kernel
  have finish : ("not (p or" ++ " q").utf8ByteSize = 11 := by decide
  have refused : parse ("not (p or" ++ " q") = .error ⟨.unclosedParen, 11⟩ := by
    rw [parse, tokenized, finish]
    simp [ofTokens, Formula.read, Formula.expression, Formula.operand, Formula.chain, maxHeight,
      Outcome.enclosed, Outcome.negated]
  have inserted := ((parse_insert_space "not (p or" "\t\u2003" " q" blank gap).2 _ _ refused).1
    (by decide)
  exact ⟨blank, gap, refused, inserted⟩

end Sentence

end Sentential
