import Sentential.Text.Alphabetic
import Sentential.Text.WhiteSpace

/-!
# Words

A word is a run of letters and ASCII digits. Letters are the Alphabetic characters; of the other
numeric characters only the ten ASCII digits belong to words. White space and parentheses never
do, so a word always ends where a separator begins.

The length of a text in bytes is that of its UTF-8 form, the unit in which positions are given.
-/

namespace Sentential.Text

/-- True at the characters a word consists of. -/
def isWordChar (c : Char) : Bool := isAlphabetic c || c.isDigit

/-- The characters of words are letters and ASCII digits. -/
theorem isWordChar_iff (c : Char) :
    isWordChar c = true ↔ isAlphabetic c = true ∨ c.isDigit = true := by simp [isWordChar]

/-- What is neither a letter nor an ASCII digit does not belong to a word. -/
theorem isWordChar_eq_false_iff (c : Char) :
    isWordChar c = false ↔ isAlphabetic c = false ∧ c.isDigit = false := by simp [isWordChar]

/-- The number of bytes of the UTF-8 form. -/
def byteLength : List Char → Nat
  | [] => 0
  | c :: rest => c.utf8Size + byteLength rest

@[simp] theorem byteLength_nil : byteLength [] = 0 := rfl

@[simp] theorem byteLength_cons (c : Char) (rest : List Char) :
    byteLength (c :: rest) = c.utf8Size + byteLength rest := rfl

@[simp] theorem byteLength_append (front back : List Char) :
    byteLength (front ++ back) = byteLength front + byteLength back := by
  induction front with
  | nil => exact (Nat.zero_add _).symm
  | cons c front inductionHypothesis =>
    rw [List.cons_append, byteLength_cons, byteLength_cons, inductionHypothesis, Nat.add_assoc]

/-- The encoded characters are as many bytes as their lengths add up to. -/
theorem size_utf8Encode (text : List Char) : text.utf8Encode.size = byteLength text := by
  induction text with
  | nil => rfl
  | cons c rest inductionHypothesis =>
    rw [List.utf8Encode_cons, ByteArray.size_append, inductionHypothesis, byteLength_cons,
      List.utf8Encode_singleton, List.size_toByteArray, String.length_utf8EncodeChar]

/-- The length of the characters of a string is the size of the string itself. -/
theorem byteLength_toList (text : String) : byteLength text.toList = text.utf8ByteSize := by
  rw [String.utf8ByteSize, ← String.utf8Encode_toList, size_utf8Encode]

/-- No range of white space meets a range of letters. -/
theorem ranges_disjoint :
    (whiteSpaceRanges.ranges.all fun space => alphabeticRanges.ranges.all fun letter =>
      decide (space.2 < letter.1) || decide (letter.2 < space.1)) = true := by decide +kernel

/-- White space is never Alphabetic. -/
theorem isAlphabetic_of_isWhiteSpace (c : Char) (space : isWhiteSpace c = true) :
    isAlphabetic c = false := by
  obtain ⟨blank, blankMember, blankLower, blankUpper⟩ := (whiteSpaceRanges.has_iff _).mp space
  cases letter : isAlphabetic c with
  | false => rfl
  | true =>
    obtain ⟨range, member, lower, upper⟩ := (alphabeticRanges.has_iff _).mp letter
    have apart := List.all_eq_true.mp (List.all_eq_true.mp ranges_disjoint blank blankMember)
      range member
    simp only [Bool.or_eq_true, decide_eq_true_eq] at apart
    omega

/-- White space never belongs to a word. -/
theorem isWordChar_of_isWhiteSpace (c : Char) (space : isWhiteSpace c = true) :
    isWordChar c = false := by
  have notDigit : c.isDigit = false := by
    obtain ⟨range, member, lower, upper⟩ := (whiteSpaceRanges.has_iff _).mp space
    cases digit : c.isDigit with
    | false => rfl
    | true =>
      simp only [Char.isDigit, Bool.and_eq_true, decide_eq_true_eq] at digit
      have codes : 48 ≤ c.toNat ∧ c.toNat ≤ 57 := digit
      simp only [whiteSpaceRanges, List.mem_cons, List.not_mem_nil, or_false] at member
      rcases member with same | same | same | same | same | same | same | same | same | same <;>
        (subst same; simp only at lower upper; omega)
  simp [isWordChar, isAlphabetic_of_isWhiteSpace c space, notDigit]

/-- A parenthesis never belongs to a word, nor is it white space. -/
theorem parens_apart :
    isWordChar '(' = false ∧ isWordChar ')' = false ∧
      isWhiteSpace '(' = false ∧ isWhiteSpace ')' = false := by decide

end Sentential.Text
