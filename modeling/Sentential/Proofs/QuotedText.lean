import Sentential.Proofs.Segmentation
import Sentential.Text.Quoted

/-!
# Quoted text can be read back

Quoting loses nothing. The escaped form of a character tells where it ends and which character it
stands for: a backslash begins every escape and nothing else, the letter after it tells the kind of
the escape, and a code is closed by a brace, which is no digit. So different characters are quoted
differently, and so are different words, whatever characters they hold.
-/

namespace Sentential.Text

/-! ## Codes in hexadecimal digits -/

/-- The value of a hexadecimal digit in lower case. -/
def digitValue (digit : Char) : Nat :=
  if digit.isDigit then digit.toNat - '0'.toNat else digit.toNat - 'a'.toNat + 10

/-- The number that hexadecimal digits spell. -/
def codeValue (digits : List Char) : Nat :=
  digits.foldl (fun value digit => 16 * value + digitValue digit) 0

/-- The digit of a number tells the number. -/
theorem digitValue_digitChar (number : Nat) (small : number < 16) :
    digitValue number.digitChar = number := by
  decide +revert

/-- The digits of a code tell the code.

Take off the last digit: it is the remainder, and the digits before it are those of the quotient. -/
theorem codeValue_toDigits (code : Nat) : codeValue (Nat.toDigits 16 code) = code := by
  induction code using Nat.strongRecOn with
  | ind code inductionHypothesis =>
    by_cases small : code < 16
    · simp [Nat.toDigits_of_lt_base small, codeValue, digitValue_digitChar code small]
    · have least : 16 ≤ code := Nat.le_of_not_lt small
      have quotient := inductionHypothesis (code / 16) (by omega)
      have remainder := digitValue_digitChar (code % 16) (by omega)
      rw [codeValue] at quotient
      rw [Nat.toDigits_of_base_le (by decide) least, codeValue, List.foldl_append, quotient]
      simp only [List.foldl_cons, List.foldl_nil, remainder]
      omega

/-- A brace is no digit. -/
theorem brace_notMem_toDigits (code : Nat) : '\x7d' ∉ Nat.toDigits 16 code := by
  induction code using Nat.strongRecOn with
  | ind code inductionHypothesis =>
    by_cases small : code < 16
    · simp [Nat.toDigits_of_lt_base small]
    · have least : 16 ≤ code := Nat.le_of_not_lt small
      have before := inductionHypothesis (code / 16) (by omega)
      rw [Nat.toDigits_of_base_le (by decide) least]
      simp [before]

/-! ## Characters and words -/

/-- The character whose escaped form the text begins with, and the text after this form. -/
def unescape : List Char → Option (Char × List Char)
  | '\\' :: '0' :: rest => some ('\x00', rest)
  | '\\' :: 't' :: rest => some ('\t', rest)
  | '\\' :: 'r' :: rest => some ('\r', rest)
  | '\\' :: 'n' :: rest => some ('\n', rest)
  | '\\' :: 'u' :: '\x7b' :: rest =>
    some (Char.ofNat (codeValue (rest.takeWhile (· ≠ '\x7d'))),
      (rest.dropWhile (· ≠ '\x7d')).drop 1)
  | '\\' :: c :: rest => some (c, rest)
  | c :: rest => some (c, rest)
  | [] => none

/-- A code ends at the first brace. -/
theorem unescape_codeEscape (c : Char) (rest : List Char) :
    unescape (codeEscape c ++ rest) = some (c, rest) := by
  have digits : ∀ digit ∈ Nat.toDigits 16 c.toNat, decide (digit ≠ '\x7d') = true := by
    intro digit member
    refine decide_eq_true ?_
    rintro rfl
    exact brace_notMem_toDigits c.toNat member
  obtain ⟨taken, left⟩ := Segmentation.takeWhile_run (fun digit => decide (digit ≠ '\x7d')) _
    ('\x7d' :: rest) digits (by simp)
  have whole : codeEscape c ++ rest
      = '\\' :: 'u' :: '\x7b' :: (Nat.toDigits 16 c.toNat ++ '\x7d' :: rest) := by
    simp [codeEscape]
  rw [whole, unescape, taken, left, codeValue_toDigits, Char.ofNat_toNat, List.drop_one,
    List.tail_cons]

/-- An escaped character can be told from the text that its form begins, for either kind of quotes. -/
theorem unescape_escape (quote c : Char) (isQuote : quote = '\'' ∨ quote = '"') (rest : List Char) :
    unescape (escape quote c ++ rest) = some (c, rest) := by
  unfold escape
  split
  · next same => subst same; rfl
  split
  · next same => subst same; rfl
  split
  · next same => subst same; rfl
  split
  · next same => subst same; rfl
  split
  · next marked =>
    rcases marked with rfl | rfl
    · rfl
    · rcases isQuote with rfl | rfl <;> rfl
  split
  · exact unescape_codeEscape c rest
  · next plain _ =>
    have notBackslash : c ≠ '\\' := fun same => plain (.inl same)
    rw [List.singleton_append]
    unfold unescape
    split <;> simp_all

section Quotes

variable {quote : Char} (isQuote : quote = '\'' ∨ quote = '"')

include isQuote

/-- Escaping keeps texts apart: the first characters are told from the escaped forms, and what is left
of these are the escaped forms of the texts after them. -/
theorem flatMap_escape_injective {first second : List Char}
    (same : first.flatMap (escape quote) = second.flatMap (escape quote)) : first = second := by
  have read : ∀ (c : Char) (rest : List Char), unescape ((c :: rest).flatMap (escape quote))
      = some (c, rest.flatMap (escape quote)) := by
    intro c rest
    rw [List.flatMap_cons, unescape_escape quote c isQuote]
  induction first generalizing second with
  | nil =>
    cases second with
    | nil => rfl
    | cons d others =>
      have none := read d others
      simp [← same, unescape] at none
  | cons c rest inductionHypothesis =>
    have begun := read c rest
    cases second with
    | nil => simp [same, unescape] at begun
    | cons d others =>
      rw [same, read d others, Option.some.injEq, Prod.mk.injEq] at begun
      rw [begun.1, inductionHypothesis begun.2.symm]

/-- A text between quotes can be told from what is printed. -/
theorem quoted_injective {first second : List Char}
    (same : quoted quote first = quoted quote second) : first = second := by
  have letters : quote :: first.flatMap (escape quote) ++ [quote]
      = quote :: second.flatMap (escape quote) ++ [quote] := String.ofList_injective same
  exact flatMap_escape_injective isQuote (List.cons.inj (List.append_cancel_right letters)).2

end Quotes

/-- Different characters are quoted differently. -/
theorem quotedChar_injective {first second : Char}
    (same : quotedChar first = quotedChar second) : first = second :=
  List.singleton_inj.mp (quoted_injective (.inl rfl) same)

/-- Different words are quoted differently. -/
theorem quotedWord_injective {first second : String}
    (same : quotedWord first = quotedWord second) : first = second :=
  String.toList_inj.mp (quoted_injective (.inr rfl) same)

end Sentential.Text
