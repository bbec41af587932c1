import Sentential.SyntaxError
import Sentential.Text.Word

/-!
# Reading the tokens of a text

White space separates and is skipped, a parenthesis is a token by itself, and a maximal run of
word characters is one token: a reserved word if it spells one, otherwise an identifier, which
keeps its spelling. A word must not begin with a digit, and a reserved word must be followed by
white space. The first violation, read from the left, is the one reported.
-/

namespace Sentential

open Text

/-- The token spelled by the maximal word `word` that begins at byte `position` and is followed
by the text `after`. That a word begins with a digit is noticed at its first character, that
white space is missing after a reserved word at the place where it is missing. -/
def Token.ofWord (position : Nat) (word after : List Char) : Except SyntaxError Token :=
  if word.head?.any Char.isDigit then
    .error ⟨.invalidIdentifier (String.ofList word), position⟩
  else
    match Keyword.ofWord? word with
    | none => .ok (.identifier (String.ofList word))
    | some keyword =>
      if after.head?.any isWhiteSpace then .ok (.reserved keyword)
      else .error ⟨.missingSpaceAfter keyword, position + byteLength word⟩

/-- Reads the rest of a text, which begins at byte `position`, given the tokens `found` before
it, the latest first. A word is read as a whole, so the recursion is on the shorter text that
follows it. -/
def Token.scan (found : List Located) (position : Nat) :
    List Char → Except SyntaxError (List Located)
  | [] => .ok found.reverse
  | c :: rest =>
    if isWhiteSpace c then Token.scan found (position + c.utf8Size) rest
    else if c = '(' then Token.scan (⟨.openParen, position⟩ :: found) (position + c.utf8Size) rest
    else if c = ')' then Token.scan (⟨.closeParen, position⟩ :: found) (position + c.utf8Size) rest
    else if isWordChar c then
      let word := c :: rest.takeWhile isWordChar
      let after := rest.dropWhile isWordChar
      match Token.ofWord position word after with
      | .error error => .error error
      | .ok token =>
        Token.scan (⟨token, position⟩ :: found) (position + byteLength word) after
    else .error ⟨.unexpectedChar c, position⟩
termination_by text => text.length
decreasing_by
  all_goals simp only [List.length_cons]
  · omega
  · omega
  · omega
  · have shorter := (List.dropWhile_sublist (l := rest) isWordChar).length_le
    omega

/-- The tokens of a text, in order, or the first lexical violation. -/
def tokenize (text : String) : Except SyntaxError (List Located) :=
  Token.scan [] 0 text.toList

/-- The tokens already found have no influence on those still to be read. -/
theorem Token.scan_append (found earlier : List Located) (position : Nat) (text : List Char) :
    Token.scan (found ++ earlier) position text
      = (Token.scan found position text).map (earlier.reverse ++ ·) := by
  fun_induction Token.scan found position text with
  | case1 found position => simp [Token.scan, Except.map]
  | case2 found position c rest space inductionHypothesis =>
    rw [Token.scan, if_pos space, inductionHypothesis]
  | case3 found position rest space inductionHypothesis =>
    rw [Token.scan, if_neg space, if_pos rfl, ← inductionHypothesis, List.cons_append]
  | case4 found position rest space opening inductionHypothesis =>
    rw [Token.scan, if_neg space, if_neg opening, if_pos rfl, ← inductionHypothesis,
      List.cons_append]
  | case5 found position c rest space opening closing wordChar word after error failed =>
    rw [Token.scan, if_neg space, if_neg opening, if_neg closing, if_pos wordChar]
    simp only [word, after] at failed
    simp [failed, Except.map]
  | case6 found position c rest space opening closing wordChar word after token spelled
      inductionHypothesis =>
    rw [Token.scan, if_neg space, if_neg opening, if_neg closing, if_pos wordChar]
    rw [← inductionHypothesis]
    simp only [word, after] at spelled ⊢
    simp only [spelled, List.cons_append]
  | case7 found position c rest space opening closing wordChar =>
    rw [Token.scan, if_neg space, if_neg opening, if_neg closing, if_neg wordChar]
    rfl

/-- The tokens already found stand before those still to be read. -/
theorem Token.scan_found (found : List Located) (position : Nat) (text : List Char) :
    Token.scan found position text
      = (Token.scan [] position text).map (found.reverse ++ ·) := by
  rw [← Token.scan_append, List.nil_append]

end Sentential
