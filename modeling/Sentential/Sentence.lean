import Sentential.Formula.Reader

/-!
# Sentences

A sentence is a formula together with the list of its variables, which fixes the columns of its
truth table. A text is a sentence if its tokens are those of one formula and nothing is left
over. Lexical violations come first: the whole text is split into tokens before any of them is
read as part of a formula.
-/

-- Powers of numbers are those of the core library, also where Mathlib offers its own.
attribute [instance (2000)] instPowNat

namespace Sentential

/-- A formula and its distinct variables, in the order of their first occurrence. -/
structure Sentence where
  formula : Formula
  names : List String
  names_eq : names = formula.names
deriving DecidableEq

namespace Sentence

/-- The sentence of a formula. -/
def ofFormula (formula : Formula) : Sentence := ⟨formula, formula.names, rfl⟩

/-- The number of rows of the truth table: two choices for each variable. -/
def rowCount (sentence : Sentence) : Nat := 2 ^ sentence.names.length

/-- The sentence that consists of exactly the given tokens, of a text of `finish` bytes. After
the formula no token may be left over. -/
def ofTokens (finish : Nat) (tokens : List Located) : Except SyntaxError Sentence :=
  match tokens with
  | [] => .error ⟨.emptyInput, finish⟩
  | first :: rest =>
    match Formula.read finish maxHeight (first :: rest) with
    | .refused error _ => .error error
    | .accepted formula _ [] => .ok (ofFormula formula)
    | .accepted _ _ (⟨.closeParen, position⟩ :: _) => .error ⟨.unmatchedParen, position⟩
    | .accepted _ _ (⟨token, position⟩ :: _) => .error ⟨.unexpectedToken token.text, position⟩

/-- The sentence that a text spells, or why it spells none. -/
def parse (text : String) : Except SyntaxError Sentence :=
  match tokenize text with
  | .error error => .error error
  | .ok tokens => ofTokens text.utf8ByteSize tokens

end Sentence

end Sentential
