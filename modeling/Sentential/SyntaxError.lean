import Sentential.Token
import Sentential.Text.Quoted

/-!
# Malformed expressions

A malformed text is refused with one cause and the byte offset at which the cause was noticed.
The message states both. Characters and words taken from the text are quoted; the text of a token
is shown as it is.
-/

namespace Sentential

/-- The height of the highest tree that is accepted. A single variable has height one. -/
def maxHeight : Nat := 512

/-- What makes a text malformed. -/
inductive SyntaxError.Cause where
  /-- The text holds no token at all. -/
  | emptyInput
  /-- A character that begins no token. -/
  | unexpectedChar (c : Char)
  /-- A word that begins with a digit. -/
  | invalidIdentifier (word : String)
  /-- A reserved word that is not followed by white space. -/
  | missingSpaceAfter (keyword : Keyword)
  /-- A connective in the place of an operand. -/
  | reservedWord (keyword : Keyword)
  /-- The text ends where an operand is due. -/
  | missingOperand
  /-- The text ends inside a parenthesis. -/
  | unclosedParen
  /-- A closing parenthesis that closes nothing. -/
  | unmatchedParen
  /-- A token, given by its text, that cannot continue the expression. -/
  | unexpectedToken (text : String)
  /-- The tree would be higher than `maxHeight`. -/
  | tooDeep
deriving DecidableEq

/-- The part of the message that states the cause. -/
def SyntaxError.Cause.message : SyntaxError.Cause → String
  | .emptyInput => "empty expression"
  | .unexpectedChar c => "unexpected character " ++ Text.quotedChar c
  | .invalidIdentifier word => "invalid identifier " ++ Text.quotedWord word
  | .missingSpaceAfter keyword => "expected whitespace after '" ++ keyword.word ++ "'"
  | .reservedWord keyword =>
    "reserved word '" ++ keyword.word ++ "' cannot be used as a variable"
  | .missingOperand => "expected an operand, found end of input"
  | .unclosedParen => "expected ')'"
  | .unmatchedParen => "unexpected ')'"
  | .unexpectedToken text => "unexpected " ++ text
  | .tooDeep => "expression is nested deeper than " ++ toString maxHeight ++ " levels"

/-- A cause and the byte offset at which it was noticed. -/
structure SyntaxError where
  cause : SyntaxError.Cause
  position : Nat
deriving DecidableEq

/-- The full message. -/
def SyntaxError.message (error : SyntaxError) : String :=
  "syntax error at " ++ toString error.position ++ ": " ++ error.cause.message

end Sentential
