import Sentential.Keyword

/-!
# Tokens

A text is read as a sequence of tokens, each with the place where it begins. Places are byte
offsets into the UTF-8 form of the text.
-/

namespace Sentential

/-- The smallest meaningful unit of an expression. -/
inductive Token where
  | openParen
  | closeParen
  | reserved (keyword : Keyword)
  | identifier (name : String)
deriving DecidableEq

/-- The form in which a message shows a token. Names are shown as they are, unescaped. -/
def Token.text : Token → String
  | .openParen => "'('"
  | .closeParen => "')'"
  | .reserved keyword => "'" ++ keyword.word ++ "'"
  | .identifier name => "identifier '" ++ name ++ "'"

/-- A token and the byte offset of its first character. -/
structure Located where
  token : Token
  position : Nat
deriving DecidableEq

end Sentential
