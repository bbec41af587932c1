import Sentential.Text.Combining
import Sentential.Text.Unprintable

/-!
# Quoted text

Messages show characters and words between quotes, in a form that is readable whatever they
hold. The usual controls have an escape of one letter, the backslash and the enclosing quote are
escaped by a backslash, and a character that cannot be read on its own (a combining character, or
one without a visible form) is given by its code in hexadecimal digits. All others stand for
themselves.
-/

namespace Sentential.Text

/-- The code of a character in lower-case hexadecimal digits between braces, after a backslash
and the letter u. -/
def codeEscape (c : Char) : List Char :=
  ['\\', 'u', '\x7b'] ++ Nat.toDigits 16 c.toNat ++ ['\x7d']

/-- The form of `c` between two of the character `quote`. -/
def escape (quote c : Char) : List Char :=
  if c = '\x00' then ['\\', '0']
  else if c = '\t' then ['\\', 't']
  else if c = '\r' then ['\\', 'r']
  else if c = '\n' then ['\\', 'n']
  else if c = '\\' ∨ c = quote then ['\\', c]
  else if isCombining c || isUnprintable c then codeEscape c
  else [c]

/-- A text between two of the character `quote`. -/
def quoted (quote : Char) (text : List Char) : String :=
  String.ofList (quote :: text.flatMap (escape quote) ++ [quote])

/-- A character between single quotes. -/
def quotedChar (c : Char) : String := quoted '\'' [c]

/-- A word between double quotes. -/
def quotedWord (word : String) : String := quoted '"' word.toList

end Sentential.Text
