/-!
# Reserved words

The four reserved words are `not` and the three connectives `and`, `or` and `xor`. They are
recognised in any mixture of upper and lower case, as whole words only, and always shown in lower
case.
-/

namespace Sentential

/-- A binary operator. The three share one level of precedence. -/
inductive Connective where
  | and
  | or
  | xor
deriving DecidableEq

/-- The reserved word of a connective. -/
def Connective.word : Connective → String
  | .and => "and"
  | .or => "or"
  | .xor => "xor"

/-- The truth function of a connective. -/
def Connective.apply : Connective → Bool → Bool → Bool
  | .and, left, right => left && right
  | .or, left, right => left || right
  | .xor, left, right => left ^^ right

/-- A reserved word: the negation, or a connective. -/
inductive Keyword where
  | not
  | binary (connective : Connective)
deriving DecidableEq

namespace Keyword

/-- The reserved words, in the order in which a word is compared with them. -/
def all : List Keyword := [.not, .binary .and, .binary .or, .binary .xor]

/-- The lower-case spelling. -/
def word : Keyword → String
  | .not => "not"
  | .binary connective => connective.word

/-- The reserved word that a whole word spells, if it spells one. Only the case of ASCII letters
is ignored, so a look-alike letter of another alphabet never makes a reserved word. -/
def ofWord? (text : List Char) : Option Keyword :=
  all.find? fun keyword => keyword.word.toList == text.map Char.toLower

/-- The list of reserved words is complete. -/
theorem mem_all (keyword : Keyword) : keyword ∈ all := by
  cases keyword with
  | not => decide
  | binary connective => cases connective <;> decide

/-- Different reserved words are spelled differently. -/
theorem word_injective (first second : Keyword) (same : first.word = second.word) :
    first = second := by
  cases first with
  | not =>
    cases second with
    | not => rfl
    | binary connective => cases connective <;> simp [word, Connective.word] at same
  | binary left =>
    cases second with
    | not => cases left <;> simp [word, Connective.word] at same
    | binary right => cases left <;> cases right <;> simp [word, Connective.word] at same ⊢

/-- A word spells a reserved word exactly if its lower-case form is that word's spelling. -/
theorem ofWord?_eq_some_iff (text : List Char) (keyword : Keyword) :
    ofWord? text = some keyword ↔ text.map Char.toLower = keyword.word.toList := by
  constructor
  · intro found
    have spelled := List.find?_some found
    exact (eq_of_beq spelled).symm
  · intro spelled
    cases found : ofWord? text with
    | none =>
      have differs := List.find?_eq_none.mp found keyword (mem_all keyword)
      simp [spelled] at differs
    | some other =>
      have matched := List.find?_some found
      have same := eq_of_beq matched
      rw [spelled] at same
      exact congrArg some (word_injective other keyword (String.toList_inj.mp same))

end Keyword

end Sentential
