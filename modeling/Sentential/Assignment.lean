import Sentential.ContractViolation

/-!
# Assignments

An assignment gives truth values to a list of names, one value to each entry of the list. The
names may be any texts and may repeat; where a name repeats, its first value counts.

The assignments to a list of names are numbered in the order of a binary counter whose most
significant digit belongs to the first name, false counting as zero. An index is a number of at
most `indexWidth` bits. A list of that many names or more has no index out of range, and the
names that would need a bit beyond that width are given the value false.
-/

namespace Sentential

/-- The number of bits of an index. -/
def indexWidth : Nat := 128

/-- The letter that stands for a truth value. -/
def truthLetter (value : Bool) : String := if value then "T" else "F"

/-- The `count` lowest bits of an index, the most significant first. -/
def indexBits (index : Nat) : (count : Nat) → List Bool
  | 0 => []
  | place + 1 => (decide (place < indexWidth) && index.testBit place) :: indexBits index place

/-- Truth values for a list of names, in the order of the names. -/
structure Assignment where
  entries : List (String × Bool)
deriving DecidableEq

namespace Assignment

/-- The names, repeated ones included. -/
def names (assignment : Assignment) : List String := assignment.entries.map Prod.fst

/-- The values, in the order of the names. -/
def values (assignment : Assignment) : List Bool := assignment.entries.map Prod.snd

/-- The number of entries. -/
def size (assignment : Assignment) : Nat := assignment.entries.length

/-- Whether there is no entry. -/
def isEmpty (assignment : Assignment) : Bool := assignment.entries.isEmpty

/-- The first value given to a name, or none if the name has no entry. -/
def value? (assignment : Assignment) (name : String) : Option Bool :=
  assignment.entries.lookup name

/-- Each name with its letter after an equals sign, separated by spaces. -/
def text (assignment : Assignment) : String :=
  " ".intercalate (assignment.entries.map fun entry => entry.1 ++ "=" ++ truthLetter entry.2)

/-- The assignment of the given values to the given names. The two lists must be of one length. -/
def ofValues (names : List String) (values : List Bool) : Except ContractViolation Assignment :=
  if names.length = values.length then .ok ⟨names.zip values⟩
  else .error (.misaligned names.length values.length)

/-- The assignment to the given names that has the given index. -/
def ofIndex (names : List String) (index : Nat) : Except ContractViolation Assignment :=
  if indexWidth ≤ names.length ∨ index >>> names.length = 0 then
    .ok ⟨names.zip (indexBits index names.length)⟩
  else .error (.indexOutOfRange index names.length)

end Assignment

/-- The bits of an index are as many as were asked for. -/
@[simp] theorem length_indexBits (index count : Nat) : (indexBits index count).length = count := by
  induction count with
  | zero => rfl
  | succ place inductionHypothesis => simp [indexBits, inductionHypothesis]

end Sentential
