import Mathlib.Data.List.Basic
import Sentential.Proofs.Reading
import Sentential.Sentence

/-!
# The texts that are sentences

A text is a sentence exactly if its tokens are those of a canonical formula that is no higher than
`maxHeight`. The sentence then consists of that formula, of which there is only one, and of its
names. If there is such a formula but it is too high, that is what the text is refused for.
-/

namespace Sentential.Sentence

open Formula

variable {finish : Nat}

/-- A sentence is determined by its formula. -/
theorem ofFormula_formula (sentence : Sentence) : ofFormula sentence.formula = sentence := by
  obtain ⟨formula, names, named⟩ := sentence
  subst named
  rfl

/-- What is read to the end is the sentence of its formula. -/
theorem ofTokens_of_accepted {tokens : List Located} {formula : Formula} {height : Nat}
    (reading : Formula.read finish maxHeight tokens = .accepted formula height []) :
    ofTokens finish tokens = .ok (ofFormula formula) := by
  cases tokens with
  | nil => exact absurd reading Outcome.noConfusion
  | cons first rest => rw [ofTokens, reading]

/-- Where there is anything to read, a refusal is handed on. -/
theorem ofTokens_of_refused {tokens unread : List Located} {error : SyntaxError}
    (nonempty : tokens ≠ [])
    (reading : Formula.read finish maxHeight tokens = .refused error unread) :
    ofTokens finish tokens = .error error := by
  obtain ⟨first, rest, rfl⟩ := List.exists_cons_of_ne_nil nonempty
  rw [ofTokens, reading]

/-- The tokens of a sentence are those of a canonical formula within the bound, and nothing else. -/
theorem ofTokens_eq_ok_iff (tokens : List Located) (sentence : Sentence) :
    ofTokens finish tokens = .ok sentence ↔
      ∃ formula : Formula, formula.isCanonical = true ∧
        tokens.map Located.token = formula.tokens ∧ formula.height ≤ maxHeight ∧
        sentence = ofFormula formula := by
  constructor
  · intro accepted
    unfold ofTokens at accepted
    split at accepted
    · simp at accepted
    · rename_i first rest
      split at accepted
      · simp at accepted
      · rename_i formula height reading
        have reads := read_sound (by decide) _ _ _ _ reading
        refine ⟨formula, reads.canonical, (spelled_nil_iff formula _).mp reads.spelled, ?_, ?_⟩
        · exact reads.height_eq ▸ reads.fits
        · exact (Except.ok.inj accepted).symm
      · simp at accepted
      · simp at accepted
  · rintro ⟨formula, canonical, written, fits, rfl⟩
    exact ofTokens_of_accepted (read_eq_accepted formula canonical fits tokens []
      ((spelled_nil_iff formula tokens).mpr written) rfl)

/-- The tokens of a canonical formula that is too high are refused for its height. -/
theorem ofTokens_eq_tooDeep (finish : Nat) (tokens : List Located) (formula : Formula)
    (canonical : formula.isCanonical = true)
    (written : tokens.map Located.token = formula.tokens) (exceeds : maxHeight < formula.height) :
    ∃ position, ofTokens finish tokens = .error ⟨.tooDeep, position⟩ := by
  obtain ⟨position, rest, reading⟩ := read_eq_tooDeep finish (by decide) formula canonical
    exceeds tokens [] ((spelled_nil_iff formula tokens).mpr written) rfl
  refine ⟨position, ?_⟩
  cases tokens with
  | nil => simp [Formula.read, expression, Formula.operand] at reading
  | cons first others => rw [ofTokens, reading]

/-- A text that has tokens is what its tokens are. -/
theorem parse_of_tokenize {text : String} {tokens : List Located}
    (tokenized : tokenize text = .ok tokens) : parse text = ofTokens text.utf8ByteSize tokens := by
  rw [parse, tokenized]

/-- A text that is a sentence has tokens. -/
theorem exists_tokens_of_parse {text : String} {sentence : Sentence}
    (accepted : parse text = .ok sentence) :
    ∃ tokens, tokenize text = .ok tokens ∧
      ofTokens text.utf8ByteSize tokens = .ok sentence := by
  unfold parse at accepted
  cases tokenized : tokenize text with
  | error error =>
    rw [tokenized] at accepted
    simp at accepted
  | ok tokens =>
    rw [tokenized] at accepted
    exact ⟨tokens, rfl, accepted⟩

/-- The parser accepts exactly its grammar. A text is a sentence exactly if its tokens are those of
a canonical formula of at most `maxHeight` levels, and consists of that formula and its names; no
other canonical formula has the same tokens, whatever its height; and a text whose tokens are those
of a higher canonical formula is refused as too deep. -/
theorem parse_iff_canonical (text : String) :
    (∀ sentence, parse text = .ok sentence ↔
      ∃ tokens, tokenize text = .ok tokens ∧
        ∃ formula : Formula, formula.isCanonical = true ∧
          formula.tokens = tokens.map Located.token ∧ formula.height ≤ maxHeight ∧
          sentence.formula = formula ∧ sentence.names = formula.names) ∧
    (∀ first second : Formula, first.isCanonical = true → second.isCanonical = true →
      first.tokens = second.tokens → first = second) ∧
    (∀ tokens, tokenize text = .ok tokens →
      ∀ formula : Formula, formula.isCanonical = true →
        formula.tokens = tokens.map Located.token → maxHeight < formula.height →
        ∃ position, parse text = .error ⟨.tooDeep, position⟩) := by
  refine ⟨?_, tokens_injective, ?_⟩
  · intro sentence
    constructor
    · intro accepted
      unfold parse at accepted
      cases tokenized : tokenize text with
      | error error =>
        rw [tokenized] at accepted
        simp at accepted
      | ok tokens =>
        rw [tokenized] at accepted
        obtain ⟨formula, canonical, written, fits, rfl⟩ :=
          (ofTokens_eq_ok_iff tokens sentence).mp accepted
        exact ⟨tokens, rfl, formula, canonical, written.symm, fits, rfl, rfl⟩
    · rintro ⟨tokens, tokenized, formula, canonical, written, fits, rfl, _⟩
      rw [parse, tokenized]
      exact (ofTokens_eq_ok_iff tokens sentence).mpr ⟨sentence.formula, canonical, written.symm,
        fits, (ofFormula_formula sentence).symm⟩
  · intro tokens tokenized formula canonical written exceeds
    obtain ⟨position, refused⟩ := ofTokens_eq_tooDeep text.utf8ByteSize tokens formula
      canonical written.symm exceeds
    exact ⟨position, by rw [parse, tokenized]; exact refused⟩

/-- A chain of different connectives is a sentence and is grouped from the left. -/
theorem parse_mixed_chain :
    parse "p and q or r" = .ok (ofFormula (.binary .or
      (.binary .and (.var "p") (.var "q")) (.var "r"))) := by
  have tokenized : tokenize "p and q or r" = .ok
      [⟨.identifier "p", 0⟩, ⟨.reserved (.binary .and), 2⟩, ⟨.identifier "q", 6⟩,
        ⟨.reserved (.binary .or), 8⟩, ⟨.identifier "r", 11⟩] := by
    decide +kernel
  exact ((parse_iff_canonical "p and q or r").1 _).mpr
    ⟨_, tokenized, _, by decide, rfl, by decide, rfl, rfl⟩

end Sentential.Sentence
