import RationalCalc.Character.Numeric
import RationalCalc.Proofs.Decimals
import RationalCalc.Token.Lexer

/-!
The classes of characters that the lexer tells apart share no character: white space, digits with the
point, letters, and the symbols of operators and parentheses. On ASCII this is seen from the ranges
of the classes, beyond it from their tables.
-/

namespace RationalCalc.Character

def apart (left right : List (Nat × Nat)) : Bool :=
  left.all fun one => right.all fun two => one.2 < two.1 || two.2 < one.1

theorem within_apart (left right : List (Nat × Nat)) (c : Char) (separate : apart left right = true)
    (inside : within left c = true) : within right c = false := by
  rw [Bool.eq_false_iff]
  intro also
  simp only [within, List.any_eq_true, Bool.and_eq_true, decide_eq_true_eq] at inside also
  obtain ⟨one, memberOne, lowOne, highOne⟩ := inside
  obtain ⟨two, memberTwo, lowTwo, highTwo⟩ := also
  have kept := List.all_eq_true.mp (List.all_eq_true.mp separate one memberOne) two memberTwo
  simp only [Bool.or_eq_true, decide_eq_true_eq] at kept
  omega

theorem whiteSpace_apart_letters : apart whiteSpaceRanges alphabeticRanges = true := by
  decide +kernel

theorem whiteSpace_apart_numeric : apart whiteSpaceRanges numericRanges = true := by
  decide +kernel

theorem ascii_space (c : Char) (ascii : isAscii c = true) (space : isWhiteSpace c = true) :
    c.toNat ≤ 32 := by
  simp only [isWhiteSpace, ascii, ↓reduceIte, Bool.or_eq_true, decide_eq_true_eq,
    Bool.and_eq_true] at space
  rcases space with rfl | range
  · decide
  · omega

theorem ascii_letter (c : Char) (ascii : isAscii c = true) (letter : isAlphabetic c = true) :
    65 ≤ c.toNat := by
  have alpha : c.isAlpha = true := by simpa [isAlphabetic, ascii] using letter
  rcases (Bool.or_eq_true ..).mp alpha with upper | lower
  · have range : 'A'.val ≤ c.val ∧ c.val ≤ 'Z'.val := of_decide_eq_true upper
    exact range.1
  · have low : 'a'.val ≤ c.val := of_decide_eq_true ((Bool.and_eq_true ..).mp lower).1
    exact Nat.le_trans (by decide) low

theorem letter_not_space (c : Char) (letter : isAlphabetic c = true) : isWhiteSpace c = false := by
  by_cases ascii : isAscii c = true
  · rw [Bool.eq_false_iff]
    intro space
    have low := ascii_space c ascii space
    have high := ascii_letter c ascii letter
    omega
  · rw [Bool.eq_false_iff]
    intro space
    simp only [isAlphabetic, isWhiteSpace, ascii, Bool.false_eq_true, ↓reduceIte] at letter space
    rw [within_apart _ _ c whiteSpace_apart_letters space] at letter
    cases letter

end RationalCalc.Character

namespace RationalCalc.Lexer

open Character

theorem inNumber_iff (c : Char) : inNumber c = true ↔ c.isDigit = true ∨ c = '.' := by
  simp [inNumber]

theorem inNumber_range (c : Char) (number : inNumber c = true) : 46 ≤ c.toNat ∧ c.toNat ≤ 57 := by
  rcases (inNumber_iff c).mp number with digit | rfl
  · have range := Literal.digit_range c digit
    omega
  · decide

theorem ascii_of_number (c : Char) (number : inNumber c = true) : isAscii c = true := by
  have range := inNumber_range c number
  simp only [isAscii, decide_eq_true_eq]
  omega

theorem number_not_space (c : Char) (number : inNumber c = true) : isWhiteSpace c = false := by
  rw [Bool.eq_false_iff]
  intro space
  have range := inNumber_range c number
  have low := ascii_space c (ascii_of_number c number) space
  omega

theorem number_not_letter (c : Char) (number : inNumber c = true) : isAlphabetic c = false := by
  rw [Bool.eq_false_iff]
  intro letter
  have range := inNumber_range c number
  have high := ascii_letter c (ascii_of_number c number) letter
  omega

def symbols : List Char :=
  ['+', '-', '*', '/', '%', '^', '!', '(', ')']

theorem symbol_plain : ∀ c ∈ symbols,
    isWhiteSpace c = false ∧ inNumber c = false ∧ isAlphabetic c = false := by
  have plain : (symbols.all fun c => !isWhiteSpace c && !inNumber c && !isAlphabetic c) = true := by
    decide
  simpa [and_assoc] using List.all_eq_true.mp plain

inductive Kind where
  | space
  | digit
  | letter
  | symbol
  deriving DecidableEq

namespace Kind

def has : Kind → Char → Bool
  | space, c => isWhiteSpace c
  | digit, c => inNumber c
  | letter, c => isAlphabetic c
  | symbol, c => symbols.contains c

end Kind

/-- No character is in two classes, so that the order of the tests does not matter. -/
theorem kind_unique (one two : Kind) (c : Char) (left : one.has c = true)
    (right : two.has c = true) : one = two := by
  have numbers := number_not_space c
  have letters := letter_not_space c
  have both := number_not_letter c
  have plain := symbol_plain c
  cases one <;> cases two <;> simp_all [Kind.has]

/-- What may stand in a text at all. -/
def known (c : Char) : Bool :=
  isWhiteSpace c || inNumber c || isAlphabetic c || symbols.contains c

theorem known_iff (c : Char) : known c = true ↔ ∃ kind : Kind, kind.has c = true := by
  simp only [known, Bool.or_eq_true]
  constructor
  · rintro (((space | number) | letter) | symbol)
    · exact ⟨.space, space⟩
    · exact ⟨.digit, number⟩
    · exact ⟨.letter, letter⟩
    · exact ⟨.symbol, symbol⟩
  · rintro ⟨kind, has⟩
    cases kind with
    | space => exact .inl (.inl (.inl has))
    | digit => exact .inl (.inl (.inr has))
    | letter => exact .inl (.inr has)
    | symbol => exact .inr has

end RationalCalc.Lexer
