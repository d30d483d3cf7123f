import Mathlib
import RationalCalc.Token.Literal

/-!
Operations that are not defined everywhere, each behind a test of its operands. A word has room for
only so much, nothing is divided by zero, no rational is made with the denominator zero, a text is cut
between its characters only, and only what is in a list can be taken out of it. To use an operation
elsewhere is a breach, and a computation with a breach has no outcome, be it a value or a fault. So a
computation that is written with these operations and has an outcome on every input never leaves their
domains.
-/

namespace RationalCalc.Checked

open Literal (Word)

inductive Breach where
  | overflow
  | underflow
  | zeroDenominator
  | zeroDivisor
  | outsideText
  | outsideList
  deriving DecidableEq

/-! The operations -/

def add (a b : Word) : Except Breach Word :=
  if a.uaddOverflow b then .error .overflow else .ok (a + b)

def mul (a b : Word) : Except Breach Word :=
  if a.umulOverflow b then .error .overflow else .ok (a * b)

/-- What a character is worth as a digit, as far as it does not come before the digits. -/
def digit (c : Char) : Except Breach Word :=
  if c.toNat < '0'.toNat then .error .underflow else .ok (Literal.wordDigit c)

def rational (num : Int) (den : Nat) : Except Breach Rat :=
  if den = 0 then .error .zeroDenominator else .ok (mkRat num den)

def dividing [Zero β] [DecidableEq β] (divide : α → β → γ) (a : α) (b : β) : Except Breach γ :=
  if b = 0 then .error .zeroDivisor else .ok (divide a b)

def ratio (a b : Rat) : Except Breach Rat :=
  dividing (· / ·) a b

/-- What is between two bytes of a text, neither of which may be inside of a character. -/
def slice (text : String) (low high : Nat) : Except Breach String :=
  if low ≤ high ∧ String.Pos.Raw.IsValid text ⟨low⟩ ∧ String.Pos.Raw.IsValid text ⟨high⟩ then
    .ok (String.Pos.Raw.extract text ⟨low⟩ ⟨high⟩)
  else .error .outsideText

/-- Takes an item out of a list. The first one fills the gap. -/
def swapRemove : List α → Nat → Except Breach (α × List α)
  | [], _ => .error .outsideList
  | first :: rest, 0 => .ok (first, rest)
  | first :: rest, index + 1 =>
      if inside : index < rest.length then .ok (rest.get ⟨index, inside⟩, rest.set index first)
      else .error .outsideList

/-! Their domains -/

theorem add_ok {a b : Word} (fits : a.toNat + b.toNat < Nat.pow 2 128) : add a b = .ok (a + b) := by
  have room : a.uaddOverflow b = false := decide_eq_false (Nat.not_le_of_lt fits)
  rw [add, room]
  rfl

theorem mul_ok {a b : Word} (fits : a.toNat * b.toNat < Nat.pow 2 128) : mul a b = .ok (a * b) := by
  have room : a.umulOverflow b = false := decide_eq_false (Nat.not_le_of_lt fits)
  rw [mul, room]
  rfl

theorem rational_ok {den : Nat} (proper : den ≠ 0) (num : Int) :
    rational num den = .ok (mkRat num den) :=
  if_neg proper

theorem dividing_ok [Zero β] [DecidableEq β] {b : β} (nonzero : b ≠ 0) (divide : α → β → γ) (a : α) :
    dividing divide a b = .ok (divide a b) :=
  if_neg nonzero

theorem ratio_ok {b : Rat} (nonzero : b ≠ 0) (a : Rat) : ratio a b = .ok (a / b) :=
  dividing_ok nonzero _ a

theorem valid_between (before after : List Char) :
    String.Pos.Raw.IsValid (String.ofList (before ++ after)) ⟨String.utf8Len before⟩ := by
  apply String.Pos.Raw.isValid_iff_exists_append.mpr
  refine ⟨String.ofList before, String.ofList after, String.ofList_append, ?_⟩
  rw [String.rawEndPos, String.utf8ByteSize_ofList]

theorem slice_ok (before piece after : List Char) :
    slice (String.ofList (before ++ piece ++ after)) (String.utf8Len before)
      (String.utf8Len before + String.utf8Len piece) = .ok (String.ofList piece) := by
  have low := valid_between before (piece ++ after)
  have high := valid_between (before ++ piece) after
  rw [← List.append_assoc] at low
  rw [String.utf8Len_append] at high
  rw [slice, if_pos ⟨Nat.le_add_right .., low, high⟩, String.extract_of_valid]

theorem swapRemove_ok {rest : List α} {index : Nat} (inside : index < rest.length) (first : α) :
    swapRemove (first :: rest) (index + 1) =
      .ok (rest.get ⟨index, inside⟩, rest.set index first) :=
  dif_pos inside

/-- Inside of the second character; behind the end of the list. -/
example : slice "1×2" 0 2 = .error .outsideText ∧ swapRemove [1, 2] 2 = .error .outsideList := by
  decide +kernel

/-! Checked computations -/

def Meets (checked : ExceptT ε (Except Breach) α) (outcome : Except ε α) : Prop :=
  checked.run = .ok outcome

def settled (outcome : Except ε α) : ExceptT ε (Except Breach) α :=
  ExceptT.mk (.ok outcome)

section Outcomes

variable {checked : ExceptT ε (Except Breach) α} {outcome : Except ε α}

theorem meets_settled (outcome : Except ε α) : Meets (settled outcome) outcome := rfl

theorem meets_pure (value : α) :
    Meets (pure value : ExceptT ε (Except Breach) α) (.ok value) := rfl

theorem meets_throw (fault : ε) :
    Meets (throw fault : ExceptT ε (Except Breach) α) (.error fault) := rfl

theorem meets_bind {next : α → ExceptT ε (Except Breach) β} {next' : α → Except ε β}
    (first : Meets checked outcome) (later : ∀ value, Meets (next value) (next' value)) :
    Meets (checked >>= next) (outcome >>= next') := by
  rw [Meets, ExceptT.run_bind, first]
  cases outcome with
  | error fault => rfl
  | ok value => exact later value

theorem meets_lift {operation : Except Breach α} {value : α}
    {next : α → ExceptT ε (Except Breach) β} {outcome : Except ε β} (inside : operation = .ok value)
    (later : Meets (next value) outcome) :
    Meets ((liftM operation : ExceptT ε (Except Breach) α) >>= next) outcome := by
  subst inside
  exact later

variable {condition : Prop} [Decidable condition]

theorem meets_ite {other : ExceptT ε (Except Breach) α} {outcome' : Except ε α}
    (met : condition → Meets checked outcome) (unmet : ¬condition → Meets other outcome') :
    Meets (if condition then checked else other) (if condition then outcome else outcome') := by
  split
  · exact met ‹_›
  · exact unmet ‹_›

end Outcomes

end RationalCalc.Checked
