import RationalCalc.Display.Exact
import RationalCalc.Proofs.Composition

/-!
Values are read back from their exact display. A piece holds characters of one class only, so that a
sign before digits and a division behind them belong to no number. The sign subtracts from zero and
releases nothing when it arrives, but binds tighter than the division: the numerator is negated first.
-/

namespace RationalCalc

namespace Text

open Character

theorem narrow_ascii (c : Char) (ascii : isAscii c = true) : narrow c = c := by
  unfold narrow
  split
  all_goals first | rfl | exact absurd ascii (by decide)

theorem narrow_cases (c : Char) : narrow c = c ∨ isAscii (narrow c) = true := by
  unfold narrow
  split
  all_goals first | exact .inl rfl | exact .inr (by decide)

theorem narrow_narrow (c : Char) : narrow (narrow c) = narrow c := by
  rcases narrow_cases c with same | ascii
  · rw [same, same]
  · exact narrow_ascii _ ascii

theorem narrowed_ascii (text : List Char) (ascii : ∀ c ∈ text, isAscii c = true) :
    (narrowed (String.ofList text)).toList = text := by
  simp only [narrowed, String.toList_ofList]
  exact (List.map_congr_left fun c member => narrow_ascii c (ascii c member)).trans (List.map_id text)

end Text

namespace Lexer

theorem parted_kinds (left right : List Char) (one two : Kind) (differ : one ≠ two)
    (ending : ∀ c ∈ left.getLast?, one.has c = true)
    (beginning : ∀ d ∈ right.head?, two.has d = true) : Parted left right := by
  intro piece formed before after filled ahead same ends begins
  have last : left.getLast? = some (before.getLast filled) := by
    obtain ⟨front, rfl⟩ := ends
    rw [List.getLast?_append, List.getLast?_eq_some_getLast filled]
    rfl
  have first : right.head? = some (after.head ahead) := by
    obtain ⟨rest, rfl⟩ := begins
    rw [List.head?_append, List.head?_eq_some_head ahead]
    rfl
  have inBefore : before.getLast filled ∈ piece.chars :=
    same ▸ List.mem_append_left after (List.getLast_mem filled)
  have inAfter : after.head ahead ∈ piece.chars :=
    same ▸ List.mem_append_right before (List.head_mem ahead)
  have left_ := Piece.kind_of_char formed _ inBefore one (ending _ last)
  have right_ := Piece.kind_of_char formed _ inAfter two (beginning _ first)
  exact differ (left_.symm.trans right_)

structure Numeral (run : List Char) : Prop where
  inside : ∀ c ∈ run, inNumber c = true
  written : Literal.WellWritten run

namespace Numeral

variable {run : List Char}

theorem formed (numeral : Numeral run) : (Piece.number run).WellFormed := by
  obtain ⟨-, c, member, -⟩ := numeral.written
  exact ⟨List.ne_nil_of_mem member, numeral.inside⟩

theorem segments (numeral : Numeral run) : Segments run [.number run] :=
  segments_single (.number run) numeral.formed

theorem readable (numeral : Numeral run) : ∀ piece ∈ [Piece.number run], piece.Readable :=
  List.forall_mem_singleton.mpr numeral.written

theorem ascii (numeral : Numeral run) : ∀ c ∈ run, Character.isAscii c = true :=
  fun c member => ascii_of_number c (numeral.inside c member)

theorem value (numeral : Numeral run) (few : Literal.places run < UInt32.size) :
    (Literal.split run).value = Literal.decimal run :=
  Literal.value_split run ((Literal.wellFormed_iff run).mpr
    ⟨fun c member => (inNumber_iff c).mp (numeral.inside c member), numeral.written⟩) few

theorem of_digits (filled : run ≠ []) (digits : ∀ c ∈ run, c.isDigit = true) : Numeral run := by
  obtain ⟨all, written⟩ := (Literal.wellWritten_whole run (Literal.plain_of_digits run digits)).mpr
    ⟨digits, filled⟩
  exact ⟨fun c member => (inNumber_iff c).mpr (all c member), written⟩

end Numeral

end Lexer

namespace Literal

theorem toDigits_digits (n : Nat) : ∀ c ∈ Nat.toDigits 10 n, c.isDigit = true :=
  fun _ member => Nat.isDigit_of_mem_toDigits (by decide) (by decide) member

theorem toDigits_numeral (n : Nat) : Lexer.Numeral (Nat.toDigits 10 n) :=
  .of_digits Nat.toDigits_ne_nil (toDigits_digits n)

theorem dropWhile_digits (digits : List Char) (all : ∀ c ∈ digits, c.isDigit = true) :
    digits.dropWhile (· != '.') = [] := by
  rw [← List.append_nil digits]
  exact List.dropWhile_append_of_pos fun c member => bne_iff_ne.mpr (digit_not_point c (all c member))

theorem decimal_digits (digits : List Char) (all : ∀ c ∈ digits, c.isDigit = true) :
    decimal digits = Nat.ofDigitChars 10 digits 0 := by
  have kept : digits.filter (· != '.') = digits :=
    List.filter_eq_self.mpr fun c member => bne_iff_ne.mpr (digit_not_point c (all c member))
  rw [decimal, kept, places, dropWhile_digits digits all]
  exact Rat.mkRat_one _

theorem decimal_toDigits (n : Nat) : decimal (Nat.toDigits 10 n) = n := by
  rw [decimal_digits _ (toDigits_digits n), Nat.ofDigitChars_ten_toDigits]

theorem places_digits (digits : List Char) (all : ∀ c ∈ digits, c.isDigit = true) :
    places digits = 0 := by
  rw [places, dropWhile_digits digits all]
  rfl

/-- Numbers without a point are read at any length. -/
theorem value_toDigits (n : Nat) : (split (Nat.toDigits 10 n)).value = n := by
  have numeral := toDigits_numeral n
  have few : places (Nat.toDigits 10 n) < UInt32.size := by
    rw [places_digits _ (toDigits_digits n)]
    decide
  rw [numeral.value few, decimal_toDigits]

end Literal

/-! Texts of numbers -/

def signedText (negative : Bool) (run : List Char) : List Char :=
  if negative then '-' :: run else run

def signedPieces (negative : Bool) (run : List Char) : List Lexer.Piece :=
  if negative then [.fixed (.operator .minus), .number run] else [.number run]

def Expression.signed (negative : Bool) (tree : Expression) : Expression :=
  if negative then .binary .minus (.number 0) tree else tree

theorem signed_value (limits : Limits) (negative : Bool) (value : Rat) :
    (Expression.signed negative (.number value)).value limits =
      .ok (if negative then -value else value) := by
  cases negative with
  | false => rfl
  | true => exact congrArg Except.ok (by rw [Rat.sub_eq_add_neg, Rat.zero_add]; rfl)

namespace Lexer.Numeral

open Lexer

variable {run : List Char}

theorem behind (numeral : Numeral run) (token : Token) (c : Char)
    (spelled : token ∈ symbolTokens ++ letterTokens) (spelling : token.spelling.toList = [c])
    (symbol : Kind.symbol.has c = true) : Segments (c :: run) [.fixed token, .number run] := by
  have digits : ∀ d ∈ run.head?, Kind.digit.has d = true := fun d first =>
    numeral.inside d (List.mem_of_head? first)
  have ending : ∀ d ∈ [c].getLast?, Kind.symbol.has d = true := by
    rintro d ⟨⟩
    exact symbol
  have single := segments_fixed token spelled
  rw [spelling] at single
  exact segments_append [c] run _ _ (parted_kinds _ _ .symbol .digit nofun ending digits) single
    numeral.segments

theorem signed_segments (numeral : Numeral run) (negative : Bool) :
    Segments (signedText negative run) (signedPieces negative run) := by
  cases negative with
  | false => exact numeral.segments
  | true => exact numeral.behind (.operator .minus) '-' (by decide) rfl (by decide)

theorem signed_readable (numeral : Numeral run) (negative : Bool) :
    ∀ piece ∈ signedPieces negative run, piece.Readable := by
  cases negative with
  | false => exact numeral.readable
  | true => exact List.forall_mem_cons.mpr ⟨fixed_readable (.operator .minus), numeral.readable⟩

theorem signed_ascii (numeral : Numeral run) (negative : Bool) :
    ∀ c ∈ signedText negative run, Character.isAscii c = true := by
  cases negative with
  | false => exact numeral.ascii
  | true => exact List.forall_mem_cons.mpr ⟨by decide, numeral.ascii⟩

/-- A sign ends no number: the last character is that of the digits. -/
theorem signed_last (numeral : Numeral run) (negative : Bool) :
    ∀ c ∈ (signedText negative run).getLast?, Kind.digit.has c = true := by
  intro c last
  have filled := numeral.formed.1
  have inside : run.getLast? = some c := by
    cases negative with
    | false => exact last
    | true =>
        obtain ⟨d, more, rfl⟩ := List.exists_cons_of_ne_nil filled
        exact last
  exact numeral.inside c (List.mem_of_getLast? inside)

end Lexer.Numeral

namespace Denotes

open Lexer

theorem numeral (negative : Bool) (run : List Char) (written : Numeral run) :
    Denotes (String.ofList (signedText negative run)) (signedPieces negative run)
      (.signed negative (.number (Literal.split run).value)) := by
  refine ⟨?_, written.signed_readable negative, ?_⟩
  · rw [Text.narrowed_ascii _ (written.signed_ascii negative)]
    exact written.signed_segments negative
  · cases negative <;> rfl

theorem fraction (negative : Bool) (one two : List Char) (above : Numeral one) (below : Numeral two) :
    Denotes (String.ofList (signedText negative one ++ '/' :: two))
      (signedPieces negative one ++ [.fixed (.operator .divide), .number two])
      (.binary .divide (.signed negative (.number (Literal.split one).value))
        (.number (Literal.split two).value)) := by
  have ascii : ∀ c ∈ signedText negative one ++ '/' :: two, Character.isAscii c = true :=
    List.forall_mem_append.mpr ⟨above.signed_ascii negative,
      List.forall_mem_cons.mpr ⟨by decide, below.ascii⟩⟩
  refine ⟨?_, ?_, ?_⟩
  · rw [Text.narrowed_ascii _ ascii]
    have bar : ∀ d ∈ ('/' :: two).head?, Kind.symbol.has d = true := by
      rintro d ⟨⟩
      decide
    exact segments_append _ _ _ _
      (parted_kinds _ _ .digit .symbol nofun (above.signed_last negative) bar)
      (above.signed_segments negative)
      (below.behind (.operator .divide) '/' (by decide) rfl (by decide))
  · exact List.forall_mem_append.mpr ⟨above.signed_readable negative,
      List.forall_mem_cons.mpr ⟨fixed_readable (.operator .divide), below.readable⟩⟩
  · cases negative <;> rfl

end Denotes

/-! The exact display -/

theorem repr_signed (n : Int) :
    n.repr = String.ofList (signedText (n < 0) (Nat.toDigits 10 n.natAbs)) := by
  cases n with
  | ofNat m => rfl
  | negSucc m =>
      apply String.toList_inj.mp
      simp [Int.repr, signedText, Nat.repr]

theorem signed_natAbs (n : Int) :
    (if decide (n < 0) = true then -(n.natAbs : Rat) else n.natAbs) = n := by
  by_cases negative : n < 0
  · have opposite : (n.natAbs : Int) = -n := by omega
    simp only [negative, decide_true, ↓reduceIte]
    rw [← Rat.intCast_natCast, opposite, Rat.intCast_neg, Rat.neg_neg]
  · have same : (n.natAbs : Int) = n := by omega
    simp only [negative, decide_false, Bool.false_eq_true, ↓reduceIte]
    rw [← Rat.intCast_natCast, same]

theorem exact_fraction (value : Rat) (proper : value.den ≠ 1) :
    Display.exact value = String.ofList (signedText (value.num < 0)
      (Nat.toDigits 10 value.num.natAbs) ++ '/' :: Nat.toDigits 10 value.den) := by
  rw [Display.exact, if_neg proper, repr_signed]
  apply String.toList_inj.mp
  simp [Nat.repr]

/-- The evaluator reads the exact display of a value as that value. -/
theorem evaluate_exact (limits : Limits) (value : Rat) :
    evaluate limits (Display.exact value) = .ok value := by
  have above := Literal.toDigits_numeral value.num.natAbs
  have below := Literal.toDigits_numeral value.den
  by_cases integer : value.den = 1
  · have display : Display.exact value = value.num.repr := if_pos integer
    have same : (value.num : Rat) = value := by
      rw [← Rat.mkRat_one, ← integer, Rat.mkRat_self]
    rw [display, repr_signed, (Denotes.numeral _ _ above).evaluate, signed_value,
      Literal.value_toDigits, signed_natAbs, same]
  · have divides : (value.den : Rat) ≠ 0 := fun zero =>
      value.den_nz (Rat.natCast_eq_zero_iff.mp zero)
    have quotient : Arithmetic.quotient value.num value.den = .ok value := by
      rw [Arithmetic.quotient, if_neg divides, ← Rat.mkRat_eq_div, Rat.mkRat_self]
    rw [exact_fraction value integer, (Denotes.fraction _ _ _ above below).evaluate]
    simp only [Expression.value, signed_value, Literal.value_toDigits, signed_natAbs]
    exact quotient

end RationalCalc
