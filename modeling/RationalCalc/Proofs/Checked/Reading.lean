import RationalCalc.Proofs.Checked.Operations
import RationalCalc.Proofs.Lexing

/-!
Reading a text with every operation checked. The lexer counts the bytes it has passed and slices the
text at them; short literals are accumulated digit by digit in a word that would be too small for
longer ones. Nothing goes wrong: the bytes passed are those of whole characters, and digits are few
enough wherever a word is used.
-/

namespace RationalCalc.Checked

open Literal (Word Parts)

/-! Literals -/

def step (sofar : Word) (c : Char) : Except Breach Word := do
  add (← mul sofar 10#128) (← digit c)

def wordOf (digits : List Char) : Except Breach Word :=
  digits.foldlM step 0#128

def wordScale : Nat → Except Breach Word
  | 0 => .ok 1#128
  | places + 1 => do mul (← wordScale places) 10#128

def shortValue (parts : Parts) : Except Breach Rat := do
  let digits ← wordOf (parts.whole ++ parts.fraction)
  let scale ← wordScale parts.fraction.length
  rational digits.toNat scale.toNat

def longValue (parts : Parts) : Except Breach Rat :=
  let scale : Nat := powerOfTen parts.fraction.length
  let digits : Nat := Nat.ofDigitChars 10 parts.whole 0 * scale + Nat.ofDigitChars 10 parts.fraction 0
  rational digits scale

def value (parts : Parts) : Except Breach Rat :=
  if parts.isShort then shortValue parts else longValue parts

def read? (raw : List Char) : Except Breach (Option Rat) :=
  let parts := Literal.split raw
  if parts.wellFormed then some <$> value parts else .ok none

open Literal (shortBound)

/-- One digit more leaves room for those that are still to come. -/
theorem step_ok {sofar : Word} {bound : Nat} {c : Char} (decimal : c.isDigit = true)
    (small : sofar.toNat < bound) (room : bound * 10 ≤ shortBound) :
    step sofar c = .ok (sofar * 10#128 + Literal.wordDigit c) ∧
      (sofar * 10#128 + Literal.wordDigit c).toNat < bound * 10 := by
  have range := Literal.digit_range c decimal
  have zero : '0'.toNat = 48 := rfl
  have worth := Literal.wordDigit_toNat c decimal
  have ten : (10#128).toNat = 10 := rfl
  have most : shortBound = 1000000000000000000000000000 := rfl
  have capacity : Nat.pow 2 128 = 340282366920938463463374607431768211456 := rfl
  have shifted : (sofar * 10#128).toNat = sofar.toNat * 10 := by
    rw [BitVec.toNat_mul, ten]
    omega
  have next : (sofar * 10#128 + Literal.wordDigit c).toNat =
      sofar.toNat * 10 + (c.toNat - '0'.toNat) := by
    rw [BitVec.toNat_add, shifted, worth]
    omega
  constructor
  · have multiplied : mul sofar 10#128 = .ok (sofar * 10#128) := mul_ok (by rw [ten]; omega)
    have added : add (sofar * 10#128) (Literal.wordDigit c) =
        .ok (sofar * 10#128 + Literal.wordDigit c) := add_ok (by rw [shifted, worth]; omega)
    have worthy : digit c = .ok (Literal.wordDigit c) := if_neg (by omega)
    rw [step, multiplied, worthy]
    exact added
  · omega

theorem fold_ok (digits : List Char) (sofar : Word) (bound : Nat)
    (decimal : ∀ c ∈ digits, c.isDigit = true) (small : sofar.toNat < bound)
    (room : bound * Nat.pow 10 digits.length ≤ shortBound) :
    digits.foldlM step sofar =
      .ok (digits.foldl (fun sofar c => sofar * 10#128 + Literal.wordDigit c) sofar) := by
  induction digits generalizing sofar bound with
  | nil => rfl
  | cons c digits ih =>
      obtain ⟨first, others⟩ := List.forall_mem_cons.mp decimal
      have grown : bound * 10 * Nat.pow 10 digits.length ≤ shortBound := by
        simpa [Nat.pow_succ, Nat.mul_assoc, Nat.mul_comm 10] using room
      have fits : bound * 10 ≤ shortBound :=
        Nat.le_trans (Nat.le_mul_of_pos_right _ (Nat.pow_pos (by decide))) grown
      obtain ⟨taken, below⟩ := step_ok first small fits
      rw [List.foldlM_cons, taken]
      exact ih _ (bound * 10) others below grown

theorem wordScale_ok (places : Nat) (few : places ≤ Literal.shortFraction) :
    wordScale places = .ok (Literal.wordScale places) := by
  have small : ∀ places < Literal.shortFraction + 1,
      wordScale places = .ok (Literal.wordScale places) := by decide +kernel
  exact small places (Nat.lt_succ_of_le few)

theorem shortValue_ok (parts : Parts) (digits : parts.Digits) (short : parts.isShort = true) :
    shortValue parts = .ok parts.shortValue := by
  simp only [Parts.isShort, Bool.and_eq_true, decide_eq_true_eq] at short
  have decimal : ∀ c ∈ parts.whole ++ parts.fraction, c.isDigit = true := by
    intro c member
    rcases List.mem_append.mp member with left | right
    · exact digits.whole c left
    · exact digits.fraction c right
  have few : (parts.whole ++ parts.fraction).length ≤
      Literal.shortWhole + Literal.shortFraction := by
    simp only [List.length_append]
    omega
  have room : 1 * Nat.pow 10 (parts.whole ++ parts.fraction).length ≤ shortBound := by
    rw [Nat.one_mul]
    exact Nat.pow_le_pow_right (by decide) few
  have word := fold_ok _ 0#128 1 decimal (by decide) room
  have proper : (Literal.wordScale parts.fraction.length).toNat ≠ 0 := by
    rw [Literal.wordScale_toNat _ short.2]
    exact Nat.ne_of_gt (Nat.pow_pos (by decide))
  rw [shortValue, wordOf, word, wordScale_ok _ short.2]
  exact rational_ok proper _

theorem value_ok (parts : Parts) (digits : parts.Digits) : value parts = .ok parts.value := by
  rw [value, Parts.value]
  split
  · exact shortValue_ok parts digits ‹_›
  · exact rational_ok (Nat.ne_of_gt (powerOfTen_pos _)) _

theorem read_ok (raw : List Char) : read? raw = .ok (Literal.read? raw) := by
  simp only [read?, Literal.read?]
  split
  · rename_i formed
    rw [value_ok _ ((Literal.wellFormed_parts _).mp formed).1]
    rfl
  · rfl

/-- Forty digits are too many for a word. -/
example : wordOf (List.replicate 40 '9') = .error .overflow := by
  decide +kernel

/-! Texts -/

open Character
open Lexer (Lexed inNumber word symbol)

def scan (text : String) (offset start : Nat) : List Char → Except Breach Lexed
  | [] => .ok ⟨[.ending], none⟩
  | c :: rest =>
      let next := offset + c.utf8Size
      if isWhiteSpace c then scan text next (start + 1) rest
      else if inNumber c then do
        let more := rest.takeWhile inNumber
        let stop := next + String.utf8Len more
        let raw ← slice text offset stop
        match ← read? raw.toList with
        | none => return ⟨[], some (.badLiteral raw start)⟩
        | some value =>
            let later ← scan text stop (start + 1 + more.length) (rest.drop more.length)
            return later.after (.number value)
      else if isAlphabetic c then do
        let more := rest.takeWhile isAlphabetic
        let stop := next + String.utf8Len more
        let letters ← slice text offset stop
        let later ← scan text stop (start + 1 + more.length) (rest.drop more.length)
        return later.after (word letters.toList)
      else
        match symbol c rest with
        | none => .ok ⟨[], some (.unknownCharacter c start)⟩
        | some (token, more) => do
            let stop := next + String.utf8Len (rest.take more)
            let later ← scan text stop (start + 1 + more) (rest.drop more)
            return later.after token
termination_by rest => rest.length

def lex (text : String) : Except Breach Lexed :=
  scan (Text.narrowed text) 0 0 (Text.narrowed text).toList

theorem utf8Len_run (before more : List Char) (c : Char) :
    String.utf8Len (before ++ c :: more) =
      String.utf8Len before + c.utf8Size + String.utf8Len more := by
  rw [String.utf8Len_append, String.utf8Len_cons]
  omega

theorem run_slice (p : Char → Bool) (before rest : List Char) (c : Char) :
    slice (String.ofList (before ++ c :: rest)) (String.utf8Len before)
        (String.utf8Len before + c.utf8Size + String.utf8Len (rest.takeWhile p)) =
      .ok (String.ofList (c :: rest.takeWhile p)) := by
  have cut := slice_ok before (c :: rest.takeWhile p) (rest.drop (rest.takeWhile p).length)
  rwa [← String.utf8Len_append, utf8Len_run, List.append_assoc, ← Lexer.run_rest] at cut

theorem scan_ok (before rest : List Char) (start : Nat) :
    scan (String.ofList (before ++ rest)) (String.utf8Len before) start rest =
      .ok (Lexer.scan start rest) := by
  induction start, rest using Lexer.scan.induct generalizing before with
  | case1 start => rw [scan, Lexer.scan]
  | case2 start c rest space ih =>
      have later := ih (before ++ [c])
      rw [List.append_assoc, utf8Len_run] at later
      rw [scan, Lexer.scan, if_pos space, if_pos space]
      exact later
  | case3 start c rest space number more refused =>
      rw [scan, Lexer.scan]
      simp only [space, number, Bool.false_eq_true, if_false, if_true, run_slice, bind, Except.bind,
        String.toList_ofList, read_ok, refused, more]
      rfl
  | case4 start c rest space number more value read ih =>
      have later := ih (before ++ c :: more)
      rw [List.append_assoc, ← Lexer.run_rest, utf8Len_run] at later
      rw [scan, Lexer.scan]
      simp only [space, number, Bool.false_eq_true, if_false, if_true, run_slice, bind, Except.bind,
        String.toList_ofList, read_ok, read, later, more]
      rfl
  | case5 start c rest space number letter more ih =>
      have later := ih (before ++ c :: more)
      rw [List.append_assoc, ← Lexer.run_rest, utf8Len_run] at later
      rw [scan, Lexer.scan]
      simp only [space, number, letter, Bool.false_eq_true, if_false, if_true, run_slice, bind,
        Except.bind, String.toList_ofList, later, more]
      rfl
  | case6 start c rest space number letter unknown =>
      rw [scan, Lexer.scan]
      simp only [space, number, letter, unknown, Bool.false_eq_true, if_false]
  | case7 start c rest space number letter token more found ih =>
      have later := ih (before ++ c :: rest.take more)
      rw [List.append_assoc, List.cons_append, List.take_append_drop, utf8Len_run] at later
      rw [scan, Lexer.scan]
      simp only [space, number, letter, found, Bool.false_eq_true, if_false, bind, Except.bind, later]
      rfl

theorem lex_ok (text : String) : lex text = .ok (Lexer.lex text) := by
  have scanned := scan_ok [] (Text.narrowed text).toList 0
  rwa [List.nil_append, String.ofList_toList] at scanned

end RationalCalc.Checked
