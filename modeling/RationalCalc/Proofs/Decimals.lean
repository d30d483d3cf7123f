import RationalCalc.Token.Literal

/-!
What a decimal literal is worth. It is well written if it has at most one point and at least one
digit, and then its digits write an integer that stands over a power of ten. Both ways of reading it,
in a machine word and in unbounded integers, give that value as long as the places behind the point
can be counted in 32 bits: the word never wraps.
-/

namespace RationalCalc.Literal

def WellWritten (raw : List Char) : Prop :=
  raw.count '.' ≤ 1 ∧ ∃ c ∈ raw, c.isDigit = true

def places (raw : List Char) : Nat :=
  (raw.dropWhile (· != '.')).length - 1

/-- The integer of all the digits, over one factor of ten for each of the places. -/
def decimal (raw : List Char) : Rat :=
  mkRat (Nat.ofDigitChars 10 (raw.filter (· != '.')) 0) (Nat.pow 10 (places raw))

/-! Words do not wrap -/

theorem digit_range (c : Char) (digit : c.isDigit = true) : 48 ≤ c.toNat ∧ c.toNat ≤ 57 := by
  simpa [Char.isDigit, UInt32.le_iff_toNat_le] using digit

theorem wordDigit_toNat (c : Char) (digit : c.isDigit = true) :
    (wordDigit c).toNat = c.toNat - '0'.toNat := by
  have range := digit_range c digit
  have zero : '0'.toNat = 48 := rfl
  simp only [wordDigit, BitVec.toNat_sub, BitVec.toNat_ofNat, zero]
  omega

def shortBound : Nat := Nat.pow 10 (shortWhole + shortFraction)

/-- Reading on from a word that leaves room for the digits to come. -/
theorem wordFold_toNat (digits : List Char) (sofar : Word) (bound : Nat)
    (decimal : ∀ c ∈ digits, c.isDigit = true) (small : sofar.toNat < bound)
    (room : bound * Nat.pow 10 digits.length ≤ shortBound) :
    (digits.foldl (fun sofar c => sofar * 10#128 + wordDigit c) sofar).toNat =
      Nat.ofDigitChars 10 digits sofar.toNat := by
  induction digits generalizing sofar bound with
  | nil => rfl
  | cons c digits ih =>
      have digit := decimal c (List.mem_cons_self ..)
      have range := digit_range c digit
      have value := wordDigit_toNat c digit
      have zero : '0'.toNat = 48 := rfl
      have most : shortBound = 1000000000000000000000000000 := rfl
      have grown : bound * 10 * Nat.pow 10 digits.length ≤ shortBound := by
        simpa [Nat.pow_succ, Nat.mul_assoc, Nat.mul_comm 10] using room
      have fits : bound * 10 ≤ shortBound :=
        Nat.le_trans (Nat.le_mul_of_pos_right _ (Nat.pow_pos (by decide))) grown
      have next : (sofar * 10#128 + wordDigit c).toNat = 10 * sofar.toNat + (c.toNat - '0'.toNat) := by
        simp only [BitVec.toNat_add, BitVec.toNat_mul, BitVec.toNat_ofNat, value, zero]
        omega
      have tail := ih (sofar * 10#128 + wordDigit c) (bound * 10)
        (fun other member => decimal other (List.mem_cons_of_mem c member)) (by omega) grown
      rw [List.foldl_cons, tail, next, Nat.ofDigitChars_cons]

theorem wordScale_toNat (places : Nat) (few : places ≤ shortFraction) :
    (wordScale places).toNat = Nat.pow 10 places := by
  have small : ∀ places < shortFraction + 1, (wordScale places).toNat = Nat.pow 10 places := by decide
  exact small places (Nat.lt_succ_of_le few)

/-! The value of the parts -/

structure Parts.Digits (parts : Parts) : Prop where
  whole : ∀ c ∈ parts.whole, c.isDigit = true
  fraction : ∀ c ∈ parts.fraction, c.isDigit = true

theorem shortValue_eq (parts : Parts) (digits : parts.Digits) (short : parts.isShort = true) :
    parts.shortValue = mkRat (Nat.ofDigitChars 10 (parts.whole ++ parts.fraction) 0)
      (Nat.pow 10 parts.fraction.length) := by
  simp only [Parts.isShort, Bool.and_eq_true, decide_eq_true_eq] at short
  have decimal : ∀ c ∈ parts.whole ++ parts.fraction, c.isDigit = true := by
    intro c member
    rcases List.mem_append.mp member with left | right
    · exact digits.whole c left
    · exact digits.fraction c right
  have few : (parts.whole ++ parts.fraction).length ≤ shortWhole + shortFraction := by
    simp only [List.length_append]
    omega
  have room : 1 * Nat.pow 10 (parts.whole ++ parts.fraction).length ≤ shortBound := by
    rw [Nat.one_mul]
    exact Nat.pow_le_pow_right (by decide) few
  have word := wordFold_toNat (parts.whole ++ parts.fraction) 0#128 1 decimal (by decide) room
  simp only [Parts.shortValue, wordOf, word, wordScale_toNat _ short.2]
  rfl

theorem longValue_eq (parts : Parts) (few : parts.fraction.length < UInt32.size) :
    parts.longValue = mkRat (Nat.ofDigitChars 10 (parts.whole ++ parts.fraction) 0)
      (Nat.pow 10 parts.fraction.length) := by
  have joined : Nat.ofDigitChars 10 (parts.whole ++ parts.fraction) 0 =
      Nat.ofDigitChars 10 parts.whole 0 * Nat.pow 10 parts.fraction.length +
        Nat.ofDigitChars 10 parts.fraction 0 := by
    rw [Nat.ofDigitChars_append, Nat.ofDigitChars_eq_ofDigitChars_zero, Nat.mul_comm]
    rfl
  rw [Parts.longValue, powerOfTen_few few, joined]

theorem value_digits (parts : Parts) (digits : parts.Digits)
    (few : parts.fraction.length < UInt32.size) :
    parts.value = mkRat (Nat.ofDigitChars 10 (parts.whole ++ parts.fraction) 0)
      (Nat.pow 10 parts.fraction.length) := by
  unfold Parts.value
  split
  · exact shortValue_eq parts digits ‹_›
  · exact longValue_eq parts few

/-! Cutting at the point -/

theorem split_cases (raw : List Char) :
    '.' ∉ (split raw).whole ∧
      (raw = (split raw).whole ∧ (split raw).fraction = [] ∧ raw.dropWhile (· != '.') = [] ∨
        raw = (split raw).whole ++ '.' :: (split raw).fraction ∧
          raw.dropWhile (· != '.') = '.' :: (split raw).fraction) := by
  constructor
  · intro member
    simpa using List.all_eq_true.mp List.all_takeWhile _ member
  · have joined := List.takeWhile_append_dropWhile (p := (· != '.')) (l := raw)
    have first := List.head?_dropWhile_not (· != '.') raw
    cases rest : raw.dropWhile (· != '.') with
    | nil =>
        rw [rest, List.append_nil] at joined
        exact .inl ⟨joined.symm, by simp [split, rest], rfl⟩
    | cons c fraction =>
        rw [rest] at joined first
        have point : c = '.' := by simpa using first
        subst point
        have behind : (split raw).fraction = fraction := by simp [split, rest]
        exact .inr ⟨by rw [behind]; exact joined.symm, by rw [behind]⟩

theorem fraction_places (raw : List Char) : (split raw).fraction.length = places raw := by
  obtain ⟨-, ⟨-, none, rest⟩ | ⟨-, rest⟩⟩ := split_cases raw
  · rw [places, none, rest]
    rfl
  · rw [places, rest]
    rfl

theorem digit_not_point (c : Char) (digit : c.isDigit = true) : c ≠ '.' := by
  rintro rfl
  cases digit

theorem wellFormed_parts (parts : Parts) :
    parts.wellFormed = true ↔ parts.Digits ∧ (parts.whole ≠ [] ∨ parts.fraction ≠ []) := by
  simp only [Parts.wellFormed, Bool.and_eq_true, Bool.not_eq_true', Bool.and_eq_false_iff,
    List.isEmpty_eq_false_iff, List.all_eq_true]
  constructor
  · rintro ⟨⟨filled, whole⟩, fraction⟩
    exact ⟨⟨whole, fraction⟩, filled⟩
  · rintro ⟨⟨whole, fraction⟩, filled⟩
    exact ⟨⟨filled, whole⟩, fraction⟩

theorem digits_of_plain (part : List Char) (plain : '.' ∉ part)
    (all : ∀ c ∈ part, c.isDigit = true ∨ c = '.') : ∀ c ∈ part, c.isDigit = true := by
  intro c member
  rcases all c member with digit | rfl
  · exact digit
  · exact absurd member plain

theorem plain_of_digits (part : List Char) (all : ∀ c ∈ part, c.isDigit = true) : '.' ∉ part :=
  fun member => digit_not_point '.' (all '.' member) rfl

theorem wellWritten_whole (raw : List Char) (plain : '.' ∉ raw) :
    (∀ c ∈ raw, c.isDigit = true ∨ c = '.') ∧ WellWritten raw ↔
      (∀ c ∈ raw, c.isDigit = true) ∧ raw ≠ [] := by
  have never := List.count_eq_zero.mpr plain
  constructor
  · rintro ⟨all, -, c, member, -⟩
    exact ⟨digits_of_plain raw plain all, List.ne_nil_of_mem member⟩
  · rintro ⟨digits, filled⟩
    obtain ⟨c, member⟩ := List.exists_mem_of_ne_nil raw filled
    exact ⟨fun c member => .inl (digits c member), by omega, c, member, digits c member⟩

theorem wellWritten_pointed (whole fraction : List Char) (plain : '.' ∉ whole) :
    (∀ c ∈ whole ++ '.' :: fraction, c.isDigit = true ∨ c = '.') ∧
        WellWritten (whole ++ '.' :: fraction) ↔
      Parts.Digits ⟨whole, fraction⟩ ∧ (whole ≠ [] ∨ fraction ≠ []) := by
  have once : (whole ++ '.' :: fraction).count '.' = fraction.count '.' + 1 := by
    rw [List.count_append, List.count_eq_zero.mpr plain, List.count_cons_self, Nat.zero_add]
  simp only [WellWritten, once, List.mem_append, List.mem_cons]
  constructor
  · rintro ⟨all, few, c, member, digit⟩
    have behind : '.' ∉ fraction := List.count_eq_zero.mp (by omega)
    refine ⟨⟨?_, ?_⟩, ?_⟩
    · exact digits_of_plain whole plain fun c member => all c (.inl member)
    · exact digits_of_plain fraction behind fun c member => all c (.inr (.inr member))
    · rcases member with member | rfl | member
      · exact .inl (List.ne_nil_of_mem member)
      · cases digit
      · exact .inr (List.ne_nil_of_mem member)
  · rintro ⟨digits, filled⟩
    have none := List.count_eq_zero.mpr (plain_of_digits fraction digits.fraction)
    refine ⟨?_, by omega, ?_⟩
    · rintro c (member | point | member)
      · exact .inl (digits.whole c member)
      · exact .inr point
      · exact .inl (digits.fraction c member)
    · rcases filled with filled | filled
      · obtain ⟨c, member⟩ := List.exists_mem_of_ne_nil whole filled
        exact ⟨c, .inl member, digits.whole c member⟩
      · obtain ⟨c, member⟩ := List.exists_mem_of_ne_nil fraction filled
        exact ⟨c, .inr (.inr member), digits.fraction c member⟩

theorem wellFormed_iff (raw : List Char) :
    (split raw).wellFormed = true ↔
      (∀ c ∈ raw, c.isDigit = true ∨ c = '.') ∧ WellWritten raw := by
  rw [wellFormed_parts]
  obtain ⟨plain, ⟨same, none, -⟩ | ⟨same, -⟩⟩ := split_cases raw
  · have whole := wellWritten_whole (split raw).whole plain
    rw [← same] at whole
    rw [whole, none, ← same]
    constructor
    · rintro ⟨digits, filled⟩
      exact ⟨same ▸ digits.whole, filled.resolve_right (fun filled => filled rfl)⟩
    · rintro ⟨digits, filled⟩
      exact ⟨⟨same ▸ digits, by simp [none]⟩, .inl filled⟩
  · have pointed := wellWritten_pointed (split raw).whole (split raw).fraction plain
    rw [← same] at pointed
    exact pointed.symm

theorem value_split (raw : List Char) (formed : (split raw).wellFormed = true)
    (few : places raw < UInt32.size) : (split raw).value = decimal raw := by
  have digits := ((wellFormed_parts _).mp formed).1
  have kept (part : List Char) (all : ∀ c ∈ part, c.isDigit = true) :
      part.filter (· != '.') = part := by
    apply List.filter_eq_self.mpr
    intro c member
    exact bne_iff_ne.mpr (digit_not_point c (all c member))
  rw [value_digits _ digits (fraction_places raw ▸ few), fraction_places, decimal]
  obtain ⟨-, ⟨same, none, -⟩ | ⟨same, -⟩⟩ := split_cases raw
  · have filtered := congrArg (List.filter (· != '.')) same
    rw [kept _ digits.whole] at filtered
    rw [filtered, none, List.append_nil]
  · have filtered := congrArg (List.filter (· != '.')) same
    simp only [List.filter_append, kept _ digits.whole] at filtered
    rw [filtered]
    simp [kept _ digits.fraction]

theorem read_iff (raw : List Char) (value : Rat) :
    read? raw = some value ↔
      (∀ c ∈ raw, c.isDigit = true ∨ c = '.') ∧ WellWritten raw ∧ value = (split raw).value := by
  simp only [read?]
  rw [← and_assoc, ← wellFormed_iff]
  by_cases formed : (split raw).wellFormed = true
  · simp [formed, eq_comm]
  · simp [formed]

end RationalCalc.Literal
