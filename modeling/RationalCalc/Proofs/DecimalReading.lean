import Mathlib.Data.List.DropRight
import RationalCalc.Proofs.ExactReading
import RationalCalc.Proofs.Rounding

/-!
The decimal display shows the rounded value: read back, the text is worth that value, and displaying
it again, at the same place or at one behind it, gives the same text. Zeros that say nothing are left
out of the text, so that it does not show to how many places it was rounded. All of this is for places
that can be counted in 32 bits, though a text of this form is shown at any place.
-/

namespace RationalCalc

namespace Display

def point (fraction : List Char) : List Char :=
  if fraction = [] then [] else '.' :: fraction

theorem point_nil : point [] = [] := rfl

theorem point_cons (c : Char) (rest : List Char) : point (c :: rest) = '.' :: c :: rest := rfl

/-- A scaled magnitude with its point put back and without closing zeros. -/
def plain (n places : Nat) : List Char :=
  Nat.toDigits 10 (n / powerOfTen places) ++
    point (dropEnd '0' (padded places (n % powerOfTen places)))

/-! Closing characters -/

theorem dropEnd_concat (c : Char) (text : List Char) : dropEnd c (text ++ [c]) = dropEnd c text :=
  List.rdropWhile_concat_pos (· == c) text c (beq_self_eq_true c)

theorem dropEnd_last (c d : Char) (differ : d ≠ c) (text : List Char) :
    dropEnd c (text ++ [d]) = text ++ [d] :=
  List.rdropWhile_concat_neg (· == c) text d fun same => differ (beq_iff_eq.mp same)

theorem dropEnd_self (c : Char) (text : List Char) (other : c ∉ text) : dropEnd c text = text := by
  apply List.rdropWhile_eq_self_iff.mpr
  intro filled same
  exact other (beq_iff_eq.mp same ▸ List.getLast_mem filled)

theorem dropEnd_behind (c d : Char) (differ : d ≠ c) (front rest : List Char) :
    dropEnd c (front ++ d :: rest) = front ++ d :: dropEnd c rest := by
  induction rest using List.reverseRecOn with
  | nil => exact dropEnd_last c d differ front
  | append_singleton rest e ih =>
      rw [← List.cons_append, ← List.append_assoc]
      by_cases same : e = c
      · subst same
        rw [dropEnd_concat, dropEnd_concat, ih]
      · rw [dropEnd_last c e same, dropEnd_last c e same, List.append_assoc, List.cons_append]

theorem dropEnd_replicate (c : Char) (count : Nat) : dropEnd c (List.replicate count c) = [] :=
  List.rdropWhile_eq_nil_iff.mpr fun _ member => beq_iff_eq.mpr (List.eq_of_mem_replicate member)

theorem dropEnd_split (c : Char) (text : List Char) :
    ∃ count, text = dropEnd c text ++ List.replicate count c := by
  have copies : ∀ d ∈ text.rtakeWhile (· == c), d = c := fun d member =>
    beq_iff_eq.mp (List.mem_rtakeWhile_imp (p := (· == c)) member)
  have whole : dropEnd c text ++ text.rtakeWhile (· == c) = text := List.rdropWhile_append_rtakeWhile
  rw [List.eq_replicate_of_mem copies] at whole
  exact ⟨_, whole.symm⟩

theorem tidied_point (front fraction : List Char) (whole : '.' ∉ front) (digits : '.' ∉ fraction) :
    tidied (front ++ '.' :: fraction) = front ++ point (dropEnd '0' fraction) := by
  have pointed : (front ++ '.' :: fraction).contains '.' = true := by simp
  rw [tidied, if_pos pointed, dropEnd_behind '0' '.' (by decide)]
  by_cases none : dropEnd '0' fraction = []
  · rw [none, dropEnd_concat, dropEnd_self '.' front whole, point_nil, List.append_nil]
  · have within : '.' ∉ dropEnd '0' fraction := fun member =>
      digits ((List.rdropWhile_prefix _ fraction).subset member)
    obtain ⟨c, rest, same⟩ := List.exists_cons_of_ne_nil none
    rw [same] at within ⊢
    have behind := dropEnd_behind '.' c (fun point => within (point ▸ List.mem_cons_self ..))
      (front ++ ['.']) rest
    have last := dropEnd_self '.' rest fun member => within (List.mem_cons_of_mem c member)
    simpa [point_cons, last] using behind

/-! Padding -/

theorem padded_digits (places n : Nat) : ∀ c ∈ padded places n, c.isDigit = true := by
  intro c member
  rcases List.mem_append.mp member with zero | digit
  · rw [List.eq_of_mem_replicate zero]
    decide
  · exact Literal.toDigits_digits n c digit

theorem padded_value (places n : Nat) : Nat.ofDigitChars 10 (padded places n) 0 = n := by
  rw [padded, Nat.ofDigitChars_append, Nat.ofDigitChars_replicate_zero, Nat.mul_zero,
    Nat.ofDigitChars_ten_toDigits]

theorem padded_length (places n : Nat) (some : 0 < places) (fits : n < Nat.pow 10 places) :
    (padded places n).length = places := by
  have short : (Nat.toDigits 10 n).length ≤ places :=
    (Nat.length_toDigits_le_iff (by decide) some).mpr fits
  simp only [padded, List.length_append, List.length_replicate]
  omega

theorem toDigits_shift (n : Nat) (pos : 0 < n) :
    Nat.toDigits 10 (n * 10) = Nat.toDigits 10 n ++ ['0'] := by
  have digits := Nat.toDigits_append_toDigits (by decide : 1 < 10) pos (by decide : 0 < 10)
  rw [Nat.add_zero, Nat.mul_comm] at digits
  exact digits.symm

/-- A further place gets one zero more at the end, which is dropped. -/
theorem padded_shift (places n : Nat) :
    dropEnd '0' (padded (places + 1) (n * 10)) = dropEnd '0' (padded places n) := by
  rcases Nat.eq_zero_or_pos n with rfl | pos
  · have zeros (places : Nat) : dropEnd '0' (padded places 0) = [] := by
      have all : padded places 0 = List.replicate (places - 1) '0' ++ ['0'] := rfl
      rw [all, dropEnd_concat, dropEnd_replicate]
    rw [Nat.zero_mul, zeros, zeros]
  · have longer : padded (places + 1) (n * 10) = padded places n ++ ['0'] := by
      simp [padded, toDigits_shift n pos]
    rw [longer, dropEnd_concat]

/-! The text -/

theorem plain_shift (n places : Nat) (few : places + 1 < UInt32.size) :
    plain (n * 10) (places + 1) = plain n places := by
  have whole : n * 10 / Nat.pow 10 (places + 1) = n / Nat.pow 10 places :=
    Nat.mul_div_mul_right n (Nat.pow 10 places) (by decide)
  have rest : n * 10 % Nat.pow 10 (places + 1) = n % Nat.pow 10 places * 10 :=
    Nat.mul_mod_mul_right 10 n (Nat.pow 10 places)
  rw [plain, powerOfTen_few few, whole, rest, padded_shift, plain, powerOfTen_few (by omega)]

theorem plain_shifts (n places more : Nat) (few : places + more < UInt32.size) :
    plain (n * Nat.pow 10 more) (places + more) = plain n places := by
  induction more with
  | zero => exact congrArg (plain · places) (Nat.mul_one n)
  | succ more ih =>
      have next := plain_shift (n * Nat.pow 10 more) (places + more) few
      rw [Nat.mul_assoc] at next
      exact next.trans (ih (by omega))

theorem plain_zero (n : Nat) : plain n 0 = Nat.toDigits 10 n := by
  have whole : n / powerOfTen 0 = n := Nat.div_one n
  have rest : n % powerOfTen 0 = 0 := Nat.mod_one n
  have none : dropEnd '0' (padded 0 0) = [] := dropEnd_replicate '0' 1
  rw [plain, whole, rest, none]
  exact List.append_nil _

theorem shown_length (n places : Nat) (few : places < UInt32.size) :
    (dropEnd '0' (padded places (n % powerOfTen places))).length ≤ places := by
  cases places with
  | zero =>
      have none : n % powerOfTen 0 = 0 := Nat.mod_one n
      rw [none]
      exact Nat.le_refl 0
  | succ places =>
      have fits := Nat.mod_lt n (powerOfTen_pos (places + 1))
      rw [powerOfTen_few few] at fits ⊢
      have long := padded_length (places + 1) _ (Nat.succ_pos places) fits
      exact (List.rdropWhile_prefix (· == '0') _).length_le.trans long.le

theorem toDigits_pointless (n : Nat) : '.' ∉ Nat.toDigits 10 n :=
  Literal.plain_of_digits _ (Literal.toDigits_digits n)

theorem signedText_pointless (negative : Bool) (run : List Char) (none : '.' ∉ run) :
    '.' ∉ signedText negative run := by
  cases negative with
  | false => exact none
  | true => exact List.not_mem_cons_of_ne_of_not_mem (by decide) none

theorem tidied_pointed (n places : Nat) (negative : Bool) :
    tidied (pointed n negative places) = signedText negative (plain n places) := by
  have front (run : List Char) :
      (if negative then ['-'] else []) ++ run = signedText negative run := by
    cases negative <;> rfl
  cases places with
  | zero =>
      have digits : pointed n negative 0 = signedText negative (Nat.toDigits 10 n) := by
        rw [← front]
        exact congrArg (_ ++ Nat.toDigits 10 ·) (Nat.div_one n)
      have none := signedText_pointless negative _ (toDigits_pointless n)
      rw [digits, tidied, if_neg (by simpa using none), plain_zero]
  | succ places =>
      have whole := signedText_pointless negative _
        (toDigits_pointless (n / powerOfTen (places + 1)))
      have digits := Literal.plain_of_digits _ (padded_digits (places + 1) (n % powerOfTen (places + 1)))
      have parts : pointed n negative (places + 1) =
          signedText negative (Nat.toDigits 10 (n / powerOfTen (places + 1))) ++
            '.' :: padded (places + 1) (n % powerOfTen (places + 1)) := by
        rw [← front]
        rfl
      rw [parts, tidied_point _ _ whole digits, ← front, ← front, List.append_assoc]
      rfl

theorem decimal_text (value : Rat) (places : Nat) :
    decimal value places =
      String.ofList (signedText (value.num < 0 && scaled value places != 0)
        (plain (scaled value places) places)) := by
  rw [decimal, tidied_pointed]

end Display

/-! The value of the text -/

namespace Literal

theorem places_point (whole fraction : List Char) (left : ∀ c ∈ whole, c.isDigit = true) :
    places (whole ++ Display.point fraction) = fraction.length := by
  have passed : ∀ c ∈ whole, (c != '.') = true := fun c member =>
    bne_iff_ne.mpr (digit_not_point c (left c member))
  rw [places, List.dropWhile_append_of_pos passed]
  cases fraction with
  | nil => rfl
  | cons c rest => rfl

theorem decimal_point (whole fraction : List Char) (left : ∀ c ∈ whole, c.isDigit = true)
    (right : ∀ c ∈ fraction, c.isDigit = true) :
    decimal (whole ++ Display.point fraction) =
      mkRat (Nat.ofDigitChars 10 (whole ++ fraction) 0) (Nat.pow 10 fraction.length) := by
  cases fraction with
  | nil =>
      rw [Display.point_nil, List.append_nil, decimal_digits whole left]
      exact (Rat.mkRat_one _).symm
  | cons c rest =>
      have passed (digits : List Char) (all : ∀ c ∈ digits, c.isDigit = true) :
          ∀ c ∈ digits, (c != '.') = true := fun c member =>
        bne_iff_ne.mpr (digit_not_point c (all c member))
      have digits : (whole ++ '.' :: c :: rest).filter (· != '.') = whole ++ c :: rest := by
        rw [List.filter_append, List.filter_eq_self.mpr (passed whole left),
          List.filter_cons_of_neg (by decide), List.filter_eq_self.mpr (passed _ right)]
      rw [decimal, places_point whole _ left, Display.point_cons, digits]

theorem decimal_trimmed (whole fraction : List Char) (left : ∀ c ∈ whole, c.isDigit = true)
    (right : ∀ c ∈ fraction, c.isDigit = true) :
    decimal (whole ++ Display.point (Display.dropEnd '0' fraction)) =
      mkRat (Nat.ofDigitChars 10 (whole ++ fraction) 0) (Nat.pow 10 fraction.length) := by
  obtain ⟨zeros, split⟩ := Display.dropEnd_split '0' fraction
  have kept : ∀ c ∈ Display.dropEnd '0' fraction, c.isDigit = true := fun c member =>
    right c (split ▸ List.mem_append_left _ member)
  rw [decimal_point whole _ left kept]
  generalize Display.dropEnd '0' fraction = front at split
  have digits : Nat.ofDigitChars 10 (whole ++ fraction) 0 =
      Nat.ofDigitChars 10 (whole ++ front) 0 * Nat.pow 10 zeros := by
    rw [split, ← List.append_assoc, Nat.ofDigitChars_append, Nat.ofDigitChars_replicate_zero,
      Nat.mul_comm]
    rfl
  have scale : Nat.pow 10 fraction.length = Nat.pow 10 front.length * Nat.pow 10 zeros := by
    rw [split, List.length_append, List.length_replicate]
    exact Nat.pow_add 10 _ _
  rw [digits, scale, Int.natCast_mul]
  exact (Rat.mkRat_mul_right (Nat.ne_of_gt (Nat.pow_pos (by decide)))).symm

end Literal

namespace Display

theorem plain_numeral (n places : Nat) : Lexer.Numeral (plain n places) := by
  have whole := Nat.toDigits_ne_nil (b := 10) (n := n / powerOfTen places)
  have left := Literal.toDigits_digits (n / powerOfTen places)
  have right : ∀ c ∈ dropEnd '0' (padded places (n % powerOfTen places)), c.isDigit = true :=
    fun c member => padded_digits _ _ c ((List.rdropWhile_prefix _ _).subset member)
  rw [plain]
  generalize dropEnd '0' (padded places (n % powerOfTen places)) = fraction at right ⊢
  cases fraction with
  | nil =>
      rw [point_nil, List.append_nil]
      exact .of_digits whole left
  | cons c rest =>
      have pointless := Literal.plain_of_digits _ left
      obtain ⟨inside, written⟩ := (Literal.wellWritten_pointed _ (c :: rest) pointless).mpr
        ⟨⟨left, right⟩, .inl whole⟩
      exact ⟨fun d member => (Lexer.inNumber_iff d).mpr (inside d member), written⟩

theorem decimal_plain (n : Nat) {places : Nat} (few : places < UInt32.size) :
    Literal.decimal (plain n places) = n / 10 ^ places := by
  cases places with
  | zero => rw [plain_zero, Literal.decimal_toDigits, pow_zero, div_one]
  | succ places =>
      have left := Literal.toDigits_digits (n / Nat.pow 10 (places + 1))
      have right := padded_digits (places + 1) (n % Nat.pow 10 (places + 1))
      have fits : n % Nat.pow 10 (places + 1) < Nat.pow 10 (places + 1) :=
        Nat.mod_lt n (Nat.pow_pos (by decide))
      have long := padded_length (places + 1) _ (Nat.succ_pos places) fits
      have digits : Nat.ofDigitChars 10 (Nat.toDigits 10 (n / Nat.pow 10 (places + 1)) ++
          padded (places + 1) (n % Nat.pow 10 (places + 1))) 0 = n := by
        rw [Nat.ofDigitChars_append, Nat.ofDigitChars_eq_ofDigitChars_zero, padded_value, long,
          Nat.ofDigitChars_ten_toDigits]
        exact Nat.div_add_mod n (Nat.pow 10 (places + 1))
      rw [plain, powerOfTen_few few, Literal.decimal_trimmed _ _ left right, digits, long, Rat.mkRat_eq_div, Nat.pow_eq,
        Nat.cast_pow, Int.cast_natCast, Nat.cast_ofNat]

theorem places_plain (n places : Nat) (few : places < UInt32.size) :
    Literal.places (plain n places) ≤ places := by
  rw [plain, Literal.places_point _ _ (Literal.toDigits_digits _)]
  exact shown_length n places few

theorem rounded_shown (value : Rat) {places : Nat} (few : places < UInt32.size) :
    (if (decide (value.num < 0) && scaled value places != 0) = true
      then -(scaled value places / 10 ^ places : Rat) else scaled value places / 10 ^ places) =
      rounded value places := by
  split
  · rename_i shown
    have negative : value.num < 0 := of_decide_eq_true ((Bool.and_eq_true ..).mp shown).1
    exact (rounded_nonpos few value (Rat.num_neg.mp negative).le).symm
  · rename_i hidden
    rcases le_or_gt 0 value with positive | negative
    · exact (rounded_nonneg few value positive).symm
    · have none : scaled value places = 0 := by simpa [Rat.num_neg.mpr negative] using hidden
      rw [rounded_nonpos few value negative.le, none]
      simp

theorem decimal_rounded (value : Rat) (places more : Nat) (few : places + more < UInt32.size) :
    decimal (rounded value places) (places + more) = decimal value places := by
  have sign : (decide ((rounded value places).num < 0) &&
        scaled (rounded value places) (places + more) != 0) =
      (decide (value.num < 0) && scaled value places != 0) := by
    have fewer : places < UInt32.size := by omega
    rw [Bool.eq_iff_iff]
    simp [scaled_rounded value more few, rounded_negative fewer, Rat.num_neg]
  rw [decimal_text, decimal_text, sign, scaled_rounded value more few, plain_shifts _ _ _ few]

/-- The decimal display read back is the rounded value. Displaying that value again, to no fewer
places, changes nothing, and the values that are shown keep the order of those that they are shown
for. There are fewer than 2^32 places each time. -/
theorem decimal_read_back (limits : Limits) (value : Rat) (places : Nat)
    (few : places < UInt32.size) :
    evaluate limits (decimal value places) = .ok (rounded value places) ∧
    (∀ more, places ≤ more → more < UInt32.size → decimal (rounded value places) more = decimal value places) ∧
    ∀ other, value ≤ other → rounded value places ≤ rounded other places := by
  refine ⟨?_, ?_, ?_⟩
  · have numeral := plain_numeral (scaled value places) places
    have shown := (places_plain (scaled value places) places few).trans_lt few
    rw [decimal_text, (Denotes.numeral _ _ numeral).evaluate, signed_value, numeral.value shown,
      decimal_plain _ few, rounded_shown value few]
  · intro more behind most
    obtain ⟨further, rfl⟩ := Nat.exists_eq_add_of_le behind
    exact decimal_rounded value places further most
  · intro other smaller
    exact rounded_mono few value other smaller

theorem decimal_read_back_thirds :
    decimal (-2 / 3) 4 = "-0.6667" ∧ evaluate .standard "-0.6667" = .ok (rounded (-2 / 3) 4) ∧
      4 ≤ 9 ∧ 9 < UInt32.size ∧ decimal (rounded (-2 / 3) 4) 9 = "-0.6667" ∧
      (-2 / 3 : Rat) ≤ 1 / 2 ∧ rounded (-2 / 3) 4 ≤ rounded (1 / 2) 4 := by
  have text : decimal (-2 / 3) 4 = "-0.6667" := by decide +kernel
  obtain ⟨read, again, order⟩ := decimal_read_back .standard (-2 / 3) 4 (by decide)
  rw [text] at read again
  exact ⟨text, read, by decide, by decide, again 9 (by decide) (by decide), by norm_num,
    order (1 / 2) (by norm_num)⟩

end Display

end RationalCalc
