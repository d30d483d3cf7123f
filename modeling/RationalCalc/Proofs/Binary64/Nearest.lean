import RationalCalc.Proofs.Binary64.Order

/-!
The double nearest to a rational. Its encoding is put together from an exponent field and a rounded
significand, which may carry into the field; read back, they stand for the significand times the
power of two, off by at most half a unit of the last place.
-/

namespace RationalCalc.Binary64

open Float.Model Float.Model.UnpackedFloat

/-! Encodings -/

theorem parts_joined (e s : Nat) (short : s ≤ 2 ^ 53) (full : 2 ^ 52 ≤ s ∨ e = 0)
    (below : e * 2 ^ 52 + s < infinityBits) :
    (parts (e * 2 ^ 52 + s)).isFinite = true ∧
      partsValue (parts (e * 2 ^ 52 + s)) = s * 2 ^ (e - 1074 : Int) := by
  unfold infinityBits at below
  have plain : sign (e * 2 ^ 52 + s) = .positive := by
    unfold sign signBit
    exact if_neg (by omega)
  by_cases whole : 2 ^ 52 ≤ s
  · by_cases carried : s = 2 ^ 53
    -- a significand that was rounded up to a power of two carries into the field
    · have place : field (e * 2 ^ 52 + s) = e + 2 := by
        unfold field signBit fractionSpan
        omega
      have rest : fraction (e * 2 ^ 52 + s) = 0 := by
        unfold fraction signBit fractionSpan
        omega
      have power : ((e + 2 : Nat) : Int) - 1075 = (e - 1074 : Int) + 1 := by omega
      unfold parts
      rw [if_neg (by omega), if_neg (by omega)]
      refine ⟨rfl, ?_⟩
      rw [partsValue, plain, place, rest, power, zpow_add_one₀ two_ne_zero, carried]
      simp only [unit]
      push_cast
      ring
    · have place : field (e * 2 ^ 52 + s) = e + 1 := by
        unfold field signBit fractionSpan
        omega
      have rest : fraction (e * 2 ^ 52 + s) = s - 2 ^ 52 := by
        unfold fraction signBit fractionSpan
        omega
      have power : ((e + 1 : Nat) : Int) - 1075 = (e - 1074 : Int) := by omega
      unfold parts
      rw [if_neg (by omega), if_neg (by omega)]
      refine ⟨rfl, ?_⟩
      rw [partsValue, plain, place, rest, power, Nat.add_sub_cancel' whole, unit, one_mul]
  · have least : e = 0 := full.resolve_left whole
    subst least
    have place : field (0 * 2 ^ 52 + s) = 0 := by
      unfold field signBit fractionSpan
      omega
    have rest : fraction (0 * 2 ^ 52 + s) = s := by
      unfold fraction signBit fractionSpan
      omega
    unfold parts
    rw [if_neg (by omega), if_pos place]
    by_cases none : s = 0
    · rw [dif_pos (by omega)]
      simp [partsValue, none, UnpackedFloat.isFinite]
    · rw [dif_neg (by omega)]
      refine ⟨rfl, ?_⟩
      rw [partsValue, plain, rest, unit, one_mul]
      rfl

theorem parts_signed (bits : Nat) (magnitude : bits < signBit) :
    parts (bits + signBit) = (parts bits).neg := by
  have place : field (bits + signBit) = field bits := by
    unfold field
    rw [Nat.add_mod_right]
  have rest : fraction (bits + signBit) = fraction bits := by
    unfold fraction
    rw [Nat.add_mod_right]
  have plain : sign bits = .positive := if_neg (by omega)
  have turned : sign (bits + signBit) = .negative := if_pos (by omega)
  unfold parts
  simp only [place, rest, plain, turned]
  split_ifs <;> rfl

theorem decoded_ofBits (bits : Nat) (short : bits < 2 ^ 64) (number : parts bits ≠ .notANumber) :
    decoded (Float.ofBits (UInt64.ofNat bits)) = parts bits := by
  have same : (UInt64.ofNat bits).toBitVec.toNat = bits := Nat.mod_eq_of_lt short
  rw [← unpack_eq]
  show (Float.Model.pack (UnpackedFloat.unpack .binary64 (UInt64.ofNat bits).toBitVec)).unpack = _
  rw [unpack_parts, same]
  by_cases finite : (parts bits).isFinite = true
  · rw [unpack_pack _ (parts_canonical bits finite)]
    have top := field_le bits
    revert finite
    unfold parts
    split_ifs with full bare least none
    · exact fun finite => by cases finite
    · exact fun finite => by cases finite
    · exact fun _ => rfl
    · exact fun _ => rfl
    · intro _
      rw [capped, if_neg (by omega)]
  · cases known : parts bits with
    | infinity s => exact unpack_infinity s
    | notANumber => exact absurd known number
    | zero s => rw [known] at finite; exact absurd rfl finite
    | finite s m e positive => rw [known] at finite; exact absurd rfl finite

/-! Powers of two and quotients -/

theorem shifted_ratio (num den : Nat) (e : Int) :
    ((num <<< (-e).toNat : Nat) : ℝ) / (den <<< e.toNat : Nat) = num / den / 2 ^ e := by
  rw [Nat.shiftLeft_eq, Nat.shiftLeft_eq]
  rcases le_total 0 e with up | down
  · obtain ⟨k, rfl⟩ := Int.eq_ofNat_of_zero_le up
    simp [div_div]
  · obtain ⟨k, rfl⟩ := Int.exists_eq_neg_ofNat down
    simp
    ring

variable {num den : Nat}

theorem topExponent_spec (some : 0 < num) (positive : 0 < den) :
    (2 : ℝ) ^ topExponent num den ≤ num / den ∧
      (num / den : ℝ) < 2 ^ (topExponent num den + 1) := by
  have numLow : (2 : ℝ) ^ (num.log2 : Int) ≤ num := by
    exact_mod_cast Nat.log2_self_le some.ne'
  have numHigh : (num : ℝ) < 2 ^ (num.log2 : Int) * 2 := by
    rw [zpow_natCast, ← pow_succ]
    exact_mod_cast Nat.lt_log2_self
  have denLow : (2 : ℝ) ^ (den.log2 : Int) ≤ den := by
    exact_mod_cast Nat.log2_self_le positive.ne'
  have denHigh : (den : ℝ) < 2 ^ (den.log2 : Int) * 2 := by
    rw [zpow_natCast, ← pow_succ]
    exact_mod_cast Nat.lt_log2_self
  have divisor : (0 : ℝ) < den := by exact_mod_cast positive
  obtain ⟨guess, guessed⟩ : ∃ guess : Int, guess = num.log2 - den.log2 := ⟨_, rfl⟩
  have power : (2 : ℝ) ^ guess * 2 ^ (den.log2 : Int) = 2 ^ (num.log2 : Int) := by
    rw [← zpow_add₀ two_ne_zero, guessed, sub_add_cancel]
  have unitPositive : (0 : ℝ) < 2 ^ guess := by positivity
  have tested : num <<< (-guess).toNat < den <<< guess.toNat ↔ (num / den : ℝ) < 2 ^ guess := by
    have shifted : (0 : ℝ) < (den <<< guess.toNat : Nat) := by
      rw [Nat.shiftLeft_eq]
      positivity
    rw [← div_lt_one unitPositive, ← shifted_ratio, div_lt_one shifted, Nat.cast_lt]
  have result : topExponent num den = if (num / den : ℝ) < 2 ^ guess then guess - 1 else guess := by
    unfold topExponent
    simp only [← guessed, tested]
  rw [result]
  split_ifs with below
  · rw [sub_add_cancel, le_div_iff₀ divisor, zpow_sub_one₀ two_ne_zero]
    refine ⟨?_, below⟩
    nlinarith
  · rw [div_lt_iff₀ divisor, zpow_add_one₀ two_ne_zero]
    refine ⟨not_lt.mp below, ?_⟩
    nlinarith

theorem roundedQuotient_near (positive : 0 < den) :
    |(roundedQuotient num den : ℝ) - num / den| ≤ 1 / 2 := by
  have divisor : (0 : ℝ) < den := by exact_mod_cast positive
  have whole : (num : ℝ) = den * (num / den : Nat) + (num % den : Nat) := by
    exact_mod_cast (Nat.div_add_mod num den).symm
  have split : (num / den : ℝ) = (num / den : Nat) + (num % den : Nat) / den := by
    rw [whole]
    field_simp
  have restLow : (0 : ℝ) ≤ (num % den : Nat) / den := by positivity
  have restHigh : ((num % den : Nat) : ℝ) / den < 1 := by
    rw [div_lt_one divisor]
    exact_mod_cast Nat.mod_lt num positive
  rw [split, abs_le]
  unfold roundedQuotient
  simp only
  split_ifs with below above
  · have half : ((num % den : Nat) : ℝ) / den < 1 / 2 := by
      rw [div_lt_iff₀ divisor]
      have : (2 * (num % den : Nat) : ℝ) < den := by exact_mod_cast below
      linarith
    constructor <;> linarith
  · have half : 1 / 2 < ((num % den : Nat) : ℝ) / den := by
      rw [lt_div_iff₀ divisor]
      have : (den : ℝ) < 2 * (num % den : Nat) := by exact_mod_cast above
      linarith
    push_cast
    constructor <;> linarith
  -- a tie goes to the even neighbour, which is as near as the other
  · have half : ((num % den : Nat) : ℝ) / den = 1 / 2 := by
      rw [div_eq_iff divisor.ne']
      have : (2 * (num % den : Nat) : ℝ) = den := by exact_mod_cast (by omega : 2 * (num % den) = den)
      linarith
    rcases Nat.mod_two_eq_zero_or_one (num / den) with even | odd
    · rw [even, half, Nat.add_zero]
      constructor <;> linarith
    · rw [odd, half]
      push_cast
      constructor <;> linarith

theorem nearestBits_spec (some : 0 < num) (positive : 0 < den) :
    ∃ e s : Nat, nearestBits num den = min (e * 2 ^ 52 + s) infinityBits ∧ s ≤ 2 ^ 53 ∧
      (2 ^ 52 ≤ s ∧ (2 : ℝ) ^ (e - 1074 : Int) * 2 ^ 52 ≤ num / den ∨ e = 0) ∧
      |s * (2 : ℝ) ^ (e - 1074 : Int) - num / den| ≤ 2 ^ (e - 1074 : Int) / 2 := by
  obtain ⟨low, high⟩ := topExponent_spec some positive
  obtain ⟨exponent, chosen⟩ :
      ∃ exponent : Int, exponent = max (topExponent num den - 52) (-1074) := ⟨_, rfl⟩
  obtain ⟨e, lifted⟩ : ∃ e : Nat, (e : Int) - 1074 = exponent := ⟨(exponent + 1074).toNat, by omega⟩
  obtain ⟨s, rounded⟩ : ∃ s : Nat, s = roundedQuotient (num <<< (-exponent).toNat)
    (den <<< exponent.toNat) := ⟨_, rfl⟩
  have bits : nearestBits num den = min (e * 2 ^ 52 + s) infinityBits := by
    have place : (exponent + 1074).toNat = e := by omega
    have split : nearestBits num den = min ((max (topExponent num den - 52) (-1074) + 1074).toNat *
        2 ^ 52 + roundedQuotient (num <<< (-max (topExponent num den - 52) (-1074)).toNat)
          (den <<< (max (topExponent num den - 52) (-1074)).toNat)) infinityBits := by
      unfold nearestBits
      rw [if_neg some.ne']
      rfl
    rw [split, ← chosen, ← rounded, place]
  have unitPositive : (0 : ℝ) < 2 ^ exponent := by positivity
  have shifted : 0 < den <<< exponent.toNat := by
    rw [Nat.shiftLeft_eq]
    positivity
  have near : |(s : ℝ) - num / den / 2 ^ exponent| ≤ 1 / 2 := by
    rw [rounded, ← shifted_ratio]
    exact roundedQuotient_near shifted
  have below : (num / den : ℝ) / 2 ^ exponent < 2 ^ 53 := by
    rw [div_lt_iff₀ unitPositive]
    calc (num / den : ℝ) < 2 ^ (topExponent num den + 1) := high
      _ ≤ 2 ^ (53 + exponent) := zpow_le_zpow_right₀ one_le_two (by omega)
      _ = 2 ^ 53 * 2 ^ exponent := by
        rw [zpow_add₀ two_ne_zero]
        norm_num
  refine ⟨e, s, bits, ?_, ?_, ?_⟩
  · have : (s : ℝ) < 2 ^ 53 + 1 := by
      have := (abs_le.mp near).2
      linarith
    exact Nat.lt_add_one_iff.mp (by exact_mod_cast this)
  · rw [lifted]
    by_cases least : e = 0
    · exact .inr least
    · left
      have top : exponent = topExponent num den - 52 := by omega
      have full : (2 : ℝ) ^ exponent * 2 ^ 52 ≤ num / den := by
        refine le_trans (le_of_eq ?_) low
        rw [top, zpow_sub₀ two_ne_zero]
        norm_num
      refine ⟨?_, full⟩
      have : (2 : ℝ) ^ 52 ≤ num / den / 2 ^ exponent := by
        rw [le_div_iff₀ unitPositive]
        linarith
      have : (2 : ℝ) ^ 52 < s + 1 := by
        have := (abs_le.mp near).1
        linarith
      exact Nat.lt_add_one_iff.mp (by exact_mod_cast this)
  · rw [lifted]
    have scaled : (s * (2 : ℝ) ^ exponent - num / den) =
        (s - num / den / 2 ^ exponent) * 2 ^ exponent := by
      field_simp
    rw [scaled, abs_mul, abs_of_pos unitPositive]
    calc |(s : ℝ) - num / den / 2 ^ exponent| * 2 ^ exponent ≤ 1 / 2 * 2 ^ exponent := by gcongr
      _ = 2 ^ exponent / 2 := by ring

/-! The nearest double -/

theorem infinite_parts : parts infinityBits = .infinity .positive := by
  unfold parts
  rw [if_pos (by decide), if_pos (by decide)]
  rfl

theorem zero_parts : parts 0 = .zero .positive := by
  unfold parts
  rw [if_neg (by decide), if_pos (by decide), dif_pos (by decide)]
  rfl

theorem joined_large (e s : Nat) (short : s ≤ 2 ^ 53) (full : 2 ^ 52 ≤ s ∨ e = 0)
    (above : infinityBits ≤ e * 2 ^ 52 + s) : (2 : ℝ) ^ 1024 ≤ s * 2 ^ (e - 1074 : Int) := by
  unfold infinityBits at above
  by_cases last : e = 2045
  · have carried : s = 2 ^ 53 := by omega
    rw [carried, last, show (2 : ℝ) ^ 1024 = 2 ^ 53 * 2 ^ 971 by rw [← pow_add], ← zpow_natCast 2 971]
    push_cast
    norm_num
  · have power : (2 : ℝ) ^ 972 ≤ 2 ^ (e - 1074 : Int) := by
      rw [← zpow_natCast]
      exact zpow_le_zpow_right₀ one_le_two (by omega)
    have whole : (2 : ℝ) ^ 52 ≤ s := by exact_mod_cast full.resolve_right (by omega)
    rw [show (2 : ℝ) ^ 1024 = 2 ^ 52 * 2 ^ 972 by rw [← pow_add]]
    gcongr

/-- What the encoding of a fraction stands for, with the bound that decides where it rounds to. -/
theorem nearestBits_parts (some : 0 < num) (positive : 0 < den) :
    ∃ e s : Nat, s ≤ 2 ^ 53 ∧
      (2 ^ 52 ≤ s ∧ (2 : ℝ) ^ (e - 1074 : Int) * 2 ^ 52 ≤ num / den ∨ e = 0) ∧
      |s * (2 : ℝ) ^ (e - 1074 : Int) - num / den| ≤ 2 ^ (e - 1074 : Int) / 2 ∧
      ((parts (nearestBits num den)).isFinite = true ∧
          partsValue (parts (nearestBits num den)) = s * 2 ^ (e - 1074 : Int) ∨
        2 ^ 1024 ≤ s * (2 : ℝ) ^ (e - 1074 : Int) ∧
          parts (nearestBits num den) = .infinity .positive) := by
  obtain ⟨e, s, bits, short, full, near⟩ := nearestBits_spec some positive
  refine ⟨e, s, short, full, near, ?_⟩
  by_cases below : e * 2 ^ 52 + s < infinityBits
  · left
    rw [bits, min_eq_left below.le]
    exact parts_joined e s short (full.imp_left And.left) below
  · right
    rw [bits, min_eq_right (not_lt.mp below)]
    exact ⟨joined_large e s short (full.imp_left And.left) (not_lt.mp below), infinite_parts⟩

theorem ulp_le_slack (e : Nat) (v : ℝ) (nonneg : 0 ≤ v)
    (least : (2 : ℝ) ^ (e - 1074 : Int) * 2 ^ 52 ≤ v ∨ e = 0) :
    (2 : ℝ) ^ (e - 1074 : Int) / 2 ≤ slack v := by
  unfold slack
  rw [abs_of_nonneg nonneg]
  have ulp : (0 : ℝ) < 2 ^ (e - 1074 : Int) := by positivity
  rcases least with small | rfl
  · have : (0 : ℝ) < 2 ^ (-1074 : Int) := by positivity
    linarith
  · have : 0 ≤ v / 2 ^ 52 := by positivity
    simp only [Nat.cast_zero, zero_sub] at ulp ⊢
    linarith

theorem nearestBits_lt (num den : Nat) : nearestBits num den < signBit := by
  have capped : ∀ n : Nat, min n infinityBits ≤ infinityBits := fun n => min_le_right _ _
  unfold nearestBits
  split
  · decide
  · exact lt_of_le_of_lt (capped _) (by decide)

theorem nearest_magnitude (positive : 0 < den) :
    (parts (nearestBits num den)).isFinite = true ∧
        |partsValue (parts (nearestBits num den)) - num / den| ≤ slack (num / den) ∨
      (2 : ℝ) ^ 1023 ≤ num / den ∧ parts (nearestBits num den) = .infinity .positive := by
  rcases Nat.eq_zero_or_pos num with rfl | some
  · left
    have none : nearestBits 0 den = 0 := rfl
    rw [none, zero_parts]
    exact ⟨rfl, exact_near (by simp [partsValue])⟩
  · obtain ⟨e, s, -, least, near, finite | large⟩ := nearestBits_parts some positive
    · left
      refine ⟨finite.1, ?_⟩
      rw [finite.2]
      exact near.trans (ulp_le_slack e _ (by positivity) (least.imp_left And.right))
    · right
      have close := near.trans (ulp_le_slack e _ (by positivity) (least.imp_left And.right))
      exact ⟨large_of_near close large.1, large.2⟩

theorem rounds_of_parts (x : Float) (v : ℝ)
    (known : (decoded x).isFinite = true ∧ |partsValue (decoded x) - v| ≤ slack v ∨
      2 ^ 1023 ≤ v ∧ decoded x = .infinity .positive ∨
      v ≤ -2 ^ 1023 ∧ decoded x = .infinity .negative) : Rounds x v := by
  rcases known with ⟨finite, near⟩ | infinite
  · rw [decoded_isFinite] at finite
    exact .inl ⟨finite, by rwa [value_eq x finite]⟩
  · exact .inr infinite

theorem parts_nearestBits (positive : 0 < den) : parts (nearestBits num den) ≠ .notANumber := by
  intro nan
  have magnitude := @nearest_magnitude num den positive
  rw [nan] at magnitude
  rcases magnitude with ⟨finite, -⟩ | ⟨-, infinite⟩
  · cases finite
  · cases infinite

theorem nearest_decoded (q : ℚ) : decoded (nearest q) =
    if q.num < 0 then (parts (nearestBits q.num.natAbs q.den)).neg
    else parts (nearestBits q.num.natAbs q.den) := by
  have short := nearestBits_lt q.num.natAbs q.den
  have span : signBit + signBit = 2 ^ 64 := rfl
  have number : parts (nearestBits q.num.natAbs q.den) ≠ .notANumber := parts_nearestBits q.den_pos
  by_cases below : q.num < 0
  · have number' : (parts (nearestBits q.num.natAbs q.den)).neg ≠ .notANumber := by
      cases same : parts (nearestBits q.num.natAbs q.den) <;> simp_all [UnpackedFloat.neg]
    simp only [nearest, if_pos below]
    rw [decoded_ofBits _ (by omega) (by rwa [parts_signed _ short]), parts_signed _ short]
  · simp only [nearest, if_neg below]
    rw [decoded_ofBits _ (by omega) number]

theorem nearest_rounds (q : ℚ) : Rounds (nearest q) q := by
  have magnitude := @nearest_magnitude q.num.natAbs q.den q.den_pos
  apply rounds_of_parts
  rw [nearest_decoded]
  by_cases below : q.num < 0
  · have turned : (q : ℝ) = -(q.num.natAbs / q.den) := by
      rw [Nat.cast_natAbs, abs_of_neg below, Rat.cast_def]
      push_cast
      ring
    rw [if_pos below, turned]
    rcases magnitude with ⟨finite, near⟩ | ⟨large, infinite⟩
    · left
      refine ⟨by rwa [neg_isFinite], ?_⟩
      rw [neg_partsValue, neg_sub_neg, abs_sub_comm, slack, abs_neg]
      exact near
    · right; right
      exact ⟨neg_le_neg large, by rw [infinite]; rfl⟩
  · have plain : (q : ℝ) = q.num.natAbs / q.den := by
      rw [Nat.cast_natAbs, abs_of_nonneg (not_lt.mp below), Rat.cast_def]
    rw [if_neg below, plain]
    exact magnitude.imp id .inl

theorem nearest_neg_isInfinite (q : ℚ) : isInfinite (nearest (-q)) = isInfinite (nearest q) := by
  have turned (p : UnpackedFloat) : (∃ s, p.neg = .infinity s) ↔ ∃ s, p = .infinity s := by
    cases p <;> simp [UnpackedFloat.neg]
  rw [Bool.eq_iff_iff, isInfinite_iff, isInfinite_iff, nearest_decoded, nearest_decoded,
    Rat.neg_num, Rat.neg_den, Int.natAbs_neg]
  split_ifs <;> simp only [turned]

/-! Integers -/

theorem nearestInt_rounds (n : Int) : Rounds (nearestInt n) n := by
  have result := nearest_rounds (n : ℚ)
  rwa [Rat.cast_intCast] at result

/-- An integer and its double lie on one side of where integers begin that are no doubles. -/
theorem nearestInt_split (n : Nat) (some : 0 < n) (finite : isFinite (nearestInt n) = true) :
    value (nearestInt n) < 2 ^ 53 ↔ n < 2 ^ 53 := by
  obtain ⟨e, s, short, least, near, result⟩ := nearestBits_parts some one_pos
  have read : decoded (nearestInt n) = parts (nearestBits n 1) := by
    have plain : ¬((n : Int) : ℚ).num < 0 := by simp
    rw [nearestInt, nearest_decoded, if_neg plain]
    rfl
  have same : value (nearestInt n) = s * 2 ^ (e - 1074 : Int) := by
    rw [← decoded_isFinite, read] at finite
    rcases result with ⟨-, same⟩ | ⟨-, infinite⟩
    · rw [value_eq _ (by rwa [← decoded_isFinite, read]), read, same]
    · rw [infinite] at finite
      cases finite
  have narrow : (s : ℝ) ≤ 2 ^ 53 := by exact_mod_cast short
  rw [same]
  rw [Nat.cast_one, div_one] at near least
  -- by the unit of the significand: a half or less, one, or two and more
  rcases lt_trichotomy (e - 1074 : Int) 0 with fine | integral | coarse
  · have half : (2 : ℝ) ^ (e - 1074 : Int) ≤ 2 ^ (-1 : Int) :=
      zpow_le_zpow_right₀ one_le_two (by omega)
    have small : (s : ℝ) * 2 ^ (e - 1074 : Int) ≤ 2 ^ 52 := by
      calc (s : ℝ) * 2 ^ (e - 1074 : Int) ≤ 2 ^ 53 * 2 ^ (-1 : Int) := by gcongr
        _ = 2 ^ 52 := by norm_num
    have close := (abs_le.mp near).1
    refine iff_of_true (by linarith) ?_
    have : (n : ℝ) < 2 ^ 53 := by norm_num at half; linarith
    exact_mod_cast this
  · rw [integral, zpow_zero, mul_one] at near ⊢
    have equal : s = n := by
      have bounds := abs_le.mp near
      have : (s : ℝ) < n + 1 := by linarith
      have : (n : ℝ) < s + 1 := by linarith
      have : s < n + 1 := by exact_mod_cast ‹(s : ℝ) < n + 1›
      have : n < s + 1 := by exact_mod_cast ‹(n : ℝ) < s + 1›
      omega
    rw [equal]
    exact_mod_cast Iff.rfl
  · have two : (2 : ℝ) ^ (1 : Int) ≤ 2 ^ (e - 1074 : Int) :=
      zpow_le_zpow_right₀ one_le_two (by omega)
    obtain ⟨full, large⟩ := least.resolve_right (by omega)
    have whole : (2 : ℝ) ^ 52 ≤ s := by exact_mod_cast full
    refine iff_of_false (not_lt.mpr ?_) (not_lt.mpr ?_)
    · calc (2 : ℝ) ^ 53 = 2 ^ 52 * (2 : ℝ) ^ (1 : Int) := by norm_num
        _ ≤ s * (2 : ℝ) ^ (e - 1074 : Int) := by gcongr
    · have : (2 : ℝ) ^ 53 ≤ n := by
        calc (2 : ℝ) ^ 53 = 2 ^ (1 : Int) * 2 ^ 52 := by norm_num
          _ ≤ 2 ^ (e - 1074 : Int) * 2 ^ 52 := by gcongr
          _ ≤ n := large
      exact_mod_cast this

end RationalCalc.Binary64
