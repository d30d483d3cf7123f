import RationalCalc.Proofs.Binary64.Rounding

/-!
The four operations on finite doubles. An operation takes its operands apart, works on significands
and exponents, and encodes what it rounds; so the error of its result is that of the rounding alone.
-/

namespace RationalCalc.Binary64

open Float.Model Float.Model.UnpackedFloat

theorem Rounds.near {x : Float} {v : ℝ} (rounds : Rounds x v) (finite : isFinite x = true) :
    |value x - v| ≤ slack v := by
  rw [← decoded_isFinite] at finite
  rcases rounds with ⟨-, near⟩ | ⟨-, infinite⟩ | ⟨-, infinite⟩
  · exact near
  · rw [infinite] at finite
    cases finite
  · rw [infinite] at finite
    cases finite

/-- Only a number beyond all doubles is near a number with so large an exponent. -/
theorem large_of_near {v w : ℝ} (near : |w - v| ≤ slack v) (large : 2 ^ 1024 ≤ w) :
    2 ^ 1023 ≤ v := by
  have tiny : (2 : ℝ) ^ (-1074 : ℤ) ≤ 1 := zpow_le_one_of_nonpos₀ one_le_two (by norm_num)
  have big : (4 : ℝ) ≤ 2 ^ 1023 :=
    le_trans (by norm_num) (pow_le_pow_right₀ one_le_two (by norm_num : 2 ≤ 1023))
  have small : |v| / 2 ^ 52 ≤ |v| / 4 := by gcongr; norm_num
  have apart := (abs_le.mp (near.trans (add_le_add small tiny))).2
  rw [show (2 : ℝ) ^ 1024 = 2 * 2 ^ 1023 by rw [← pow_succ']] at large
  generalize (2 : ℝ) ^ 1023 = bound at *
  rcases le_total 0 v with nonneg | nonpos
  · rw [abs_of_nonneg nonneg] at apart
    linarith
  · rw [abs_of_nonpos nonpos] at apart
    linarith

theorem packed_rounds (x : Float) (parts : UnpackedFloat) (v : ℝ)
    (packed : x.toModel = Float.Model.pack parts) (canonical : Canonical parts)
    (near : |partsValue parts - v| ≤ slack v) : Rounds x v := by
  have read : decoded x = capped parts := by rw [← unpack_eq, packed, unpack_pack parts canonical]
  cases parts with
  | infinity => cases canonical
  | notANumber => cases canonical
  | zero s =>
      have known : isFinite x = true := by rw [← decoded_isFinite, read]; rfl
      exact .inl ⟨known, by rw [value_eq x known, read]; exact near⟩
  | finite s m e positive =>
      by_cases large : 972 ≤ e
      -- encoded as an infinity: the parts stood for a large number, so the exact one is large
      · rw [capped, if_pos large] at read
        have whole : (2 : ℝ) ^ 52 ≤ m := by
          have := canonical.2.2.resolve_right (by omega)
          exact_mod_cast this
        have power : (2 : ℝ) ^ 972 ≤ 2 ^ e := by
          rw [← zpow_natCast]
          exact zpow_le_zpow_right₀ one_le_two (by exact_mod_cast large)
        have size : (2 : ℝ) ^ 1024 ≤ m * (2 : ℝ) ^ e := by
          rw [show (2 : ℝ) ^ 1024 = 2 ^ 52 * 2 ^ 972 by rw [← pow_add]]
          gcongr
        have turned : |(m : ℝ) * 2 ^ e - unit s * v| ≤ slack (unit s * v) := by
          calc |(m : ℝ) * 2 ^ e - unit s * v|
              = |unit s * ((m : ℝ) * 2 ^ e - unit s * v)| := (abs_unit_mul _ _).symm
            _ = |partsValue (.finite s m e positive) - v| := by
              rw [mul_sub, ← mul_assoc (unit s) (unit s), unit_mul_self, one_mul, partsValue]
            _ ≤ slack (unit s * v) := by rwa [slack, abs_unit_mul]
        have far := large_of_near turned size
        cases s
        · exact .inr (.inr ⟨le_neg_of_le_neg (by rwa [unit, neg_one_mul] at far), read⟩)
        · exact .inr (.inl ⟨by rwa [unit, one_mul] at far, read⟩)
      · rw [capped, if_neg large] at read
        have known : isFinite x = true := by rw [← decoded_isFinite, read]; rfl
        exact .inl ⟨known, by rw [value_eq x known, read]; exact near⟩

/-! Addition and subtraction -/

theorem decreased (m : Nat) (e target : Int) (above : target ≤ e) :
    (((decreaseExponent m e target).1 : Nat) : ℝ) * 2 ^ target = m * 2 ^ e := by
  obtain ⟨k, rfl⟩ := Int.le.dest above
  have shift : (target + k - target).toNat = k := by omega
  simp only [decreaseExponent, shift, Nat.shiftLeft_eq]
  push_cast
  rw [zpow_add₀ two_ne_zero, zpow_natCast]
  ring

theorem round_near (s : Sign) (m : Nat) (e : Int) (some : m ≠ 0) :
    Canonical (UnpackedFloat.round .binary64 s m e) ∧
      |partsValue (UnpackedFloat.round .binary64 s m e) - unit s * (m * 2 ^ e)| ≤
        slack (m * 2 ^ e) := by
  obtain ⟨k, shift⟩ : ∃ k : Nat, k = (e - max (m.log2 + 1 + e - 53) (-1074)).toNat := ⟨_, rfl⟩
  have result : UnpackedFloat.round .binary64 s m e =
      roundWithAccuracy .binary64 s (m * 2 ^ k) (e - k) .exact := by
    rw [shift, ← Nat.shiftLeft_eq]
    rfl
  have full : 2 ^ 52 ≤ m * 2 ^ k ∨ e - k ≤ -1074 := by
    by_cases least : (m.log2 + 1 + e - 53 : Int) ≤ -1074
    · exact .inr (by omega)
    · left
      calc 2 ^ 52 ≤ 2 ^ (m.log2 + k) := Nat.pow_le_pow_right two_pos (by omega)
        _ = 2 ^ m.log2 * 2 ^ k := pow_add _ _ _
        _ ≤ m * 2 ^ k := Nat.mul_le_mul_right _ (Nat.log2_self_le some)
  have same : ((m * 2 ^ k : Nat) : ℝ) * 2 ^ (e - k) = m * 2 ^ e := by
    push_cast
    rw [zpow_sub₀ two_ne_zero, zpow_natCast]
    field_simp
  rw [result, ← same]
  exact roundWithAccuracy_near s _ _ _ full _ le_rfl (by linarith)

theorem normalize_near (n : Int) (e : Int) :
    Canonical (UnpackedFloat.normalize .binary64 n e .positive) ∧
      |partsValue (UnpackedFloat.normalize .binary64 n e .positive) - n * 2 ^ e| ≤
        slack (n * 2 ^ e) := by
  unfold UnpackedFloat.normalize
  rcases lt_trichotomy n 0 with below | rfl | above
  · have size : (((-n).toNat : Nat) : ℝ) = -n := by
      rw [← Int.cast_natCast, Int.toNat_of_nonneg (by omega), Int.cast_neg]
    have result := round_near .negative (-n).toNat e (by omega)
    rw [size] at result
    rw [compare_lt_iff_lt.mpr below]
    simpa [unit, slack] using result
  · simp [Canonical, partsValue, slack]
  · have size : ((n.toNat : Nat) : ℝ) = n := by
      rw [← Int.cast_natCast, Int.toNat_of_nonneg (by omega)]
    have result := round_near .positive n.toNat e (by omega)
    rw [size] at result
    rw [compare_gt_iff_gt.mpr above]
    simpa [unit] using result

theorem slack_pos (v : ℝ) : 0 < slack v := by
  unfold slack
  positivity

theorem le_slack (v : ℝ) : |v| / 2 ^ 52 ≤ slack v :=
  le_add_of_nonneg_right (by positivity)

theorem exact_near {w v : ℝ} (same : w = v) : |w - v| ≤ slack v := by
  rw [same, sub_self, abs_zero]
  exact (slack_pos v).le

theorem unit_neg (s : Sign) : unit (-s) = -unit s := by
  cases s
  · exact (neg_neg 1).symm
  · rfl

theorem unit_mul (s t : Sign) : unit (s * t) = unit s * unit t := by
  cases s <;> cases t
  · show (1 : ℝ) = -1 * -1
    norm_num
  · exact (mul_one _).symm
  · exact (one_mul _).symm
  · exact (one_mul _).symm

theorem unit_div (s t : Sign) : unit (s / t) = unit s / unit t := by
  cases s <;> cases t
  · show (1 : ℝ) = -1 / -1
    norm_num
  · exact (div_one _).symm
  · show (-1 : ℝ) = 1 / -1
    norm_num
  · exact (div_one _).symm

theorem apply_unit (s : Sign) (m : Nat) : ((s.apply m : Int) : ℝ) = unit s * m := by
  cases s <;> simp [Sign.apply, unit]

theorem add_near (p q : UnpackedFloat) (first : Canonical p) (second : Canonical q) :
    Canonical (UnpackedFloat.add .binary64 p q) ∧
      |partsValue (UnpackedFloat.add .binary64 p q) - (partsValue p + partsValue q)| ≤
        slack (partsValue p + partsValue q) := by
  cases p with
  | infinity => cases first
  | notANumber => cases first
  | zero s =>
      cases q with
      | infinity => cases second
      | notANumber => cases second
      | zero t => cases s <;> cases t <;> exact ⟨trivial, exact_near (add_zero 0).symm⟩
      | finite t n f positive => exact ⟨second, exact_near (zero_add _).symm⟩
  | finite s m e positive =>
      cases q with
      | infinity => cases second
      | notANumber => cases second
      | zero t => exact ⟨first, exact_near (add_zero _).symm⟩
      | finite t n f positive' =>
          -- both significands are brought to the lower exponent without a loss, and added there
          have same : partsValue (.finite s m e positive) + partsValue (.finite t n f positive') =
              ((s.apply (decreaseExponent m e (min e f)).1 +
                t.apply (decreaseExponent n f (min e f)).1 : Int) : ℝ) * 2 ^ min e f := by
            rw [Int.cast_add, apply_unit, apply_unit, add_mul, mul_assoc, mul_assoc,
              decreased m e _ (min_le_left e f), decreased n f _ (min_le_right e f)]
            rfl
          rw [same]
          exact normalize_near _ _

theorem sub_eq_add_neg_parts (p q : UnpackedFloat) :
    UnpackedFloat.sub .binary64 p q = UnpackedFloat.add .binary64 p q.neg := by
  have turned (t : Sign) (n : Int) : (-t).apply n = -t.apply n := by
    cases t
    · exact (neg_neg n).symm
    · rfl
  cases p <;> cases q <;>
    simp only [UnpackedFloat.sub, UnpackedFloat.add, UnpackedFloat.neg, turned, sub_eq_add_neg]

theorem neg_canonical (p : UnpackedFloat) (canonical : Canonical p) : Canonical p.neg := by
  cases p <;> exact canonical

theorem neg_isFinite (p : UnpackedFloat) : p.neg.isFinite = p.isFinite := by
  cases p <;> rfl

theorem neg_partsValue (p : UnpackedFloat) : partsValue p.neg = -partsValue p := by
  cases p with
  | finite s m e positive =>
      simp [UnpackedFloat.neg, partsValue, unit_neg]
  | _ => simp [UnpackedFloat.neg, partsValue]

variable {a b : Float}

theorem add_rounds (first : isFinite a = true) (second : isFinite b = true) :
    Rounds (a + b) (value a + value b) := by
  have result := add_near _ _ (decoded_canonical a first) (decoded_canonical b second)
  rw [value_eq a first, value_eq b second]
  refine packed_rounds _ _ _ ?_ result.1 result.2
  rw [← unpack_eq, ← unpack_eq]
  rfl

theorem sub_rounds (first : isFinite a = true) (second : isFinite b = true) :
    Rounds (a - b) (value a - value b) := by
  have result := add_near _ _ (decoded_canonical a first)
    (neg_canonical _ (decoded_canonical b second))
  rw [value_eq a first, value_eq b second, sub_eq_add_neg, ← neg_partsValue]
  refine packed_rounds _ _ _ ?_ result.1 result.2
  rw [← sub_eq_add_neg_parts, ← unpack_eq, ← unpack_eq]
  rfl

/-- The sign is dropped without a loss, but the slack is allowed here, too. -/
theorem abs_rounds (finite : isFinite a = true) : Rounds a.abs |value a| := by
  have canonical := decoded_canonical a finite
  rw [value_eq a finite]
  have packed : a.abs.toModel = Float.Model.pack (decoded a).abs := by
    rw [← unpack_eq]
    rfl
  cases same : decoded a with
  | infinity => rw [same] at canonical; cases canonical
  | notANumber => rw [same] at canonical; cases canonical
  | zero s =>
      rw [same] at packed
      exact packed_rounds _ _ _ packed trivial (exact_near abs_zero.symm)
  | finite s m e positive =>
      rw [same] at packed canonical
      refine packed_rounds _ _ _ packed canonical (exact_near ?_)
      calc partsValue (UnpackedFloat.abs (.finite s m e positive)) = 1 * (m * 2 ^ e) := rfl
        _ = m * 2 ^ e := one_mul _
        _ = |partsValue (.finite s m e positive)| := by
          rw [partsValue, abs_unit_mul, abs_of_nonneg (by positivity)]

/-! Multiplication and division -/

theorem mul_near (p q : UnpackedFloat) (first : Canonical p) (second : Canonical q) :
    Canonical (UnpackedFloat.mul .binary64 p q) ∧
      |partsValue (UnpackedFloat.mul .binary64 p q) - partsValue p * partsValue q| ≤
        slack (partsValue p * partsValue q) := by
  cases p with
  | infinity => cases first
  | notANumber => cases first
  | zero s =>
      cases q with
      | infinity => cases second
      | notANumber => cases second
      | zero t => exact ⟨trivial, exact_near (zero_mul _).symm⟩
      | finite t n f positive => exact ⟨trivial, exact_near (zero_mul _).symm⟩
  | finite s m e positive =>
      cases q with
      | infinity => cases second
      | notANumber => cases second
      | zero t => exact ⟨trivial, exact_near (mul_zero _).symm⟩
      | finite t n f positive' =>
          -- one full significand is enough for a full product
          have full : 2 ^ 52 ≤ m * n ∨ e + f ≤ -1074 := by
            rcases first.2.2 with whole | least
            · exact .inl (whole.trans (Nat.le_mul_of_pos_right m positive'))
            · rcases second.2.2 with whole' | least'
              · exact .inl (whole'.trans (Nat.le_mul_of_pos_left n positive))
              · exact .inr (by omega)
          have same : partsValue (.finite s m e positive) * partsValue (.finite t n f positive') =
              unit (s * t) * ((m * n : Nat) * 2 ^ (e + f)) := by
            rw [unit_mul, zpow_add₀ two_ne_zero, Nat.cast_mul]
            simp only [partsValue]
            ring
          have result := roundWithAccuracy_near (s * t) (m * n) (e + f) .exact full _ le_rfl
            (by linarith)
          rw [same]
          refine ⟨result.1, result.2.trans_eq ?_⟩
          rw [slack, slack, abs_unit_mul]

theorem mul_rounds (first : isFinite a = true) (second : isFinite b = true) :
    Rounds (a * b) (value a * value b) := by
  have result := mul_near _ _ (decoded_canonical a first) (decoded_canonical b second)
  rw [value_eq a first, value_eq b second]
  refine packed_rounds _ _ _ ?_ result.1 result.2
  rw [← unpack_eq, ← unpack_eq]
  rfl

theorem quotient_near (s : Sign) (m : Nat) (e : Int) (n : Nat) (f : Int) (some : 0 < m)
    (positive : 0 < n) (parts : UnpackedFloat)
    (quotient : parts = roundWithAccuracy .binary64 s (divCore .binary64 m e n f).1
      (divCore .binary64 m e n f).2.1 (divCore .binary64 m e n f).2.2) :
    Canonical parts ∧ |partsValue parts - unit s * (m * 2 ^ e / (n * 2 ^ f))| ≤
      slack (m * 2 ^ e / (n * 2 ^ f)) := by
  obtain ⟨target, aim⟩ : ∃ target : Int, target = min (e - f)
      (max (m.log2 + 1 + e - (n.log2 + 1 + f) - 53) (-1074)) := ⟨_, rfl⟩
  obtain ⟨k, shift⟩ : ∃ k : Nat, k = (e - f - target).toNat := ⟨_, rfl⟩
  have core : divCore .binary64 m e n f =
      (m * 2 ^ k / n, target, accuracyOfFraction (m * 2 ^ k % n) n) := by
    rw [← Nat.shiftLeft_eq, shift, aim]
    rfl
  have full : 2 ^ 52 ≤ m * 2 ^ k / n ∨ target ≤ -1074 := by
    by_cases least : target ≤ -1074
    · exact .inr least
    · left
      rw [Nat.le_div_iff_mul_le positive]
      calc 2 ^ 52 * n ≤ 2 ^ 52 * 2 ^ (n.log2 + 1) := Nat.mul_le_mul_left _ Nat.lt_log2_self.le
        _ = 2 ^ (52 + (n.log2 + 1)) := (pow_add _ _ _).symm
        _ ≤ 2 ^ (m.log2 + k) := Nat.pow_le_pow_right two_pos (by omega)
        _ = 2 ^ m.log2 * 2 ^ k := pow_add _ _ _
        _ ≤ m * 2 ^ k := Nat.mul_le_mul_right _ (Nat.log2_self_le some.ne')
  have divisor : (0 : ℝ) < n := by exact_mod_cast positive
  have same : (m * 2 ^ k : ℝ) / n * 2 ^ target = m * 2 ^ e / (n * 2 ^ f) := by
    have exponents : (2 : ℝ) ^ e = 2 ^ target * 2 ^ k * 2 ^ f := by
      rw [← zpow_natCast, ← zpow_add₀ two_ne_zero, ← zpow_add₀ two_ne_zero]
      congr 1
      omega
    rw [exponents]
    field_simp
  have low : ((m * 2 ^ k / n : Nat) : ℝ) ≤ (m * 2 ^ k : ℝ) / n := by
    exact_mod_cast Nat.cast_div_le (α := ℝ) (m := m * 2 ^ k) (n := n)
  have high : (m * 2 ^ k : ℝ) / n ≤ (m * 2 ^ k / n : Nat) + 1 := by
    rw [div_le_iff₀ divisor]
    have := Nat.lt_div_mul_add (a := m * 2 ^ k) positive
    have : m * 2 ^ k ≤ (m * 2 ^ k / n + 1) * n := by rw [add_mul, one_mul]; omega
    exact_mod_cast this
  rw [quotient, core, ← same]
  exact roundWithAccuracy_near s _ _ _ full _ low high

theorem div_near (p q : UnpackedFloat) (first : Canonical p) (second : Canonical q)
    (divisor : partsValue q ≠ 0) :
    Canonical (UnpackedFloat.div .binary64 p q) ∧
      |partsValue (UnpackedFloat.div .binary64 p q) - partsValue p / partsValue q| ≤
        slack (partsValue p / partsValue q) := by
  cases q with
  | infinity => cases second
  | notANumber => cases second
  | zero => exact absurd rfl divisor
  | finite t n f positive' =>
      cases p with
      | infinity => cases first
      | notANumber => cases first
      | zero => exact ⟨trivial, exact_near (zero_div _).symm⟩
      | finite s m e positive =>
          have same : partsValue (.finite s m e positive) / partsValue (.finite t n f positive') =
              unit (s / t) * (m * 2 ^ e / (n * 2 ^ f)) := by
            rw [unit_div]
            simp only [partsValue]
            exact mul_div_mul_comm _ _ _ _
          have result := quotient_near (s / t) m e n f positive positive' _ rfl
          rw [same]
          refine ⟨result.1, result.2.trans_eq ?_⟩
          rw [slack, slack, abs_unit_mul]

theorem div_rounds (first : isFinite a = true) (second : isFinite b = true)
    (divisor : value b ≠ 0) : Rounds (a / b) (value a / value b) := by
  rw [value_eq b second] at divisor
  have result := div_near _ _ (decoded_canonical a first) (decoded_canonical b second) divisor
  rw [value_eq a first, value_eq b second]
  refine packed_rounds _ _ _ ?_ result.1 result.2
  rw [← unpack_eq, ← unpack_eq]
  rfl

end RationalCalc.Binary64
