import RationalCalc.Proofs.Binary64.Operations

/-!
The order of doubles. Of two canonical numbers of one sign the one with the larger exponent is the
farther from zero, and exponents being equal the one with the larger significand; so comparing parts
compares the numbers, with the infinities outermost.
-/

namespace RationalCalc.Binary64

open Float.Model Float.Model.UnpackedFloat

/-- Where the parts lie among the extended reals. -/
noncomputable def partsLevel : UnpackedFloat → EReal
  | .infinity .positive => ⊤
  | .infinity .negative => ⊥
  | p => (partsValue p : ℝ)

noncomputable def level (x : Float) : EReal :=
  partsLevel (decoded x)

theorem level_finite (x : Float) (finite : isFinite x = true) : level x = (value x : ℝ) := by
  rw [value_eq x finite, level]
  have known := decoded_isFinite x
  rw [finite] at known
  cases same : decoded x with
  | infinity s => rw [same] at known; cases known
  | notANumber => rw [same] at known; cases known
  | zero s => rfl
  | finite s m e positive => rfl

theorem lt_of_exponent (m n : Nat) (e f : Int) (short : m < 2 ^ 53) (least : -1074 ≤ e)
    (full : 2 ^ 52 ≤ n ∨ f = -1074) (below : e < f) : (m * 2 ^ e : ℝ) < n * 2 ^ f := by
  have whole : (2 : ℝ) ^ 52 ≤ n := by exact_mod_cast full.resolve_right (by omega)
  have narrow : (m : ℝ) < 2 ^ 53 := by exact_mod_cast short
  calc (m * 2 ^ e : ℝ) < 2 ^ 53 * 2 ^ e := by gcongr
    _ = 2 ^ 52 * 2 ^ (e + 1) := by rw [zpow_add_one₀ two_ne_zero]; ring
    _ ≤ n * 2 ^ f := by gcongr; exacts [one_le_two, below]

theorem compare_magnitudes (m n : Nat) (e f : Int)
    (first : m < 2 ^ 53 ∧ -1074 ≤ e ∧ (2 ^ 52 ≤ m ∨ e = -1074))
    (second : n < 2 ^ 53 ∧ -1074 ≤ f ∧ (2 ^ 52 ≤ n ∨ f = -1074)) :
    ((compare e f).then (compare m n)).Compares (m * 2 ^ e : ℝ) (n * 2 ^ f) := by
  have power : (0 : ℝ) < 2 ^ e := by positivity
  rcases lt_trichotomy e f with below | rfl | above
  · rw [compare_lt_iff_lt.mpr below]
    exact lt_of_exponent m n e f first.1 first.2.1 second.2.2 below
  · rw [compare_eq_iff_eq.mpr rfl]
    rcases lt_trichotomy m n with less | rfl | more
    · rw [compare_lt_iff_lt.mpr less]
      exact mul_lt_mul_of_pos_right (by exact_mod_cast less) power
    · rw [compare_eq_iff_eq.mpr rfl]
      exact rfl
    · rw [compare_gt_iff_gt.mpr more]
      exact mul_lt_mul_of_pos_right (by exact_mod_cast more) power
  · rw [compare_gt_iff_gt.mpr above]
    exact lt_of_exponent n m f e second.1 second.2.1 first.2.2 above

theorem compares_coe {o : Ordering} {v w : ℝ} (compares : o.Compares v w) :
    o.Compares (v : EReal) (w : EReal) := by
  cases o with
  | lt => exact EReal.coe_lt_coe compares
  | eq => exact congrArg _ compares
  | gt => exact EReal.coe_lt_coe compares

theorem compares_neg {o : Ordering} {v w : ℝ} (compares : o.Compares v w) :
    o.swap.Compares (-v) (-w) := by
  cases o with
  | lt => exact neg_lt_neg compares
  | eq => exact congrArg _ compares
  | gt => exact neg_lt_neg compares

theorem magnitude_pos (m : Nat) (e : Int) (positive : 0 < m) : (0 : ℝ) < m * 2 ^ e := by
  positivity

theorem compare_parts (p q : UnpackedFloat) (first : p.isFinite = true → Canonical p)
    (second : q.isFinite = true → Canonical q) (number : p ≠ .notANumber)
    (number' : q ≠ .notANumber) :
    ∃ o : Ordering, UnpackedFloat.compare p q = some o ∧
      o.Compares (partsLevel p) (partsLevel q) := by
  cases p with
  | notANumber => exact absurd rfl number
  | infinity s =>
      cases q with
      | notANumber => exact absurd rfl number'
      | infinity t =>
          cases s <;> cases t
          · exact ⟨.eq, rfl, rfl⟩
          · exact ⟨.lt, rfl, bot_lt_top⟩
          · exact ⟨.gt, rfl, bot_lt_top⟩
          · exact ⟨.eq, rfl, rfl⟩
      | _ =>
          cases s
          · exact ⟨.lt, rfl, EReal.bot_lt_coe _⟩
          · exact ⟨.gt, rfl, EReal.coe_lt_top _⟩
  | zero s =>
      cases q with
      | notANumber => exact absurd rfl number'
      | infinity t =>
          cases t
          · exact ⟨.gt, rfl, EReal.bot_lt_coe _⟩
          · exact ⟨.lt, rfl, EReal.coe_lt_top _⟩
      | zero t => exact ⟨.eq, rfl, rfl⟩
      | finite t n f positive =>
          have above := magnitude_pos n f positive
          cases t
          · refine ⟨.gt, rfl, compares_coe (o := .gt) ?_⟩
            simp only [Ordering.Compares, partsValue, unit]
            linarith
          · refine ⟨.lt, rfl, compares_coe (o := .lt) ?_⟩
            simp only [Ordering.Compares, partsValue, unit]
            linarith
  | finite s m e positive =>
      have above := magnitude_pos m e positive
      cases q with
      | notANumber => exact absurd rfl number'
      | infinity t =>
          cases t
          · exact ⟨.gt, by cases s <;> rfl, EReal.bot_lt_coe _⟩
          · exact ⟨.lt, by cases s <;> rfl, EReal.coe_lt_top _⟩
      | zero t =>
          cases s
          · refine ⟨.lt, rfl, compares_coe (o := .lt) ?_⟩
            simp only [Ordering.Compares, partsValue, unit]
            linarith
          · refine ⟨.gt, rfl, compares_coe (o := .gt) ?_⟩
            simp only [Ordering.Compares, partsValue, unit]
            linarith
      | finite t n f positive' =>
          have above' := magnitude_pos n f positive'
          have magnitudes := compare_magnitudes m n e f (first rfl) (second rfl)
          -- of equal signs the magnitudes decide, the other way around below zero
          cases s <;> cases t
          · refine ⟨_, rfl, compares_coe ?_⟩
            simpa only [partsValue, unit, neg_one_mul] using compares_neg magnitudes
          · refine ⟨.lt, rfl, compares_coe (o := .lt) ?_⟩
            simp only [Ordering.Compares, partsValue, unit]
            linarith
          · refine ⟨.gt, rfl, compares_coe (o := .gt) ?_⟩
            simp only [Ordering.Compares, partsValue, unit]
            linarith
          · refine ⟨_, rfl, compares_coe ?_⟩
            simpa only [partsValue, unit, one_mul] using magnitudes

theorem isNaN_iff (x : Float) : x.isNaN = true ↔ decoded x = .notANumber := by
  have same : x.isNaN = (decoded x).isNaN := by rw [← unpack_eq]; rfl
  rw [same]
  cases decoded x <;> simp [UnpackedFloat.isNaN]

theorem isNaN_of_isFinite {x : Float} (finite : isFinite x = true) : x.isNaN = false := by
  rw [← decoded_isFinite] at finite
  by_contra nan
  rw [(isNaN_iff x).mp (by simpa using nan)] at finite
  cases finite

variable {a b : Float}

theorem lt_iff_compare : a < b ↔ UnpackedFloat.compare (decoded a) (decoded b) = some .lt := by
  show decide (a.toModel < b.toModel) = true ↔ _
  rw [decide_eq_true_iff, ← unpack_eq, ← unpack_eq]
  show (a.toModel.unpack.compare b.toModel.unpack == some .lt) = true ↔ _
  exact beq_iff_eq

theorem beq_iff_compare :
    (a == b) = true ↔ UnpackedFloat.compare (decoded a) (decoded b) = some .eq := by
  rw [← unpack_eq, ← unpack_eq]
  show (a.toModel.unpack.compare b.toModel.unpack == some .eq) = true ↔ _
  exact beq_iff_eq

theorem compare_level (first : a.isNaN = false) (second : b.isNaN = false) :
    ∃ o : Ordering, UnpackedFloat.compare (decoded a) (decoded b) = some o ∧
      o.Compares (level a) (level b) := by
  have number (x : Float) (known : x.isNaN = false) : decoded x ≠ .notANumber := fun same => by
    rw [(isNaN_iff x).mpr same] at known
    cases known
  exact compare_parts _ _ (parts_canonical _) (parts_canonical _) (number a first) (number b second)

theorem lt_iff_level (first : a.isNaN = false) (second : b.isNaN = false) :
    a < b ↔ level a < level b := by
  obtain ⟨o, same, compares⟩ := compare_level first second
  rw [lt_iff_compare, same]
  cases o with
  | lt => exact iff_of_true rfl compares
  | eq => exact iff_of_false (by decide) compares.not_lt
  | gt => exact iff_of_false (by decide) compares.not_gt

theorem not_nan_of_lt (below : a < b) : a.isNaN = false ∧ b.isNaN = false := by
  rw [lt_iff_compare] at below
  constructor <;> by_contra nan
  · rw [(isNaN_iff a).mp (by simpa using nan)] at below
    cases below
  · rw [(isNaN_iff b).mp (by simpa using nan)] at below
    cases same : decoded a <;> rw [same] at below <;> cases below

theorem lt_iff (first : isFinite a = true) (second : isFinite b = true) :
    a < b ↔ value a < value b := by
  rw [lt_iff_level (isNaN_of_isFinite first) (isNaN_of_isFinite second), level_finite a first,
    level_finite b second, EReal.coe_lt_coe_iff]

theorem beq_iff (first : isFinite a = true) (second : isFinite b = true) :
    (a == b) = true ↔ value a = value b := by
  obtain ⟨o, same, compares⟩ :=
    compare_level (isNaN_of_isFinite first) (isNaN_of_isFinite second)
  rw [level_finite a first, level_finite b second] at compares
  rw [beq_iff_compare, same]
  cases o with
  | lt => exact iff_of_false (by decide) (EReal.coe_lt_coe_iff.mp compares).ne
  | eq => exact iff_of_true rfl (EReal.coe_injective compares)
  | gt => exact iff_of_false (by decide) (EReal.coe_lt_coe_iff.mp compares).ne'

end RationalCalc.Binary64
