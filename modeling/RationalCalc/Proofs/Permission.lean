import RationalCalc.Proofs.Binary64.Order
import RationalCalc.Proofs.Execution
import RationalCalc.Proofs.Transparency

/-!
Guards only refuse. A text is evaluated twice, under limits of which the second are at least as
permissive as the first. Either the first evaluation ends in a refusal for size, or both end alike:
a guard comes before what it protects, and whatever else the guarded function looks at, its operands
and the number of its factors, does not depend on limits. So the values that two runs have computed
are the same up to the first refusal, and this passes from each operation to the whole run.
-/

namespace RationalCalc

/-- What the looser limits refuse, the stricter ones refuse too, whichever the estimate. -/
structure Limits.Stricter (strict loose : Limits) : Prop where
  power : ∀ estimate, Estimate.exceeds estimate loose.powerDigits = true →
    Estimate.exceeds estimate strict.powerDigits = true
  counting : ∀ estimate, Estimate.exceeds estimate loose.countingDigits = true →
    Estimate.exceeds estimate strict.countingDigits = true

theorem Estimate.exceeds_of_le {low high : Float} (number : low.isNaN = false)
    (ordered : Binary64.level low ≤ Binary64.level high) (estimate : Float)
    (exceeding : exceeds estimate high = true) : exceeds estimate low = true := by
  rw [exceeds, Bool.or_eq_true, decide_eq_true_iff] at exceeding ⊢
  rcases exceeding with nan | above
  · exact .inl nan
  · obtain ⟨known, known'⟩ := Binary64.not_nan_of_lt above
    rw [Binary64.lt_iff_level known known'] at above
    exact .inr ((Binary64.lt_iff_level number known').mpr (ordered.trans_lt above))

theorem Limits.stricter_of_le {strict loose : Limits} (power : strict.powerDigits.isNaN = false)
    (counting : strict.countingDigits.isNaN = false)
    (powers : Binary64.level strict.powerDigits ≤ Binary64.level loose.powerDigits)
    (counts : Binary64.level strict.countingDigits ≤ Binary64.level loose.countingDigits) :
    strict.Stricter loose :=
  ⟨Estimate.exceeds_of_le power powers, Estimate.exceeds_of_le counting counts⟩

/-- Two outcomes of one computation: a refusal for size, or else the same one twice. -/
def RefusesOrAgrees (strict loose : Except Fault α) : Prop :=
  strict = .error .tooBig ∨ strict = loose

section Outcomes

theorem agrees_self (outcome : Except Fault α) : RefusesOrAgrees outcome outcome :=
  .inr rfl

theorem agrees_bind {one two : Except Fault α} {next next' : α → Except Fault β}
    (first : RefusesOrAgrees one two) (later : ∀ value, RefusesOrAgrees (next value) (next' value)) :
    RefusesOrAgrees (one >>= next) (two >>= next') := by
  rcases first with rfl | rfl
  · exact .inl rfl
  · cases one with
    | error fault => exact agrees_self _
    | ok value => exact later value

theorem agrees_map {one two : Except Fault α} (change : α → β) (first : RefusesOrAgrees one two) :
    RefusesOrAgrees (one.map change) (two.map change) := by
  rcases first with rfl | rfl
  · exact .inl rfl
  · exact agrees_self _

variable {condition : Prop} [Decidable condition]

theorem agrees_ite {one two one' two' : Except Fault α} (met : RefusesOrAgrees one one')
    (unmet : RefusesOrAgrees two two') :
    RefusesOrAgrees (if condition then one else two) (if condition then one' else two') := by
  split
  · exact met
  · exact unmet

theorem agrees_throw (fault : Fault) {next next' : PUnit → Except Fault α}
    {one two : Except Fault α} (later : RefusesOrAgrees one two) :
    RefusesOrAgrees (if condition then throw fault >>= next else one)
      (if condition then throw fault >>= next' else two) :=
  agrees_ite (agrees_self (.error fault)) later

theorem agrees_guard {tight lax : Bool} (looser : lax = true → tight = true)
    {one two : Except Fault α} (later : RefusesOrAgrees one two) :
    RefusesOrAgrees (if tight then .error .tooBig else one)
      (if lax then .error .tooBig else two) := by
  cases tight with
  | true => exact .inl rfl
  | false =>
      cases lax with
      | true => cases looser rfl
      | false => exact later

end Outcomes

variable {strict loose : Limits}

namespace Arithmetic

variable {machine : Float → Float}

theorem exactPower_agrees (stricter : strict.Stricter loose) (base : Rat) (exponent : Int) :
    RefusesOrAgrees (exactPower base exponent strict machine)
      (exactPower base exponent loose machine) := by
  apply agrees_ite (agrees_self (zeroPower exponent))
  apply agrees_ite (agrees_self (.ok (unitPower base exponent)))
  exact agrees_guard (stricter.power _) (agrees_self _)

theorem power_agrees (stricter : strict.Stricter loose) (base exponent : Rat) :
    RefusesOrAgrees (power base exponent strict machine) (power base exponent loose machine) :=
  agrees_ite (agrees_self (floatPower _ _)) (exactPower_agrees stricter base exponent.num)

theorem admitted_agrees (stricter : strict.Stricter loose) (estimate : Float) (factors : Int) :
    RefusesOrAgrees (admitted estimate factors strict) (admitted estimate factors loose) :=
  agrees_guard (stricter.counting estimate) (agrees_self _)

theorem factorial_agrees (stricter : strict.Stricter loose) (value : Rat) :
    RefusesOrAgrees (factorial value strict) (factorial value loose) := by
  apply agrees_throw .fractionalFactorial
  apply agrees_throw .negativeFactorial
  apply agrees_bind (agrees_self (measured value.num))
  intro n
  apply agrees_bind (admitted_agrees stricter _ value.num)
  intro factors
  exact agrees_self _

theorem arrangements_agrees (stricter : strict.Stricter loose) (n r : Rat) :
    RefusesOrAgrees (arrangements n r strict machine) (arrangements n r loose machine) := by
  apply agrees_throw .fractionalArrangement
  apply agrees_throw .arrangementRange
  apply agrees_bind (agrees_self (measured n.num))
  intro nFloat
  apply agrees_bind (agrees_self (measured r.num))
  intro rFloat
  apply agrees_bind (admitted_agrees stricter _ r.num)
  intro factors
  exact agrees_self _

theorem combinations_agrees (stricter : strict.Stricter loose) (n r : Rat) :
    RefusesOrAgrees (combinations n r strict machine) (combinations n r loose machine) := by
  apply agrees_throw .fractionalCombination
  apply agrees_throw .combinationRange
  apply agrees_bind (agrees_self (measured n.num))
  intro nFloat
  apply agrees_bind (agrees_self (measured r.num))
  intro rFloat
  apply agrees_bind (agrees_self (measured (n.num - r.num)))
  intro complementFloat
  apply agrees_bind (admitted_agrees stricter _ _)
  intro factors
  exact agrees_self _

end Arithmetic

namespace Rpn

theorem apply_agrees (stricter : strict.Stricter loose) (op : Operator) (a b : Rat) :
    RefusesOrAgrees (apply op a b strict) (apply op a b loose) := by
  cases op with
  | power mark => exact Arithmetic.power_agrees stricter a b
  | arrange letter => exact Arithmetic.arrangements_agrees stricter a b
  | choose letter => exact Arithmetic.combinations_agrees stricter a b
  | _ => exact agrees_self _

theorem pushed_agrees (stack : List Rat) {one two : Except Fault Rat}
    (agree : RefusesOrAgrees one two) :
    RefusesOrAgrees (faulting (pushed stack one)) (faulting (pushed stack two)) := by
  rw [faulting_pushed, faulting_pushed]
  exact agrees_map _ agree

theorem execute_agrees (stricter : strict.Stricter loose) (stack : List Rat) (token : Token) :
    RefusesOrAgrees (faulting (execute strict stack token))
      (faulting (execute loose stack token)) := by
  cases token with
  | bang =>
      match stack with
      | [] => exact agrees_self _
      | value :: rest => exact pushed_agrees rest (Arithmetic.factorial_agrees stricter value)
  | operator op =>
      match stack with
      | [] => exact agrees_self _
      | [_] => exact agrees_self _
      | b :: a :: rest => exact pushed_agrees rest (apply_agrees stricter op a b)
  | _ => exact agrees_self _

theorem run_agrees (stricter : strict.Stricter loose) (program : List Token) (stack : List Rat) :
    RefusesOrAgrees (faulting (program.foldlM (execute strict) stack))
      (faulting (program.foldlM (execute loose) stack)) := by
  -- both runs go on from the stack that the first token leaves, which is one and the same
  induction program generalizing stack with
  | nil => exact agrees_self (.ok stack)
  | cons token rest ih =>
      simp only [List.foldlM_cons, faulting_bind]
      exact agrees_bind (execute_agrees stricter stack token) ih

theorem evaluate_agrees (stricter : strict.Stricter loose) (program : List Token) :
    RefusesOrAgrees (evaluate program strict) (evaluate program loose) := by
  simp only [evaluate_outcome, faulting_bind]
  apply agrees_bind (run_agrees stricter program [])
  intro stack
  exact agrees_self _

end Rpn

theorem evaluate_agrees (stricter : strict.Stricter loose) (text : String) :
    RefusesOrAgrees (evaluate strict text) (evaluate loose text) := by
  apply agrees_bind (agrees_self (Lexer.tokenize text))
  intro tokens
  apply agrees_bind (agrees_self (Rpn.ofTokens tokens))
  intro program
  exact Rpn.evaluate_agrees stricter program

namespace Evaluator

/-- Evaluators of any pasts, one under looser limits than the other: what the stricter one computes
the other computes, and a fault of the stricter one other than a refusal is the other's fault. -/
theorem evaluate_looser (stricter : strict.Stricter loose) (history other : List String)
    (text : String) :
    (∀ value, (((new strict).after history).evaluate text).outcome = .ok value →
      (((new loose).after other).evaluate text).outcome = .ok value) ∧
    ∀ fault, (((new strict).after history).evaluate text).outcome = .error fault →
      fault.kind ≠ .resultTooBig →
      (((new loose).after other).evaluate text).outcome = .error fault := by
  have answered (limits : Limits) (past : List String) :=
    (evaluate_ready text (after_ready past (new_ready limits))).1
  rw [answered strict history, answered loose other]
  rcases evaluate_agrees stricter text with refused | same
  · rw [refused]
    constructor
    · rintro value ⟨⟩
    · rintro fault ⟨⟩ notRefused
      exact absurd rfl notRefused
  · rw [same]
    exact ⟨fun value computed => computed, fun fault failed _ => failed⟩

theorem evaluate_looser_ten :
    Limits.Stricter { Limits.standard with countingDigits := 10.0 } .standard ∧
      (((new { Limits.standard with countingDigits := 10.0 }).after ["1/0"]).evaluate
        "20!").outcome = .error .tooBig ∧
      (((new .standard).after []).evaluate "20!").outcome = .ok 2432902008176640000 ∧
      (((new .standard).after ["20!"]).evaluate "1!+2").outcome = .ok 3 ∧
      (((new .standard).after ["20!"]).evaluate "1!/0").outcome = .error .zeroDivisor := by
  have ten : Binary64.level 10.0 = (10 : ℝ) := by
    rw [Binary64.level_finite _ rfl, Binary64.value_literal 10.0 10 rfl]
    norm_num
  have digits : Binary64.level Limits.standard.countingDigits = (8000 : ℝ) := by
    rw [Binary64.level_finite _ rfl, Binary64.value_literal _ 8000 rfl]
    norm_num
  have stricter : Limits.Stricter { Limits.standard with countingDigits := 10.0 } .standard := by
    refine Limits.stricter_of_le rfl rfl le_rfl ?_
    rw [ten, digits, EReal.coe_le_coe_iff]
    norm_num
  have result := evaluate_looser stricter ["1/0"] ["20!"] "1!+2"
  have failed := evaluate_looser stricter ["1/0"] ["20!"] "1!/0"
  refine ⟨stricter, ?_, ?_, result.1 3 ?_, failed.2 .zeroDivisor ?_ (by decide)⟩
  all_goals decide +kernel

end Evaluator

end RationalCalc
