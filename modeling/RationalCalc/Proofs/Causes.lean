import RationalCalc.Proofs.Conservation
import RationalCalc.Token.Lexer

/-!
What stops the machine. An operation tells what is wrong with its operands, a name that it has no
value, and any token that takes operands that they are missing; only tokens that are no instructions
are refused as such. So the fault of a run has its cause in one token of the program, unless the
program leaves too many values or none. This holds although the machine takes the constants from
literals, which the lexer's faults are about: the two literals are well written.
-/

namespace RationalCalc

/-- Whatever fault the outcome is, it is one of these. -/
def Raises (may : Fault → Prop) (outcome : Except Fault α) : Prop :=
  ∀ fault, outcome = .error fault → may fault

section Outcomes

variable {may : Fault → Prop}

theorem raises_ok (value : α) : Raises may (.ok value : Except Fault α) :=
  fun _ failed => nomatch failed

theorem raises_error (fault : Fault) (among : may fault) :
    Raises may (.error fault : Except Fault α) := by
  intro other failed
  cases failed
  exact among

theorem raises_bind {outcome : Except Fault α} {next : α → Except Fault β}
    (first : Raises may outcome) (later : ∀ value, Raises may (next value)) :
    Raises may (outcome >>= next) := by
  cases outcome with
  | error fault => exact raises_error fault (first fault rfl)
  | ok value => exact later value

theorem raises_map {outcome : Except Fault α} (change : α → β) (first : Raises may outcome) :
    Raises may (outcome.map change) := by
  cases outcome with
  | error fault => exact raises_error fault (first fault rfl)
  | ok value => exact raises_ok (change value)

theorem raises_mono {more : Fault → Prop} {outcome : Except Fault α} (first : Raises may outcome)
    (weaker : ∀ fault, may fault → more fault) : Raises more outcome :=
  fun fault failed => weaker fault (first fault failed)

variable {condition : Prop} [Decidable condition]

theorem raises_ite {one two : Except Fault α} (met : Raises may one) (unmet : Raises may two) :
    Raises may (if condition then one else two) := by
  split
  · exact met
  · exact unmet

theorem raises_guard (fault : Fault) {next : PUnit → Except Fault α} {rest : Except Fault α}
    (among : may fault) (later : Raises may rest) :
    Raises may (if condition then throw fault >>= next else rest) :=
  raises_ite (raises_error fault among) later

end Outcomes

/-! Operations -/

namespace Arithmetic

def operandFaults : List Fault :=
  [.zeroDivisor, .zeroFloorDivisor, .zeroToNegative, .notFinite, .tooBig, .fractionalRemainder,
    .zeroModulus, .fractionalArrangement, .arrangementRange, .fractionalCombination,
    .combinationRange, .fractionalFactorial, .negativeFactorial]

theorem quotient_raises (a b : Rat) : Raises (· ∈ operandFaults) (quotient a b) :=
  raises_ite (raises_error .zeroDivisor (by decide)) (raises_ok _)

theorem floorQuotient_raises (a b : Rat) : Raises (· ∈ operandFaults) (floorQuotient a b) :=
  raises_ite (raises_error .zeroFloorDivisor (by decide)) (raises_ok _)

theorem remainder_raises (a b : Rat) : Raises (· ∈ operandFaults) (remainder a b) := by
  refine raises_ite (raises_error .fractionalRemainder (by decide)) ?_
  exact raises_ite (raises_error .zeroModulus (by decide)) (raises_ok _)

theorem floatPower_raises (base exponent : Float) :
    Raises (· ∈ operandFaults) (floatPower base exponent) :=
  raises_ite (raises_ok _) (raises_error .notFinite (by decide))

theorem zeroPower_raises (exponent : Int) : Raises (· ∈ operandFaults) (zeroPower exponent) := by
  refine raises_ite (raises_error .zeroToNegative (by decide)) ?_
  exact raises_ite (raises_ok 1) (raises_ok 0)

variable (limits : Limits)

theorem exactPower_raises (base : Rat) (exponent : Int) :
    Raises (· ∈ operandFaults) (exactPower base exponent limits) := by
  refine raises_ite (zeroPower_raises exponent) ?_
  refine raises_ite (raises_ok _) ?_
  refine raises_ite (raises_error .tooBig (by decide)) ?_
  exact raises_ite (raises_error .tooBig (by decide)) (raises_ok _)

theorem power_raises (base exponent : Rat) :
    Raises (· ∈ operandFaults) (power base exponent limits) :=
  raises_ite (floatPower_raises _ _) (exactPower_raises limits base exponent.num)

theorem measured_raises (n : Int) : Raises (· ∈ operandFaults) (measured n) :=
  raises_ite (raises_ok _) (raises_error .tooBig (by decide))

theorem admitted_raises (estimate : Float) (factors : Int) :
    Raises (· ∈ operandFaults) (admitted estimate factors limits) := by
  refine raises_ite (raises_error .tooBig (by decide)) ?_
  exact raises_ite (raises_error .tooBig (by decide)) (raises_ok _)

theorem factorial_raises (value : Rat) :
    Raises (· ∈ operandFaults) (factorial value limits) := by
  refine raises_guard .fractionalFactorial (by decide) ?_
  refine raises_guard .negativeFactorial (by decide) ?_
  refine raises_bind (measured_raises value.num) ?_
  intro n
  refine raises_bind (admitted_raises limits _ value.num) ?_
  intro factors
  exact raises_ok _

theorem arrangements_raises (n r : Rat) :
    Raises (· ∈ operandFaults) (arrangements n r limits) := by
  refine raises_guard .fractionalArrangement (by decide) ?_
  refine raises_guard .arrangementRange (by decide) ?_
  refine raises_bind (measured_raises n.num) ?_
  intro nFloat
  refine raises_bind (measured_raises r.num) ?_
  intro rFloat
  refine raises_bind (admitted_raises limits _ r.num) ?_
  intro factors
  exact raises_ok _

theorem combinations_raises (n r : Rat) :
    Raises (· ∈ operandFaults) (combinations n r limits) := by
  refine raises_guard .fractionalCombination (by decide) ?_
  refine raises_guard .combinationRange (by decide) ?_
  refine raises_bind (measured_raises n.num) ?_
  intro nFloat
  refine raises_bind (measured_raises r.num) ?_
  intro rFloat
  refine raises_bind (measured_raises (n.num - r.num)) ?_
  intro complementFloat
  refine raises_bind (admitted_raises limits _ _) ?_
  intro factors
  exact raises_ok _

end Arithmetic

/-! Tokens -/

namespace Rpn

theorem pi_reads : Lexer.readLiteral piText 0 = .ok piValue := by
  decide +kernel

theorem e_reads : Lexer.readLiteral eText 0 = .ok eValue := by
  decide +kernel

/-- The constants are literals, and so their names have a value wherever they stand. -/
theorem resolve_reads (name : String) :
    resolve name =
      if lowered name = ['p', 'i'] || name.toList = ['π'] then Lexer.readLiteral piText 0
      else if lowered name = ['e'] then Lexer.readLiteral eText 0
      else .error (.unknownName name) := by
  rw [pi_reads, e_reads, resolve]

theorem resolve_raises (name : String) : Raises (· = .unknownName name) (resolve name) := by
  rw [resolve_reads, pi_reads, e_reads]
  refine raises_ite (raises_ok piValue) ?_
  exact raises_ite (raises_ok eValue) (raises_error (.unknownName name) rfl)

theorem apply_raises (op : Operator) (a b : Rat) (limits : Limits) :
    Raises (· ∈ Arithmetic.operandFaults) (apply op a b limits) := by
  cases op with
  | plus => exact raises_ok (a + b)
  | minus => exact raises_ok (a - b)
  | times => exact raises_ok (a * b)
  | divide => exact Arithmetic.quotient_raises a b
  | power mark => exact Arithmetic.power_raises limits a b
  | floorDivide => exact Arithmetic.floorQuotient_raises a b
  | remainder => exact Arithmetic.remainder_raises a b
  | arrange letter => exact Arithmetic.arrangements_raises limits a b
  | choose letter => exact Arithmetic.combinations_raises limits a b

/-- The faults that a token may be the cause of. -/
inductive Causes (token : Token) : Fault → Prop where
  | operands (fault : Fault) (wrong : fault ∈ Arithmetic.operandFaults) : Causes token fault
  | missing : Causes token .missingOperand
  | name (text : String) (same : token = .name text) : Causes token (.unknownName text)
  | stray (unlike : isInstruction token = false) : Causes token (.notExecutable token)

theorem pushed_raises {may : Fault → Prop} (stack : List Rat) (result : Except Fault Rat)
    (raises : Raises may result) : Raises may (faulting (pushed stack result)) := by
  rw [faulting_pushed]
  exact raises_map _ raises

theorem execute_causes (limits : Limits) (stack : List Rat) (token : Token) :
    Raises (Causes token) (faulting (execute limits stack token)) := by
  cases token with
  | number value => exact raises_ok (value :: stack)
  | name text =>
      refine pushed_raises stack _ ?_
      refine raises_mono (resolve_raises text) ?_
      rintro _ rfl
      exact .name text rfl
  | bang =>
      match stack with
      | [] => exact raises_error .missingOperand .missing
      | value :: rest =>
          have raises := Arithmetic.factorial_raises limits value
          exact pushed_raises rest _ (raises_mono raises .operands)
  | operator op =>
      match stack with
      | [] => exact raises_error .missingOperand .missing
      | [_] => exact raises_error .missingOperand .missing
      | b :: a :: rest =>
          exact pushed_raises rest _ (raises_mono (apply_raises op a b limits) .operands)
  | ending => exact raises_ok stack
  | opening => exact raises_error (.notExecutable .opening) (.stray rfl)
  | closing => exact raises_error (.notExecutable .closing) (.stray rfl)
  | sign mark => exact raises_error (.notExecutable (.sign mark)) (.stray rfl)

theorem run_causes (limits : Limits) (program : List Token) (stack : List Rat) :
    Raises (fun fault => ∃ token ∈ program, Causes token fault)
      (faulting (program.foldlM (execute limits) stack)) := by
  induction program generalizing stack with
  | nil => exact raises_ok stack
  | cons token rest ih =>
      rw [List.foldlM_cons, faulting_bind]
      refine raises_bind ?_ ?_
      · refine raises_mono (execute_causes limits stack token) ?_
        intro fault caused
        exact ⟨token, List.mem_cons_self .., caused⟩
      · intro next
        refine raises_mono (ih next) ?_
        rintro fault ⟨other, member, caused⟩
        exact ⟨other, List.mem_cons_of_mem token member, caused⟩

theorem onlyValue_raises (stack : List Rat) :
    Raises (· = .leftover stack.length) (faulting (onlyValue stack)) := by
  match stack with
  | [] => exact raises_error (.leftover 0) rfl
  | [value] => exact raises_ok value
  | _ :: _ :: rest => exact raises_error (.leftover (rest.length + 2)) rfl

/-- What stops a program: one of its tokens, or the number of values left. -/
theorem evaluate_causes (limits : Limits) (program : List Token) :
    Raises (fun fault => (∃ token ∈ program, Causes token fault) ∨ ∃ depth, fault = .leftover depth)
      (evaluate program limits) := by
  rw [evaluate_outcome, faulting_bind]
  refine raises_bind ?_ ?_
  · exact raises_mono (run_causes limits program []) fun _ => .inl
  · intro stack
    refine raises_mono (onlyValue_raises stack) ?_
    rintro _ rfl
    exact .inr ⟨stack.length, rfl⟩

end Rpn

end RationalCalc
