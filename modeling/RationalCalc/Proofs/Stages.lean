import RationalCalc.Proofs.Causes

/-!
Stages of an evaluation and the kinds of fault that belong to each. The machine raises only faults of
its own stage as long as it runs numbers, names and operators, and programs that the converter makes
hold nothing else.
-/

namespace RationalCalc

inductive Stage where
  | lexer
  | converter
  | machine
  deriving DecidableEq

def Kind.stage : Kind → Stage
  | invalidNumber => .lexer
  | unknownCharacter => .lexer
  | mismatchedParentheses => .converter
  | unexpectedToken => .converter
  | _ => .machine

/-- Every fault that the outcome may be belongs to the stage. -/
def FailsAt (stage : Stage) (outcome : Except Fault α) : Prop :=
  ∀ fault, outcome = .error fault → fault.kind.stage = stage

theorem operandFaults_stage : ∀ fault ∈ Arithmetic.operandFaults, fault.kind.stage = .machine := by
  decide

namespace Rpn

theorem causes_stage (token : Token) (fault : Fault) (instruction : isInstruction token = true)
    (caused : Causes token fault) : fault.kind.stage = .machine := by
  cases caused with
  | operands fault wrong => exact operandFaults_stage fault wrong
  | missing => rfl
  | name text same => rfl
  | stray unlike => cases unlike.symm.trans instruction

theorem evaluate_fails (limits : Limits) (program : List Token)
    (instructions : ∀ token ∈ program, isInstruction token = true) :
    FailsAt .machine (evaluate program limits) := by
  intro fault failed
  rcases evaluate_causes limits program fault failed with ⟨token, member, caused⟩ | ⟨depth, rfl⟩
  · exact causes_stage token fault (instructions token member) caused
  · rfl

end Rpn

end RationalCalc
