import Mathlib.Data.List.Forall2
import RationalCalc.Proofs.Expression

/-!
The stack machine against expression trees. One way, the program of a tree does on any stack what the
value of the tree says: it pushes that value, or stops with the first fault met from left to right.
The other way, whatever list of tokens runs without a fault, the stack it leaves is that of trees
whose programs, one after another, are that list. Endings do nothing and are left aside.
-/

namespace RationalCalc.Rpn

def executable (program : List Token) : List Token :=
  program.filter (· != .ending)

def operands : Token → Nat
  | .bang => 1
  | .operator _ => 2
  | _ => 0

/-- How a run ends, the state that a fault leaves behind forgotten. -/
def faulting (outcome : Except (Stop σ) α) : Except Fault α :=
  outcome.mapError Stop.fault

theorem faulting_bind (outcome : Except (Stop σ) α) (next : α → Except (Stop σ) β) :
    faulting (outcome >>= next) = faulting outcome >>= fun value => faulting (next value) := by
  cases outcome <;> rfl

theorem faulting_ok (outcome : Except (Stop σ) α) (value : α) :
    faulting outcome = .ok value ↔ outcome = .ok value := by
  cases outcome with
  | error stop => constructor <;> rintro ⟨⟩
  | ok result => constructor <;> (rintro ⟨⟩; rfl)

theorem faulting_pushed (stack : List Rat) (result : Except Fault Rat) :
    faulting (pushed stack result) = result.map (· :: stack) := by
  cases result <;> rfl

theorem evaluate_outcome (program : List Token) (limits : Limits) :
    evaluate program limits = faulting (program.foldlM (execute limits) [] >>= onlyValue) := by
  simp only [evaluate, runFrom, Course.answer, Course.ending, Course.run_outcome, faulting]
  rfl

theorem executable_run (limits : Limits) (program : List Token) (stack : List Rat) :
    (executable program).foldlM (execute limits) stack = program.foldlM (execute limits) stack := by
  induction program generalizing stack with
  | nil => rfl
  | cons token rest ih =>
      by_cases ending : token = .ending
      · subst ending
        exact ih stack
      · have kept : executable (token :: rest) = token :: executable rest := by
          simp [executable, ending]
        rw [kept, List.foldlM_cons, List.foldlM_cons]
        exact congrArg _ (funext ih)

/-! From trees to runs -/

theorem run_program (limits : Limits) (tree : Expression) (stack : List Rat) :
    faulting (tree.program.foldlM (execute limits) stack) =
      (tree.value limits).map (· :: stack) := by
  -- the right operand runs above the left one's value, hence any stack
  induction tree generalizing stack with
  | number value => rfl
  | name text =>
      simp only [Expression.program, List.foldlM_cons, List.foldlM_nil, bind_pure, execute]
      exact faulting_pushed stack (resolve text)
  | bang operand ih =>
      simp only [Expression.program, List.foldlM_append, faulting_bind, ih, Expression.value]
      cases operand.value limits with
      | error fault => rfl
      | ok n =>
          simp only [List.foldlM_cons, List.foldlM_nil, bind_pure, execute]
          exact faulting_pushed stack (Arithmetic.factorial n limits)
  | binary op left right ihLeft ihRight =>
      simp only [Expression.program, List.foldlM_append, faulting_bind, ihLeft, Expression.value]
      cases left.value limits with
      | error fault => rfl
      | ok a =>
          change (faulting (right.program.foldlM (execute limits) (a :: stack)) >>= _) = _
          rw [ihRight]
          cases right.value limits with
          | error fault => rfl
          | ok b =>
              simp only [List.foldlM_cons, List.foldlM_nil, bind_pure, execute]
              exact faulting_pushed stack (apply op a b limits)

theorem evaluate_tree (limits : Limits) (program : List Token) (tree : Expression)
    (spelled : tree.program = executable program) :
    evaluate program limits = tree.value limits := by
  rw [evaluate_outcome, ← executable_run, ← spelled, faulting_bind, run_program]
  cases tree.value limits <;> rfl

/-! From runs to trees -/

def spelling : List Expression → List Token
  | [] => []
  | newest :: older => spelling older ++ newest.program

abbrev Values (limits : Limits) : List Expression → List Rat → Prop :=
  List.Forall₂ fun tree value => tree.value limits = .ok value

theorem pushed_ok (stack next : List Rat) (result : Except Fault Rat)
    (step : pushed stack result = .ok next) : ∃ value, result = .ok value ∧ next = value :: stack := by
  cases result with
  | error fault => cases step
  | ok value =>
      cases step
      exact ⟨value, rfl, rfl⟩

/-- A step joins the trees that its token takes, and adds the token to what they spell. -/
theorem execute_spelled (limits : Limits) (token : Token) (trees : List Expression)
    (stack next : List Rat) (acts : token ≠ .ending) (values : Values limits trees stack)
    (step : execute limits stack token = .ok next) :
    ∃ grown, Values limits grown next ∧ spelling grown = spelling trees ++ [token] := by
  cases token with
  | ending => exact absurd rfl acts
  | number value =>
      cases step
      exact ⟨.number value :: trees, .cons rfl values, rfl⟩
  | name text =>
      obtain ⟨value, found, rfl⟩ := pushed_ok stack next _ step
      exact ⟨.name text :: trees, .cons found values, rfl⟩
  | bang =>
      cases values with
      | nil => cases step
      | @cons operand n older rest computed values =>
          obtain ⟨value, found, rfl⟩ := pushed_ok rest next _ step
          refine ⟨.bang operand :: older, .cons ?_ values, ?_⟩
          · simp only [Expression.value, computed]
            exact found
          · simp [spelling, Expression.program]
  | operator op =>
      cases values with
      | nil => cases step
      | @cons right b trees stack second values =>
          cases values with
          | nil => cases step
          | @cons left a older rest first values =>
              obtain ⟨value, found, rfl⟩ := pushed_ok rest next _ step
              refine ⟨.binary op left right :: older, .cons ?_ values, ?_⟩
              · simp only [Expression.value, first, second]
                exact found
              · simp [spelling, Expression.program]
  | sign mark => cases step
  | opening => cases step
  | closing => cases step

theorem run_spelled (limits : Limits) (program : List Token) (trees : List Expression)
    (stack last : List Rat) (acts : ∀ token ∈ program, token ≠ .ending)
    (values : Values limits trees stack)
    (run : program.foldlM (execute limits) stack = .ok last) :
    ∃ grown, Values limits grown last ∧ spelling grown = spelling trees ++ program := by
  -- the invariant is that the trees spell what has run so far
  induction program generalizing trees stack with
  | nil =>
      cases run
      exact ⟨trees, values, (List.append_nil _).symm⟩
  | cons token rest ih =>
      rw [List.foldlM_cons] at run
      cases step : execute limits stack token with
      | error stop =>
          rw [step] at run
          cases run
      | ok next =>
          rw [step] at run
          obtain ⟨middle, computed, spelled⟩ := execute_spelled limits token trees stack next
            (acts token (List.mem_cons_self ..)) values step
          obtain ⟨grown, held, whole⟩ := ih middle next
            (fun other member => acts other (List.mem_cons_of_mem token member)) computed run
          exact ⟨grown, held, by rw [whole, spelled, List.append_assoc]; rfl⟩

theorem run_iff_spelled (limits : Limits) (program : List Token) (stack : List Rat) :
    program.foldlM (execute limits) [] = .ok stack ↔
      ∃ trees, Values limits trees stack ∧ spelling trees = executable program := by
  rw [← executable_run]
  constructor
  · intro run
    have acts : ∀ token ∈ executable program, token ≠ .ending := by
      intro token member
      simpa using (List.mem_filter.mp member).2
    simpa [spelling] using run_spelled limits (executable program) [] [] stack acts .nil run
  · rintro ⟨trees, values, spelled⟩
    rw [← spelled]
    clear spelled
    -- the newest tree's program is the last to run, on the values of the older ones
    induction values with
    | nil => rfl
    | @cons tree value trees stack computed _ ih =>
        rw [spelling, List.foldlM_append, ih, ← faulting_ok]
        change faulting (tree.program.foldlM (execute limits) stack) = _
        rw [run_program, computed]
        rfl

/-! The answer of the machine -/

theorem evaluate_stack (limits : Limits) (program : List Token) (stack : List Rat)
    (run : program.foldlM (execute limits) [] = .ok stack) :
    evaluate program limits = faulting (onlyValue stack) := by
  rw [evaluate_outcome, run]
  rfl

theorem onlyValue_leftover (stack : List Rat) (several : stack.length ≠ 1) :
    onlyValue stack = .error ⟨.leftover stack.length, stack⟩ := by
  match stack with
  | [] => rfl
  | [value] => exact absurd rfl several
  | _ :: _ :: _ => rfl

theorem onlyValue_ok (stack : List Rat) (value : Rat) (only : onlyValue stack = .ok value) :
    stack = [value] := by
  match stack with
  | [] => cases only
  | [_] =>
      cases only
      rfl
  | _ :: _ :: _ => cases only

theorem evaluate_ok (limits : Limits) (program : List Token) (value : Rat) :
    evaluate program limits = .ok value ↔
      ∃ tree : Expression, tree.program = executable program ∧ tree.value limits = .ok value := by
  constructor
  · intro computed
    rw [evaluate_outcome, faulting_ok] at computed
    cases run : program.foldlM (execute limits) [] with
    | error stop =>
        rw [run] at computed
        cases computed
    | ok stack =>
        rw [run] at computed
        have single := onlyValue_ok stack value computed
        subst single
        obtain ⟨trees, values, spelled⟩ := (run_iff_spelled limits program [value]).mp run
        cases values with
        | cons only none =>
            cases none
            exact ⟨_, by simpa [spelling] using spelled, only⟩
  · rintro ⟨tree, spelled, computed⟩
    rw [evaluate_tree limits program tree spelled, computed]

theorem execute_missing (limits : Limits) (token : Token) (stack : List Rat)
    (few : stack.length < operands token) :
    faulting (execute limits stack token) = .error .missingOperand := by
  cases token with
  | bang =>
      match stack with
      | [] => rfl
  | operator op =>
      match stack with
      | [] => rfl
      | [_] => rfl
      | _ :: _ :: _ =>
          simp only [operands, List.length_cons] at few
          omega
  | _ => simp [operands] at few

theorem evaluate_missing (limits : Limits) (before after : List Token) (token : Token)
    (stack : List Rat) (run : before.foldlM (execute limits) [] = .ok stack)
    (few : stack.length < operands token) :
    evaluate (before ++ token :: after) limits = .error .missingOperand := by
  have missing := execute_missing limits token stack few
  rw [evaluate_outcome, List.foldlM_append, run]
  change faulting ((token :: after).foldlM (execute limits) stack >>= onlyValue) = _
  rw [List.foldlM_cons, faulting_bind, faulting_bind, missing]
  rfl

/-- The machine on any list of tokens. It has a value exactly if the list is the program of a tree
that has it; a tree's first fault is the machine's; a run that leaves other than one value says how
many it leaves; an operator without its operands is missing them, unless a token before it fails. -/
theorem evaluate_by_trees (program : List Token) (limits : Limits) :
    (∀ value, evaluate program limits = .ok value ↔
      ∃ tree : Expression, tree.program = executable program ∧ tree.value limits = .ok value) ∧
    (∀ (tree : Expression) fault, tree.program = executable program →
      tree.value limits = .error fault → evaluate program limits = .error fault) ∧
    (∀ stack, program.foldlM (execute limits) [] = .ok stack → stack.length ≠ 1 →
      evaluate program limits = .error (.leftover stack.length) ∧
        (Fault.leftover stack.length).kind = .invalidExpression) ∧
    (∀ before token after stack, program = before ++ token :: after →
      before.foldlM (execute limits) [] = .ok stack → stack.length < operands token →
      evaluate program limits = .error .missingOperand ∧
        Fault.missingOperand.kind = .stackUnderflow) := by
  refine ⟨evaluate_ok limits program, ?_, ?_, ?_⟩
  · intro tree fault spelled failed
    rw [evaluate_tree limits program tree spelled, failed]
  · intro stack run several
    rw [evaluate_stack limits program stack run, onlyValue_leftover stack several]
    exact ⟨rfl, rfl⟩
  · rintro before token after stack rfl run few
    exact ⟨evaluate_missing limits before after token stack run few, rfl⟩

theorem evaluate_by_trees_short :
    evaluate [.number 1, .number 2, .ending, .operator .plus] .standard = .ok 3 ∧
    evaluate [.number 1, .number 0, .operator .divide] .standard = .error .zeroDivisor ∧
    evaluate [.number 1, .ending, .number 2] .standard = .error (.leftover 2) ∧
    evaluate [.number 1, .operator .plus, .opening] .standard = .error .missingOperand := by
  have sum := (evaluate_by_trees [.number 1, .number 2, .ending, .operator .plus] .standard).1
  have failed := (evaluate_by_trees [.number 1, .number 0, .operator .divide] .standard).2.1
  have left := (evaluate_by_trees [.number 1, .ending, .number 2] .standard).2.2.1
  have missing := (evaluate_by_trees [.number 1, .operator .plus, .opening] .standard).2.2.2
  refine ⟨?_, ?_, ?_, ?_⟩
  · refine (sum 3).mpr ⟨.binary .plus (.number 1) (.number 2), rfl, ?_⟩
    exact congrArg Except.ok (by decide +kernel)
  · exact failed (.binary .divide (.number 1) (.number 0)) _ rfl rfl
  · exact (left [2, 1] rfl (by decide)).1
  · exact (missing [.number 1] (.operator .plus) [.opening] [1] rfl rfl (by decide)).1

end RationalCalc.Rpn
