import RationalCalc.Proofs.Acceptance
import RationalCalc.Proofs.Alternation

/-!
The order that conversion keeps. Only operators and parentheses wait; operands are put out as they
come, and the zero of a sign when the sign does. So a program has the operands of the tokens in their
order, whatever becomes of the operators between them, and it has the operators in another one.
-/

namespace RationalCalc.Rpn

def endsValue : Token → Bool
  | .number _ => true
  | .name _ => true
  | .closing => true
  | .bang => true
  | _ => false

/-- Plus and minus are signs if they come first or no value ends right before them. -/
def isUnary (previous : Option Token) : Token → Bool
  | .operator .plus => !previous.any endsValue
  | .operator .minus => !previous.any endsValue
  | _ => false

/-- The operands among the tokens, with a zero in the place of each sign. -/
def operandsOf : Option Token → List Token → List Token
  | _, [] => []
  | previous, token :: rest =>
      (if isUnary previous token then [.number 0] else [token].filter isOperand) ++
        operandsOf (some token) rest

def unaryCount : Option Token → List Token → Nat
  | _, [] => 0
  | previous, token :: rest => (isUnary previous token).toNat + unaryCount (some token) rest

def isOperation : Token → Bool
  | .operator _ => true
  | .bang => true
  | _ => false

def isFrame : Token → Bool
  | .opening => true
  | .closing => true
  | .ending => true
  | _ => false

/-! What waits -/

theorem released_operand (token : Token) (waits : isOperand token = false) :
    isOperand (released token) = false := by
  cases token with
  | sign mark =>
      simp only [released]
      split <;> rfl
  | _ => exact waits

theorem release_operands (leaves : Token → Bool) (output pending : List Token)
    (waiting : ∀ token ∈ pending, isOperand token = false) :
    (release leaves output pending).1.filter isOperand = output.filter isOperand ∧
      ∀ token ∈ (release leaves output pending).2, isOperand token = false := by
  induction pending generalizing output with
  | nil => exact ⟨rfl, waiting⟩
  | cons top pending ih =>
      obtain ⟨first, others⟩ := List.forall_mem_cons.mp waiting
      by_cases leaving : leaves top = true
      · simp only [release, leaving, ↓reduceIte]
        have below := ih (released top :: output) others
        rwa [List.filter_cons_of_neg (by simp [released_operand top first])] at below
      · simp only [release, leaving]
        exact ⟨rfl, waiting⟩

/-! One token -/

structure Ordered (draft next : Draft) (tokens : List Token) : Prop where
  waiting : ∀ token ∈ next.pending, isOperand token = false
  output : next.output.filter isOperand =
    ((explicit draft.afterValue tokens).filter isOperand).reverse ++ draft.output.filter isOperand

section OneToken

variable {draft next : Draft} {token : Token}
  (waiting : ∀ token ∈ draft.pending, isOperand token = false)
include waiting

theorem operation_ordered (operator : isOperand token = false)
    (value : contributes draft.afterValue token = [token]) :
    Ordered draft (draft.operation token) [token] := by
  obtain ⟨kept, below⟩ := release_operands (yields token) draft.output draft.pending waiting
  constructor
  · exact List.forall_mem_cons.mpr ⟨operator, below⟩
  · simp [Draft.operation, kept, explicit, value, operator]

theorem sign_ordered (mark : Char) (op : Operator) (fresh : draft.afterValue = false)
    (value : contributes false (.operator op) = [.number 0, .operator op]) :
    Ordered draft (draft.signed mark) [.operator op] := by
  constructor
  · exact List.forall_mem_cons.mpr ⟨rfl, waiting⟩
  · simp only [Draft.signed, explicit, fresh, value, List.append_nil]
    rfl

theorem closed_ordered (closed : draft.closed = .ok next) : Ordered draft next [.closing] := by
  obtain ⟨kept, below⟩ := release_operands (· != .opening) draft.output draft.pending waiting
  simp only [Draft.closed] at closed
  generalize release (· != .opening) draft.output draft.pending = left at closed kept below
  obtain ⟨put, pending⟩ := left
  cases pending with
  | nil => cases closed
  | cons top pending =>
      cases closed
      constructor
      · exact (List.forall_mem_cons.mp below).2
      · simpa [explicit, contributes] using kept

theorem step_ordered (step : draft.step token = .ok next) : Ordered draft next [token] := by
  obtain ⟨-, takes⟩ := (step_iff draft next token).mp step
  cases takes with
  | ending => exact ⟨waiting, rfl⟩
  | number value => exact ⟨waiting, rfl⟩
  | name text => exact ⟨waiting, rfl⟩
  | opening => exact ⟨List.forall_mem_cons.mpr ⟨rfl, waiting⟩, rfl⟩
  | closing next closed => exact closed_ordered waiting closed
  | plus fresh => exact sign_ordered waiting '+' .plus fresh rfl
  | minus fresh => exact sign_ordered waiting '-' .minus fresh rfl
  | operation token operates value =>
      apply operation_ordered waiting _ value
      rcases operates with rfl | ⟨op, rfl⟩ <;> rfl

end OneToken

/-! All tokens -/

theorem run_ordered (tokens : List Token) (draft last : Draft)
    (waiting : ∀ token ∈ draft.pending, isOperand token = false)
    (run : tokens.foldlM Draft.step draft = .ok last) : Ordered draft last tokens := by
  induction tokens generalizing draft with
  | nil =>
      cases run
      exact ⟨waiting, rfl⟩
  | cons token rest ih =>
      obtain ⟨next, step, run⟩ := (run_cons token rest draft last).mp run
      have first := step_ordered waiting step
      have later := ih next first.waiting run
      have value : next.afterValue = endsOperand draft.afterValue token :=
        (step_effect draft next token step).afterValue
      constructor
      · exact later.waiting
      · rw [later.output, first.output, value]
        simp [explicit]

theorem converted_operands (tokens program : List Token)
    (converted : ofTokens tokens = .ok program) :
    program.filter isOperand = (explicit false tokens).filter isOperand := by
  obtain ⟨draft, run, finish⟩ := (ofTokens_ok tokens program).mp converted
  have ordered := run_ordered tokens .start draft (List.forall_mem_nil _) run
  obtain ⟨kept, -⟩ := release_operands (· != .opening) draft.output draft.pending ordered.waiting
  rw [(finish_iff draft program.reverse).mp finish, ordered.output] at kept
  simpa [Draft.start] using congrArg List.reverse kept

/-! What the tokens come to -/

theorem contributes_operands (previous : Option Token) (token : Token) :
    (contributes (previous.any endsValue) token).filter isOperand =
      if isUnary previous token then [.number 0] else [token].filter isOperand := by
  cases token with
  | operator op =>
      rcases Bool.eq_false_or_eq_true (previous.any endsValue) with ends | ends <;>
        cases op <;> simp only [isUnary, ends] <;> rfl
  | _ => rfl

theorem contributes_operations (after : Bool) (token : Token) :
    (contributes after token).filter isOperation = [token].filter isOperation := by
  cases token with
  | operator op => cases op <;> cases after <;> rfl
  | _ => rfl

theorem contributes_length (previous : Option Token) (token : Token)
    (signless : ∀ mark, token ≠ .sign mark) :
    (contributes (previous.any endsValue) token).length =
      (!isFrame token).toNat + (isUnary previous token).toNat := by
  cases token with
  | operator op => cases op <;> simp only [isUnary] <;> cases previous.any endsValue <;> rfl
  | sign mark => exact absurd rfl (signless mark)
  | _ => rfl

theorem explicit_operations (after : Bool) (tokens : List Token) :
    (explicit after tokens).filter isOperation = tokens.filter isOperation := by
  induction tokens generalizing after with
  | nil => rfl
  | cons token rest ih =>
      rw [explicit, List.filter_append, contributes_operations, ih, ← List.filter_append]
      rfl

/-- No signs, and nothing behind the ending. -/
structure Plain (tokens : List Token) : Prop where
  signless : ∀ mark, .sign mark ∉ tokens
  last : ∀ before after, tokens = before ++ .ending :: after → after = []

theorem Plain.rest {token : Token} {rest : List Token} (plain : Plain (token :: rest)) :
    Plain rest := by
  constructor
  · intro mark member
    exact plain.signless mark (List.mem_cons_of_mem token member)
  · intro before after whole
    exact plain.last (token :: before) after (congrArg (token :: ·) whole)

theorem Plain.ends {token : Token} {rest : List Token} (plain : Plain (token :: rest))
    (more : rest ≠ []) (after : Bool) : endsOperand after token = endsValue token := by
  cases token with
  | ending => exact absurd (plain.last [] rest rfl) more
  | sign mark => exact absurd (List.mem_cons_self ..) (plain.signless mark)
  | _ => rfl

theorem explicit_operands (tokens : List Token) (after : Bool) (previous : Option Token)
    (plain : Plain tokens) (same : tokens ≠ [] → after = previous.any endsValue) :
    (explicit after tokens).filter isOperand = operandsOf previous tokens ∧
      (explicit after tokens).length =
        tokens.countP (!isFrame ·) + unaryCount previous tokens := by
  induction tokens generalizing after previous with
  | nil => exact ⟨rfl, rfl⟩
  | cons token rest ih =>
      have value := same (List.cons_ne_nil token rest)
      subst value
      have signless (mark : Char) : token ≠ .sign mark := fun sign =>
        plain.signless mark (by simp [sign])
      obtain ⟨operands, length⟩ :=
        ih (endsOperand _ token) (some token) plain.rest fun more => plain.ends more _
      constructor
      · rw [explicit, List.filter_append, contributes_operands, operands, operandsOf]
      · rw [explicit, List.length_append, contributes_length previous token signless, length,
          unaryCount, List.countP_cons]
        cases isFrame token <;> simp <;> omega

theorem converted_plain (tokens program : List Token) (converted : ofTokens tokens = .ok program) :
    Plain tokens := by
  have accepted := (accepted_iff tokens).mp ⟨program, converted⟩
  obtain ⟨signless, last, -⟩ := (faultless_balanced tokens).mp accepted
  exact ⟨signless, last⟩

/-- What conversion keeps, sentence or not. The operands stay in their order, with a zero where a sign
was; the operators are the same ones; and there is no other token in the program. -/
theorem converted_order (tokens program : List Token) (converted : ofTokens tokens = .ok program) :
    (.opening ∉ program ∧ .closing ∉ program ∧ .ending ∉ program ∧ ∀ mark, .sign mark ∉ program) ∧
    program.filter isOperand = operandsOf none tokens ∧
    (program.filter isOperation).Perm (tokens.filter isOperation) ∧
    program.length = tokens.countP (!isFrame ·) + unaryCount none tokens := by
  have kept := converted_perm tokens program converted
  have plain := converted_plain tokens program converted
  have absent (token : Token) (other : isInstruction token = false) : token ∉ program := by
    intro member
    rw [converted_instructions tokens program converted token member] at other
    cases other
  obtain ⟨operands, length⟩ := explicit_operands tokens false none plain fun _ => rfl
  constructor
  · exact ⟨absent .opening rfl, absent .closing rfl, absent .ending rfl,
      fun mark => absent (.sign mark) rfl⟩
  constructor
  · rw [converted_operands tokens program converted, operands]
  constructor
  · rw [← explicit_operations false tokens]
    exact kept.filter isOperation
  · rw [kept.length_eq, length]

theorem converted_order_malformed :
    ∃ program, ofTokens [.operator .minus, .opening, .number 2, .name "x", .operator .minus, .closing,
        .operator .minus, .operator .plus, .operator .times, .number 3, .bang, .operator .plus,
        .ending] = .ok program ∧
      program.filter isOperand = [.number 0, .number 2, .name "x", .number 0, .number 3] ∧
      program.length = 10 + 2 := by
  have converted : ofTokens [.operator .minus, .opening, .number 2, .name "x", .operator .minus,
      .closing, .operator .minus, .operator .plus, .operator .times, .number 3, .bang,
      .operator .plus, .ending] =
      .ok [.number 0, .number 2, .name "x", .operator .minus, .operator .minus, .number 0,
        .operator .plus, .number 3, .bang, .operator .times, .operator .minus, .operator .plus] := by
    decide +kernel
  obtain ⟨-, operands, -, length⟩ := converted_order _ _ converted
  exact ⟨_, converted, operands, length⟩

end RationalCalc.Rpn
