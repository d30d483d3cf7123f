import RationalCalc.Proofs.Conversion
import RationalCalc.Proofs.Execution

/-!
What conversion keeps. However badly tokens are ordered, a conversion that ends well has only put them
into another order: its program is a permutation of the tokens without the parentheses, where a sign
counts as the zero and the operator that it stands for. Parentheses are dropped in pairs, so that they
must balance.
-/

namespace RationalCalc.Rpn

/-- Whether an operand ends with a token, if `after` says so for the tokens before it. -/
def endsOperand (after : Bool) : Token → Bool
  | .number _ => true
  | .name _ => true
  | .closing => true
  | .bang => true
  | .opening => false
  | .operator _ => false
  | _ => after

/-- What a token comes to in a program. Plus and minus are signs unless an operand ended. -/
def contributes (after : Bool) : Token → List Token
  | .number value => [.number value]
  | .name text => [.name text]
  | .bang => [.bang]
  | .operator .plus => if after then [.operator .plus] else [.number 0, .operator .plus]
  | .operator .minus => if after then [.operator .minus] else [.number 0, .operator .minus]
  | .operator op => [.operator op]
  | _ => []

def explicit : Bool → List Token → List Token
  | _, [] => []
  | after, token :: rest => contributes after token ++ explicit (endsOperand after token) rest

def held (output pending : List Token) : List Token :=
  output ++ (pending.filter (· != .opening)).map released

theorem held_output (token : Token) (output pending : List Token) :
    (held (token :: output) pending).Perm (held output pending ++ [token]) :=
  (List.perm_append_singleton token (held output pending)).symm

theorem held_pending (token : Token) (output pending : List Token) (plain : token ≠ .opening) :
    (held output (token :: pending)).Perm (held output pending ++ [released token]) := by
  have kept : held output (token :: pending) =
      output ++ released token :: (pending.filter (· != .opening)).map released := by
    simp [held, plain]
  rw [kept]
  exact List.perm_middle.trans (List.perm_append_singleton (released token) (held output pending)).symm

/-! Releasing -/

theorem release_held (leaves : Token → Bool) (output pending : List Token)
    (spares : leaves .opening = false) :
    (held (release leaves output pending).1 (release leaves output pending).2).Perm
      (held output pending) := by
  induction pending generalizing output with
  | nil => exact .refl _
  | cons top pending ih =>
      by_cases leaving : leaves top = true
      · have plain : top ≠ .opening := by
          rintro rfl
          rw [spares] at leaving
          cases leaving
        simp only [release, leaving, ↓reduceIte]
        apply (ih (released top :: output)).trans
        exact (held_output _ output pending).trans (held_pending top output pending plain).symm
      · simp [release, leaving]

theorem release_depth (leaves : Token → Bool) (output pending : List Token)
    (spares : leaves .opening = false) :
    (release leaves output pending).2.count .opening = pending.count .opening := by
  induction pending generalizing output with
  | nil => rfl
  | cons top pending ih =>
      by_cases leaving : leaves top = true
      · have plain : top ≠ .opening := by
          rintro rfl
          rw [spares] at leaving
          cases leaving
        simp only [release, leaving, ↓reduceIte]
        rw [ih, List.count_cons_of_ne plain]
      · simp [release, leaving]

theorem release_head (leaves : Token → Bool) (output pending : List Token) :
    ∀ top ∈ (release leaves output pending).2.head?, leaves top = false := by
  induction pending generalizing output with
  | nil => simp [release]
  | cons top pending ih =>
      by_cases leaving : leaves top = true
      · simp only [release, leaving, ↓reduceIte]
        exact ih _
      · simp [release, leaving]

theorem release_opening (output pending : List Token) :
    (∃ put, release (· != .opening) output pending = (put, []) ∧ put.Perm (held output pending) ∧
      pending.count .opening = 0) ∨
    ∃ put below, release (· != .opening) output pending = (put, .opening :: below) ∧
      (held put below).Perm (held output pending) ∧
      pending.count .opening = below.count .opening + 1 := by
  have kept := release_held (· != .opening) output pending rfl
  have depth := release_depth (· != .opening) output pending rfl
  have head := release_head (· != .opening) output pending
  generalize release (· != .opening) output pending = result at kept depth head
  obtain ⟨put, waiting⟩ := result
  cases waiting with
  | nil => exact .inl ⟨put, rfl, by simpa [held] using kept, depth.symm⟩
  | cons top below =>
      have top : top = .opening := by simpa using head top rfl
      subst top
      refine .inr ⟨put, below, rfl, ?_, ?_⟩
      · simpa [held] using kept
      · simpa using depth.symm

/-! One token -/

/-- How a draft goes on with a token: these are all the ways. -/
inductive Takes (draft : Draft) : Token → Draft → Prop where
  | ending : Takes draft .ending { draft with ended := true }
  | number (value : Rat) : Takes draft (.number value) (draft.operand (.number value))
  | name (text : String) : Takes draft (.name text) (draft.operand (.name text))
  | opening : Takes draft .opening draft.opened
  | closing (next : Draft) (closed : draft.closed = .ok next) : Takes draft .closing next
  | plus (fresh : draft.afterValue = false) : Takes draft (.operator .plus) (draft.signed '+')
  | minus (fresh : draft.afterValue = false) : Takes draft (.operator .minus) (draft.signed '-')
  | operation (token : Token) (operates : token = .bang ∨ ∃ op, token = .operator op)
      (value : contributes draft.afterValue token = [token]) :
      Takes draft token (draft.operation token)

theorem step_going (draft next : Draft) (token : Token) (step : draft.step token = .ok next) :
    draft.ended = false := by
  cases ended : draft.ended with
  | false => rfl
  | true => simp [Draft.step, ended] at step

theorem operator_step (draft : Draft) (op : Operator) (going : draft.ended = false) :
    ∃ next, draft.step (.operator op) = .ok next ∧ Takes draft (.operator op) next := by
  simp only [Draft.step, going, Bool.false_eq_true, ↓reduceIte]
  cases fresh : draft.afterValue with
  | true =>
      refine ⟨_, rfl, .operation _ (.inr ⟨op, rfl⟩) ?_⟩
      cases op <;> simp [fresh, contributes]
  | false =>
      cases op with
      | plus => exact ⟨_, rfl, .plus fresh⟩
      | minus => exact ⟨_, rfl, .minus fresh⟩
      | _ => exact ⟨_, rfl, .operation _ (.inr ⟨_, rfl⟩) rfl⟩

theorem step_iff (draft next : Draft) (token : Token) :
    draft.step token = .ok next ↔ draft.ended = false ∧ Takes draft token next := by
  constructor
  · intro step
    have going := step_going draft next token step
    refine ⟨going, ?_⟩
    simp only [Draft.step, going, Bool.false_eq_true, ↓reduceIte] at step
    cases token with
    | ending =>
        cases step
        exact .ending
    | sign mark => cases step
    | number value =>
        cases step
        exact .number value
    | name text =>
        cases step
        exact .name text
    | bang =>
        cases step
        exact .operation .bang (.inl rfl) rfl
    | opening =>
        cases step
        exact .opening
    | closing => exact .closing next step
    | operator op =>
        obtain ⟨other, same, takes⟩ := operator_step draft op going
        simp only [Draft.step, going, Bool.false_eq_true, ↓reduceIte] at same
        cases same.symm.trans step
        exact takes
  · rintro ⟨going, takes⟩
    cases takes with
    | closing next closed => simp [Draft.step, going, closed]
    | plus fresh => simp [Draft.step, going, fresh]
    | minus fresh => simp [Draft.step, going, fresh]
    | operation token operates value =>
        rcases operates with rfl | ⟨op, rfl⟩
        · simp [Draft.step, going]
        · cases fresh : draft.afterValue with
          | true => simp [Draft.step, going, fresh]
          | false =>
              -- a sign would have put a zero out
              rw [fresh] at value
              cases op with
              | plus => cases value
              | minus => cases value
              | _ => simp [Draft.step, going, fresh]
    | _ => simp [Draft.step, going]

/-- What a token does to a draft: it is held from now on, or it opens or closes a parenthesis. -/
structure Effect (draft next : Draft) (tokens : List Token) : Prop where
  afterValue : next.afterValue = tokens.foldl endsOperand draft.afterValue
  held : (held next.output next.pending).Perm
    (held draft.output draft.pending ++ explicit draft.afterValue tokens)
  depth : next.pending.count .opening + tokens.count .closing =
    draft.pending.count .opening + tokens.count .opening

theorem operation_effect (draft : Draft) (token : Token)
    (operates : token = .bang ∨ ∃ op, token = .operator op)
    (value : contributes draft.afterValue token = [token]) :
    Effect draft (draft.operation token) [token] := by
  have kept := release_held (yields token) draft.output draft.pending rfl
  have depth := release_depth (yields token) draft.output draft.pending rfl
  have plain : token ≠ .opening ∧ token ≠ .closing ∧ released token = token := by
    rcases operates with rfl | ⟨op, rfl⟩ <;> exact ⟨nofun, nofun, rfl⟩
  obtain ⟨opens, closes, same⟩ := plain
  refine ⟨?_, ?_, ?_⟩
  · rcases operates with rfl | ⟨op, rfl⟩ <;> rfl
  · have last := held_pending token (release (yields token) draft.output draft.pending).1
      (release (yields token) draft.output draft.pending).2 opens
    rw [same] at last
    simp only [explicit, value, List.append_nil]
    exact last.trans (kept.append_right [token])
  · simp [Draft.operation, opens, closes, depth]

theorem sign_effect (draft : Draft) (mark : Char) (op : Operator) (fresh : draft.afterValue = false)
    (becomes : released (.sign mark) = .operator op)
    (value : contributes false (.operator op) = [.number 0, .operator op]) :
    Effect draft (draft.signed mark) [.operator op] := by
  refine ⟨rfl, ?_, by simp [Draft.signed]⟩
  have last := held_pending (.sign mark) (.number 0 :: draft.output) draft.pending nofun
  rw [becomes] at last
  simp only [explicit, fresh, value, List.append_nil]
  have zero := (held_output (.number 0) draft.output draft.pending).append_right [Token.operator op]
  rw [List.append_assoc] at zero
  exact last.trans zero

theorem closed_effect (draft next : Draft) (closed : draft.closed = .ok next) :
    Effect draft next [.closing] := by
  rcases release_opening draft.output draft.pending with
    ⟨put, left, -, -⟩ | ⟨put, below, left, kept, depth⟩
  · simp [Draft.closed, left] at closed
  · have same : next = { draft with output := put, pending := below, afterValue := true } := by
      simpa [Draft.closed, left] using closed.symm
    subst same
    refine ⟨rfl, ?_, ?_⟩
    · simpa [explicit, contributes] using kept
    · simpa using depth.symm

theorem step_effect (draft next : Draft) (token : Token) (step : draft.step token = .ok next) :
    Effect draft next [token] := by
  obtain ⟨-, takes⟩ := (step_iff draft next token).mp step
  cases takes with
  | ending => exact ⟨rfl, by simp [explicit, contributes], by simp⟩
  | number value =>
      exact ⟨rfl, held_output (.number value) draft.output draft.pending, by simp [Draft.operand]⟩
  | name text =>
      exact ⟨rfl, held_output (.name text) draft.output draft.pending, by simp [Draft.operand]⟩
  | opening =>
      refine ⟨rfl, ?_, by simp [Draft.opened]⟩
      simp [Draft.opened, held, explicit, contributes]
  | closing next closed => exact closed_effect draft next closed
  | plus fresh => exact sign_effect draft '+' .plus fresh rfl rfl
  | minus fresh => exact sign_effect draft '-' .minus fresh rfl rfl
  | operation token operates value => exact operation_effect draft token operates value

/-! All tokens -/

theorem bind_ok (outcome : Except ε α) (next : α → Except ε β) (last : β) :
    outcome >>= next = .ok last ↔ ∃ middle, outcome = .ok middle ∧ next middle = .ok last := by
  cases outcome with
  | error fault =>
      constructor
      · rintro ⟨⟩
      · rintro ⟨middle, ⟨⟩, -⟩
  | ok middle =>
      constructor
      · intro run
        exact ⟨middle, rfl, run⟩
      · rintro ⟨_, ⟨⟩, run⟩
        exact run

theorem run_cons (token : Token) (rest : List Token) (draft last : Draft) :
    (token :: rest).foldlM Draft.step draft = .ok last ↔
      ∃ next, draft.step token = .ok next ∧ rest.foldlM Draft.step next = .ok last := by
  rw [List.foldlM_cons]
  exact bind_ok ..

theorem run_append (front rest : List Token) (draft last : Draft) :
    (front ++ rest).foldlM Draft.step draft = .ok last ↔
      ∃ middle, front.foldlM Draft.step draft = .ok middle ∧
        rest.foldlM Draft.step middle = .ok last := by
  rw [List.foldlM_append]
  exact bind_ok ..

theorem run_effect (tokens : List Token) (draft last : Draft)
    (run : tokens.foldlM Draft.step draft = .ok last) : Effect draft last tokens := by
  induction tokens generalizing draft with
  | nil =>
      cases run
      exact ⟨rfl, by simp [explicit], by simp⟩
  | cons token rest ih =>
      obtain ⟨next, step, run⟩ := (run_cons token rest draft last).mp run
      have first := step_effect draft next token step
      have later := ih next run
      have value : next.afterValue = endsOperand draft.afterValue token := first.afterValue
      refine ⟨?_, ?_, ?_⟩
      · rw [later.afterValue, value]
        rfl
      · have whole := later.held.trans (first.held.append_right _)
        simpa [explicit, value] using whole
      · have one := first.depth
        have more := later.depth
        simp only [List.count_cons, List.count_nil] at one more ⊢
        omega

theorem finish_iff (draft : Draft) (output : List Token) :
    draft.finish = .ok output ↔
      release (· != .opening) draft.output draft.pending = (output, []) := by
  simp only [Draft.finish]
  generalize release (· != .opening) draft.output draft.pending = result
  obtain ⟨put, left⟩ := result
  cases left <;> simp

theorem finish_ok (draft : Draft) (output : List Token) (finish : draft.finish = .ok output) :
    output.Perm (held draft.output draft.pending) ∧ draft.pending.count .opening = 0 := by
  have all := (finish_iff draft output).mp finish
  rcases release_opening draft.output draft.pending with
    ⟨put, left, kept, none⟩ | ⟨put, below, left, -, -⟩
  · cases left.symm.trans all
    exact ⟨kept, none⟩
  · cases left.symm.trans all

theorem ofTokens_ok (tokens program : List Token) :
    ofTokens tokens = .ok program ↔
      ∃ draft, tokens.foldlM Draft.step .start = .ok draft ∧ draft.finish = .ok program.reverse := by
  have reversed (outcome : Except (Stop Draft) (List Token)) :
      (outcome.mapError Stop.fault).map List.reverse = .ok program ↔
        outcome = .ok program.reverse := by
    cases outcome with
    | error stop => constructor <;> rintro ⟨⟩
    | ok output => simp [Except.mapError, Except.map, List.reverse_eq_iff]
  rw [ofTokens_outcome, reversed]
  exact bind_ok ..

theorem converted_perm (tokens program : List Token) (converted : ofTokens tokens = .ok program) :
    program.Perm (explicit false tokens) := by
  obtain ⟨draft, run, finish⟩ := (ofTokens_ok tokens program).mp converted
  have held := (run_effect tokens .start draft run).held
  have put := (finish_ok draft _ finish).1
  exact program.reverse_perm.symm.trans (put.trans held)

def isInstruction : Token → Bool
  | .number _ => true
  | .name _ => true
  | .bang => true
  | .operator _ => true
  | _ => false

theorem contributes_instructions (after : Bool) (token : Token) :
    ∀ other ∈ contributes after token, isInstruction other = true := by
  cases token with
  | operator op => cases op <;> cases after <;> simp [contributes, isInstruction]
  | _ => simp [contributes, isInstruction]

theorem explicit_instructions (after : Bool) (tokens : List Token) :
    ∀ token ∈ explicit after tokens, isInstruction token = true := by
  induction tokens generalizing after with
  | nil => simp [explicit]
  | cons first rest ih =>
      intro token member
      rcases List.mem_append.mp member with now | later
      · exact contributes_instructions after first token now
      · exact ih _ token later

theorem converted_instructions (tokens program : List Token)
    (converted : ofTokens tokens = .ok program) :
    ∀ token ∈ program, isInstruction token = true := by
  intro token member
  have inside := (converted_perm tokens program converted).mem_iff.mp member
  exact explicit_instructions false tokens token inside

theorem converted_executable (tokens program : List Token)
    (converted : ofTokens tokens = .ok program) : executable program = program := by
  apply List.filter_eq_self.mpr
  intro token member
  have instruction := converted_instructions tokens program converted token member
  have acts : token ≠ .ending := by
    rintro rfl
    cases instruction
  simpa using acts

/-- No more parentheses close than are open at any point, and in the end all are closed; `depth` are
open at the start. -/
structure Balanced (depth : Nat) (tokens : List Token) : Prop where
  opened : ∀ front, front <+: tokens → front.count .closing ≤ depth + front.count .opening
  closed : tokens.count .closing = depth + tokens.count .opening

theorem converted_balanced (tokens program : List Token)
    (converted : ofTokens tokens = .ok program) : Balanced 0 tokens := by
  obtain ⟨draft, run, finish⟩ := (ofTokens_ok tokens program).mp converted
  constructor
  · rintro front ⟨rest, rfl⟩
    obtain ⟨middle, start, -⟩ := (run_append front rest .start draft).mp run
    have depth := (run_effect front .start middle start).depth
    simp only [Draft.start, List.count_nil] at depth
    omega
  · have depth := (run_effect tokens .start draft run).depth
    have none := (finish_ok draft _ finish).2
    simp only [Draft.start, List.count_nil] at depth
    omega

end RationalCalc.Rpn
