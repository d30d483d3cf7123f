import RationalCalc.Proofs.Climbing
import RationalCalc.Rpn.Converter

/-!
The converter against precedence climbing. Where climbing has read a tree, the converter has read the
same tokens and holds that tree: what it put out, followed by the operators it still keeps above those
it found, is the tree's program. A sign is put on the stack whatever lies there, so strengths need not
grow along the stack; what holds instead is that all operators kept for a tree give way to the next
token, because climbing stopped at it.
-/

namespace RationalCalc.Rpn

open Climbing

/-! Strengths agree with bindings -/

/-- The operator before a right operand keeps off what belongs into that operand. -/
theorem yields_within (op : Operator) (token : Token) (joined : joins (rightLeast op) token = true) :
    yields token (.operator op) = false := by
  cases token with
  | operator other => cases op <;> cases other <;> first | rfl | cases joined
  | bang => cases op <;> first | rfl | cases joined
  | _ => cases joined

theorem yields_behind (op : Operator) (token : Token) (joined : joins 0 token = true)
    (stopped : joins (rightLeast op) token = false) : yields token (.operator op) = true := by
  cases token with
  | operator other => cases op <;> cases other <;> first | rfl | cases stopped
  | bang => cases op <;> first | rfl | cases stopped
  | _ => cases joined

theorem yields_within_sign (mark : Char) (token : Token)
    (joined : joins (signBinding + 1) token = true) : yields token (.sign mark) = false := by
  cases token with
  | operator op => cases op <;> first | rfl | cases joined
  | bang => rfl
  | _ => cases joined

theorem yields_behind_sign (mark : Char) (token : Token) (joined : joins 0 token = true)
    (stopped : joins (signBinding + 1) token = false) : yields token (.sign mark) = true := by
  cases token with
  | operator op => cases op <;> first | rfl | cases stopped
  | bang => cases stopped
  | _ => cases joined

theorem yields_behind_bang (token : Token) (joined : joins 0 token = true) :
    yields token .bang = true := by
  cases token with
  | operator op => cases op <;> rfl
  | bang => rfl
  | _ => cases joined

/-! Releasing -/

theorem release_all (leaves : Token → Bool) (output top pending : List Token)
    (all : ∀ token ∈ top, leaves token = true) :
    release leaves output (top ++ pending) =
      release leaves ((top.map released).reverse ++ output) pending := by
  induction top generalizing output with
  | nil => rfl
  | cons first top ih =>
      have leaving := all first (List.mem_cons_self ..)
      simp only [List.cons_append, release, leaving, ↓reduceIte]
      rw [ih _ fun token member => all token (List.mem_cons_of_mem first member)]
      simp

theorem release_none (leaves : Token → Bool) (output pending : List Token)
    (kept : ∀ token ∈ pending.head?, leaves token = false) :
    release leaves output pending = (output, pending) := by
  cases pending with
  | nil => rfl
  | cons first pending => simp [release, kept first (by simp)]

/-! Holding a tree -/

def Guards (least : Nat) (pending : List Token) : Prop :=
  ∀ top ∈ pending.head?, ∀ token, joins least token = true → yields token top = false

/-- After a tree was read from the draft `before`, with the tokens `rest` to come: the operators kept
for the tree lie on top of those that waited, and give way to the next token. -/
structure Holds (tree : Expression) (rest : List Token) (before after : Draft) : Prop where
  kept : ∃ top, after.pending = top ++ before.pending ∧
    (top.map released).reverse ++ after.output = tree.program.reverse ++ before.output ∧
    (∀ token ∈ top, token ≠ .opening) ∧
    ∀ next ∈ rest.head?, joins 0 next = true → ∀ token ∈ top, yields next token = true
  afterValue : after.afterValue = true
  ended : after.ended = false

theorem joins_zero (least : Nat) (token : Token) (joined : joins least token = true) :
    joins 0 token = true := by
  cases token <;> simp_all [joins]

theorem operation_holds (least : Nat) (tree : Expression) (next : Token) (rest : List Token)
    (before after : Draft) (guards : Guards least before.pending) (joined : joins least next = true)
    (holds : Holds tree (next :: rest) before after) :
    after.operation next = { output := tree.program.reverse ++ before.output,
                             pending := next :: before.pending,
                             afterValue := next == .bang, ended := false } := by
  obtain ⟨⟨top, waiting, put, -, giving⟩, -, ended⟩ := holds
  -- all that was kept for the tree leaves, and the guard stops what lies below
  have leaving := giving next (by simp) (joins_zero least next joined)
  have released : release (yields next) after.output after.pending =
      (tree.program.reverse ++ before.output, before.pending) := by
    rw [waiting, release_all _ _ _ _ leaving, put]
    exact release_none _ _ _ fun token head => guards token head next joined
  simp [Draft.operation, released, ended]

theorem holds_put (tree : Expression) (rest : List Token) (before after : Draft)
    (waiting : after.pending = before.pending)
    (put : after.output = tree.program.reverse ++ before.output)
    (value : after.afterValue = true) (ended : after.ended = false) :
    Holds tree rest before after :=
  ⟨⟨[], by simp [waiting, put]⟩, value, ended⟩

theorem holds_kept (tree last : Expression) (op : Token) (rest output : List Token)
    (before middle after : Draft) (waiting : middle.pending = op :: before.pending)
    (put : middle.output = output ++ before.output)
    (program : tree.program.reverse = released op :: (last.program.reverse ++ output))
    (inner : op ≠ .opening)
    (giving : ∀ next ∈ rest.head?, joins 0 next = true → yields next op = true)
    (holds : Holds last rest middle after) : Holds tree rest before after := by
  obtain ⟨⟨top, above, written, plain, leaving⟩, value, ended⟩ := holds
  -- the operator lies below what was kept for its operand, and so is put out after it
  refine ⟨⟨top ++ [op], ?_, ?_, ?_, ?_⟩, value, ended⟩
  · rw [above, waiting, List.append_assoc, List.singleton_append]
  · simp [written, put, program]
  · intro token member
    rcases List.mem_append.mp member with old | new
    · exact plain token old
    · rw [List.mem_singleton.mp new]
      exact inner
  · intro next head joined token member
    rcases List.mem_append.mp member with old | new
    · exact leaving next head joined token old
    · rw [List.mem_singleton.mp new]
      exact giving next head joined

/-- The converter gets from `tokens` to `rest` by way of the draft `middle`, and then holds the tree
above what waited in the draft `before`. -/
def Follows (before middle : Draft) (tokens : List Token) (tree : Expression) (rest : List Token) :
    Prop :=
  ∃ after, tokens.foldlM Draft.step middle = rest.foldlM Draft.step after ∧
    Holds tree rest before after

theorem follows_step (before middle next : Draft) (token : Token) (tokens : List Token)
    (tree : Expression) (rest : List Token) (step : middle.step token = .ok next)
    (later : Follows before next tokens tree rest) :
    Follows before middle (token :: tokens) tree rest := by
  obtain ⟨after, run, holds⟩ := later
  refine ⟨after, ?_, holds⟩
  rw [List.foldlM_cons, step]
  exact run

/-- A reader whose readings the converter follows, wherever an operand is awaited and the newest
operator that waits stays below it. -/
def Followed (least : Nat) (read : List Token → Reading) : Prop :=
  ∀ tokens tree rest before, read tokens = some (tree, rest) → before.afterValue = false →
    before.ended = false → Guards least before.pending → Follows before before tokens tree rest

/-! Operands -/

variable (climb : Nat → List Token → Reading)
variable (inner : ∀ least, Followed least (climb least))

include inner in
theorem sign_followed (op : Operator) (mark : Char) (tokens : List Token) (tree : Expression)
    (rest : List Token) (before : Draft) (becomes : released (.sign mark) = .operator op)
    (stopping : ∀ least tokens tree rest, climb least tokens = some (tree, rest) → stops least rest)
    (read : (climb (signBinding + 1) tokens).map (signed op) = some (tree, rest))
    (going : before.ended = false) : Follows before (before.signed mark) tokens tree rest := by
  obtain ⟨⟨x, behind⟩, found, same⟩ := Option.map_eq_some_iff.mp read
  cases same
  have guards : Guards (signBinding + 1) (before.signed mark).pending := by
    intro top head token joined
    cases head
    exact yields_within_sign mark token joined
  obtain ⟨after, run, holds⟩ := inner _ tokens x rest (before.signed mark) found rfl going guards
  have behind : ∀ next ∈ rest.head?, joins 0 next = true → yields next (.sign mark) = true := by
    intro next head joined
    exact yields_behind_sign mark next joined (stopping _ tokens x rest found next head)
  refine ⟨after, run, ?_⟩
  exact holds_kept _ x (.sign mark) rest [.number 0] before (before.signed mark) after rfl rfl
    (by simp [Expression.program, becomes]) (by simp) behind holds

theorem closed_holds (tree : Expression) (rest : List Token) (before after : Draft)
    (holds : Holds tree (.closing :: rest) before.opened after) :
    after.step .closing = .ok { output := tree.program.reverse ++ before.output,
                                pending := before.pending, afterValue := true, ended := false } := by
  obtain ⟨⟨top, waiting, put, plain, -⟩, -, ended⟩ := holds
  have leaving : ∀ token ∈ top, (token != .opening) = true := fun token member => by
    simpa using plain token member
  have released : release (· != .opening) after.output after.pending =
      (tree.program.reverse ++ before.output, .opening :: before.pending) := by
    rw [waiting, release_all _ _ _ _ leaving, put]
    exact release_none _ _ _ (by simp [Draft.opened])
  simp [Draft.step, Draft.closed, released, ended]

include inner in
theorem group_followed (tokens : List Token) (tree : Expression) (rest : List Token) (before : Draft)
    (read : climb 0 tokens = some (tree, .closing :: rest)) (going : before.ended = false) :
    Follows before before.opened tokens tree rest := by
  have guards : Guards 0 before.opened.pending := by
    intro top head token _
    cases head
    simp [yields]
  obtain ⟨after, run, holds⟩ := inner 0 tokens _ _ before.opened read rfl going guards
  refine ⟨⟨tree.program.reverse ++ before.output, before.pending, true, false⟩, ?_,
    holds_put tree rest before _ rfl rfl rfl rfl⟩
  rw [run, List.foldlM_cons, closed_holds tree rest before after holds]
  rfl

include inner in
theorem operand_followed (least : Nat)
    (stopping : ∀ least tokens tree rest, climb least tokens = some (tree, rest) → stops least rest) :
    Followed least (operand climb) := by
  intro tokens tree rest before read fresh going _
  cases tokens with
  | nil => cases read
  | cons first more =>
      cases first with
      | number value =>
          cases read
          have step : before.step (.number value) = .ok (before.operand (.number value)) := by
            simp [Draft.step, going]
          exact follows_step _ _ _ _ _ _ _ step ⟨_, rfl, holds_put _ _ _ _ rfl rfl rfl going⟩
      | name text =>
          cases read
          have step : before.step (.name text) = .ok (before.operand (.name text)) := by
            simp [Draft.step, going]
          exact follows_step _ _ _ _ _ _ _ step ⟨_, rfl, holds_put _ _ _ _ rfl rfl rfl going⟩
      | operator op =>
          cases op with
          | plus =>
              have step : before.step (.operator .plus) = .ok (before.signed '+') := by
                simp [Draft.step, going, fresh]
              exact follows_step _ _ _ _ _ _ _ step
                (sign_followed climb inner .plus '+' more tree rest before rfl stopping read going)
          | minus =>
              have step : before.step (.operator .minus) = .ok (before.signed '-') := by
                simp [Draft.step, going, fresh]
              exact follows_step _ _ _ _ _ _ _ step
                (sign_followed climb inner .minus '-' more tree rest before rfl stopping read going)
          | _ => cases read
      | opening =>
          simp only [operand] at read
          split at read
          · cases read
            have step : before.step .opening = .ok before.opened := by simp [Draft.step, going]
            exact follows_step _ _ _ _ _ _ _ step (group_followed climb inner more _ _ before ‹_› going)
          · cases read
      | _ => cases read

/-! Operators behind an operand -/

theorem bang_followed (least : Nat) (left : Expression) (rest : List Token) (before middle : Draft)
    (guards : Guards least before.pending) (joined : joins least .bang = true)
    (holds : Holds left (.bang :: rest) before middle) :
    ∃ next, middle.step .bang = .ok next ∧ Holds (.bang left) rest before next := by
  have step : middle.step .bang = .ok (middle.operation .bang) := by
    simp [Draft.step, holds.ended]
  refine ⟨_, step, ?_⟩
  rw [operation_holds least left .bang rest before middle guards joined holds]
  refine ⟨⟨[.bang], rfl, by simp [Expression.program, released], by simp, ?_⟩, rfl, rfl⟩
  intro next _ joined token member
  rw [List.mem_singleton.mp member]
  exact yields_behind_bang next joined

theorem operator_followed (climb : List Token → Reading) (least : Nat) (op : Operator)
    (left right : Expression) (more behind : List Token) (before middle : Draft)
    (inner : Followed (rightLeast op) climb) (guards : Guards least before.pending)
    (joined : joins least (.operator op) = true) (read : climb more = some (right, behind))
    (stopped : stops (rightLeast op) behind)
    (holds : Holds left (.operator op :: more) before middle) :
    Follows before middle (.operator op :: more) (.binary op left right) behind := by
  have put := operation_holds least left (.operator op) more before middle guards joined holds
  have step : middle.step (.operator op) = .ok (middle.operation (.operator op)) := by
    simp [Draft.step, holds.ended, holds.afterValue]
  rw [put] at step
  refine follows_step _ _ _ _ _ _ _ step ?_
  -- now the operator itself is the newest that waits, and guards the operand
  have within : Guards (rightLeast op) (.operator op :: before.pending) := by
    intro top head token joined
    cases head
    exact yields_within op token joined
  obtain ⟨after, run, held⟩ := inner more right behind
    ⟨left.program.reverse ++ before.output, .operator op :: before.pending, false, false⟩
    read rfl rfl within
  have giving : ∀ next ∈ behind.head?, joins 0 next = true → yields next (.operator op) = true :=
    fun next head joined => yields_behind op next joined (stopped next head)
  refine ⟨after, run, ?_⟩
  exact holds_kept _ right (.operator op) behind left.program.reverse before _ after rfl rfl
    (by simp [Expression.program, released]) (by simp) giving held

theorem extend_unjoined (bound least : Nat) (left : Expression) (tokens : List Token)
    (stopped : stops least tokens) : extend (bound + 1) least left tokens = some (left, tokens) := by
  cases tokens with
  | nil => rfl
  | cons first more =>
      have unjoined := (stops_cons least first more).mp stopped
      cases first <;> simp [extend, unjoined]

theorem climb_followed (bound : Nat) :
    (∀ least, Followed least (Climbing.climb bound least)) ∧
    (∀ least left tokens tree rest before middle, extend bound least left tokens = some (tree, rest) →
      Guards least before.pending → Holds left tokens before middle →
      Follows before middle tokens tree rest) := by
  -- climbing hands a held tree to extending, which hands a larger one back to itself
  induction bound with
  | zero => simp [Followed, Climbing.climb, extend]
  | succ bound ih =>
      obtain ⟨climbs, extends_⟩ := ih
      constructor
      · intro least tokens tree rest before read fresh going guards
        simp only [Climbing.climb] at read
        split at read
        · rename_i left behind first
          obtain ⟨middle, run, holds⟩ := operand_followed (Climbing.climb bound) climbs least
            (fun least tokens tree rest => climb_stops bound least tree tokens rest)
            tokens left behind before first fresh going guards
          obtain ⟨after, later, held⟩ :=
            extends_ least left behind tree rest before middle read guards holds
          exact ⟨after, run.trans later, held⟩
        · cases read
      · intro least left tokens tree rest before middle read guards holds
        by_cases stopped : stops least tokens
        · rw [extend_unjoined bound least left tokens stopped] at read
          cases read
          exact ⟨middle, rfl, holds⟩
        · cases tokens with
          | nil => exact absurd (stops_nil least) stopped
          | cons first more =>
              have joined : joins least first = true := by
                simpa [stops_cons] using stopped
              cases first with
              | bang =>
                  simp only [extend, joined, ↓reduceIte] at read
                  obtain ⟨next, step, held⟩ :=
                    bang_followed least left more before middle guards joined holds
                  exact follows_step _ _ _ _ _ _ _ step
                    (extends_ least _ more tree rest before next read guards held)
              | operator op =>
                  simp only [extend, joined, ↓reduceIte] at read
                  split at read
                  · rename_i right behind second
                    obtain ⟨next, run, held⟩ := operator_followed (Climbing.climb bound (rightLeast op))
                      least op left right more behind before middle (climbs _) guards joined second
                      (climb_stops bound _ right more behind second) holds
                    obtain ⟨after, later, done⟩ :=
                      extends_ least _ behind tree rest before next read guards held
                    exact ⟨after, run.trans later, done⟩
                  · cases read
              | _ => simp [joins] at joined

/-! The whole conversion -/

theorem ofTokens_outcome (tokens : List Token) :
    ofTokens tokens = (((tokens.foldlM Draft.step .start).bind Draft.finish).mapError Stop.fault).map
      List.reverse := by
  simp only [ofTokens, convertFrom, Course.answer, Course.ending, Course.run_outcome]

theorem finish_holds (tree : Expression) (after : Draft) (holds : Holds tree [] .start after) :
    Draft.finish { after with ended := true } = .ok tree.program.reverse := by
  obtain ⟨⟨top, waiting, put, plain, -⟩, -, -⟩ := holds
  have leaving : ∀ token ∈ top, (token != .opening) = true := fun token member => by
    simpa using plain token member
  have released : release (· != .opening) after.output after.pending = (tree.program.reverse, []) := by
    rw [waiting, release_all _ _ _ _ leaving, put]
    simp [release, Draft.start]
  simp [Draft.finish, released]

/-- A sentence is converted to the program of the tree that precedence climbing gives it. -/
theorem converted_sentence (tokens : List Token) (sentence : Sentence tokens) :
    ∃ tree, parse tokens = some tree ∧ ofTokens (tokens ++ [.ending]) = .ok tree.program := by
  obtain ⟨tree, parsed, read⟩ := parse_sentence tokens sentence
  refine ⟨tree, parsed, ?_⟩
  have guards : Guards 0 Draft.start.pending := by simp [Guards, Draft.start]
  obtain ⟨after, run, holds⟩ :=
    (climb_followed (tokens.length + 1)).1 0 tokens tree [] .start read rfl rfl guards
  have ended : (tokens ++ [Token.ending]).foldlM Draft.step .start =
      .ok { after with ended := true } := by
    rw [List.foldlM_append, run]
    simp [Draft.step, holds.ended, bind, Except.bind, pure, Except.pure]
  rw [ofTokens_outcome, ended]
  show ((Draft.finish { after with ended := true }).mapError Stop.fault).map List.reverse = _
  rw [finish_holds tree after holds]
  exact congrArg Except.ok tree.program.reverse_reverse

/-- A sign behind a power takes the one only: the product is no part of its operand. -/
theorem converted_sentence_sign :
    Sentence [.number 2, .operator (.power .caret), .operator .minus, .number 1, .operator .times,
        .number 4] ∧
      ∃ tree, parse [.number 2, .operator (.power .caret), .operator .minus, .number 1,
          .operator .times, .number 4] = some tree ∧
        ofTokens [.number 2, .operator (.power .caret), .operator .minus, .number 1,
          .operator .times, .number 4, .ending] = .ok tree.program := by
  have two : Sentence [.number 2] := .item _ (.intro [] _ 0 (by simp) (.number 2))
  have signedOne : Item [.operator .minus, .number 1] :=
    .intro [.minus] _ 0 (by simp [Operator.isSign]) (.number 1)
  have four : Item [.number 4] := .intro [] _ 0 (by simp) (.number 4)
  have sentence := Sentence.join _ .times _ (.join _ (.power .caret) _ two signedOne) four
  exact ⟨sentence, converted_sentence _ sentence⟩

example : parse [.number 2, .operator (.power .caret), .operator .minus, .number 1,
      .operator .times, .number 4] =
    some (.binary .times (.binary (.power .caret) (.number 2) (.binary .minus (.number 0) (.number 1)))
      (.number 4)) := by
  decide

end RationalCalc.Rpn
