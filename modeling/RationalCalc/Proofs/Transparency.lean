import RationalCalc.Evaluator.Basic
import RationalCalc.Proofs.Pooling

/-!
Pools do not show in answers. An evaluator that has served any texts, with any outcomes, gives the
outcome of the plain composition of lexer, converter and machine. The invariant is that its free
buffers are empty; every stage keeps it on every way out, and works on empty buffers because of it.
-/

namespace RationalCalc.Evaluator

/-- The limits an evaluator was made with are still its own, and no free buffer holds anything. -/
structure Ready (limits : Limits) (evaluator : Evaluator) : Prop where
  limits : evaluator.limits = limits
  tokens : evaluator.tokens.Clean
  rpn : evaluator.rpn.Clean
  values : evaluator.values.Clean

structure Place.Sound (place : Place α) : Prop where
  clean : ∀ {limits evaluator}, Ready limits evaluator → (place.pool evaluator).Clean
  put : ∀ {limits evaluator pool made}, Ready limits evaluator → pool.Clean →
    Ready limits { place.put evaluator pool with made }

theorem tokenPlace_sound : tokenPlace.Sound where
  clean ready := ready.tokens
  put ready clean := ⟨ready.limits, clean, ready.rpn, ready.values⟩

theorem rpnPlace_sound : rpnPlace.Sound where
  clean ready := ready.rpn
  put ready clean := ⟨ready.limits, ready.tokens, clean, ready.values⟩

theorem valuePlace_sound : valuePlace.Sound where
  clean ready := ready.values
  put ready clean := ⟨ready.limits, ready.tokens, ready.rpn, clean⟩

namespace Work

/-- An action that a ready evaluator is ready after, and whose result is as stated. -/
def Keeps (limits : Limits) (action : StateM Work α) (result : α → Prop) : Prop :=
  ∀ work : Work, Ready limits work.evaluator →
    result (action work).1 ∧ Ready limits (action work).2.evaluator

variable {limits : Limits}

theorem keeps_pure (value : α) (result : α → Prop) (holds : result value) :
    Keeps limits (pure value) result :=
  fun _ ready => ⟨holds, ready⟩

theorem keeps_bind (first : StateM Work α) (next : α → StateM Work β) (middle : α → Prop)
    (result : β → Prop) (one : Keeps limits first middle)
    (two : ∀ value, middle value → Keeps limits (next value) result) :
    Keeps limits (first >>= next) result := by
  intro work ready
  obtain ⟨got, kept⟩ := one work ready
  exact two _ got _ kept

theorem note_keeps (event : Event) : Keeps limits (note event) fun _ => True :=
  fun _ ready => ⟨trivial, ready⟩

theorem borrow_keeps (place : Place α) (sound : place.Sound) (capacity : Nat) :
    Keeps limits (borrow place capacity) fun buffer => buffer.items = [] := by
  intro work ready
  have lent := Pool.acquire_clean (place.pool work.evaluator) capacity work.evaluator.made
    (sound.clean ready)
  exact ⟨lent.1, sound.put ready lent.2⟩

theorem giveBack_keeps (place : Place α) (sound : place.Sound) (buffer : Buffer α) :
    Keeps limits (giveBack place buffer) fun _ => True := by
  intro work ready
  have clean := Pool.release_clean (place.pool work.evaluator) buffer (sound.clean ready)
  exact ⟨trivial, sound.put ready clean⟩

theorem answer_keeps (place : Place α) (sound : place.Sound) (buffer : Buffer α)
    (next : StateM Work β) (result : β → Prop) (holds : Keeps limits next result) :
    Keeps limits (giveBack place buffer >>= fun _ => next) result :=
  keeps_bind _ _ _ _ (giveBack_keeps place sound buffer) fun _ _ => holds

theorem run_keeps (program : List Token) :
    Keeps limits (run limits program) (· = Rpn.evaluate program limits) := by
  refine keeps_bind _ _ _ _ (borrow_keeps valuePlace valuePlace_sound stackCapacity) ?_
  intro stack empty
  rw [empty]
  dsimp only
  -- with a value or with a fault, the stack goes back before the answer
  cases (Rpn.runFrom limits [] program).outcome with
  | error stop => exact answer_keeps valuePlace valuePlace_sound _ _ _ (keeps_pure _ _ rfl)
  | ok value => exact answer_keeps valuePlace valuePlace_sound _ _ _ (keeps_pure _ _ rfl)

theorem convert_keeps (tokens : List Token) :
    Keeps limits (convert limits tokens)
      (· = Rpn.ofTokens tokens >>= fun program => Rpn.evaluate program limits) := by
  refine keeps_bind _ _ _ _ (borrow_keeps rpnPlace rpnPlace_sound tokens.length) ?_
  intro output blank
  refine keeps_bind _ _ _ _ (borrow_keeps rpnPlace rpnPlace_sound stackCapacity) ?_
  intro pending empty
  rw [blank, empty]
  simp only [Rpn.ofTokens, Course.answer, Rpn.Draft.start]
  cases (Rpn.convertFrom ⟨[], [], false, false⟩ tokens).outcome with
  | error stop =>
      apply answer_keeps rpnPlace rpnPlace_sound
      apply answer_keeps rpnPlace rpnPlace_sound
      exact keeps_pure _ _ rfl
  | ok program =>
      refine keeps_bind _ _ _ _ (note_keeps _) fun _ _ => ?_
      refine keeps_bind _ _ _ _ (run_keeps program.reverse) ?_
      intro outcome computed
      apply answer_keeps rpnPlace rpnPlace_sound
      apply answer_keeps rpnPlace rpnPlace_sound
      exact keeps_pure _ _ computed

theorem compute_keeps (text : String) :
    Keeps limits (compute limits text) (· = RationalCalc.evaluate limits text) := by
  refine keeps_bind _ _ _ _ (borrow_keeps tokenPlace tokenPlace_sound (tokenRoom limits text)) ?_
  intro buffer empty
  simp only [empty, List.append_nil, Buffer.holding_items, List.reverse_reverse,
    RationalCalc.evaluate, Lexer.tokenize, Lexer.Lexed.outcome]
  cases (Lexer.lex text).fault with
  | some fault => exact answer_keeps tokenPlace tokenPlace_sound _ _ _ (keeps_pure _ _ rfl)
  | none =>
      refine keeps_bind _ _ _ _ (note_keeps _) fun _ _ => ?_
      refine keeps_bind _ _ _ _ (convert_keeps (Lexer.lex text).tokens) ?_
      intro outcome computed
      exact answer_keeps tokenPlace tokenPlace_sound _ _ _ (keeps_pure _ _ computed)

end Work

theorem new_ready (limits : Limits) : Ready limits (new limits) :=
  ⟨rfl, Pool.empty_clean _ _, Pool.empty_clean _ _, Pool.empty_clean _ _⟩

theorem evaluate_ready {limits : Limits} {evaluator : Evaluator} (text : String)
    (ready : Ready limits evaluator) :
    (evaluator.evaluate text).outcome = RationalCalc.evaluate limits text ∧
      Ready limits (evaluator.evaluate text).evaluator := by
  have computed := Work.compute_keeps text ⟨evaluator, []⟩ ready
  simp only [evaluate, ready.limits]
  exact computed

theorem after_ready {limits : Limits} {evaluator : Evaluator} (history : List String)
    (ready : Ready limits evaluator) : Ready limits (evaluator.after history) := by
  induction history generalizing evaluator with
  | nil => exact ready
  | cons text history ih => exact ih (evaluate_ready text ready).2

theorem evaluate_limits (limits : Limits) (ceiling maxFree places : Nat) (text : String) :
    RationalCalc.evaluate { limits with poolCeiling := ceiling, maxFree, places } text =
      RationalCalc.evaluate limits text := rfl

/-- After any history an evaluator answers like the plain composition of its stages, and so like any
other evaluator whose limits of digits are the same, whatever that one has served. -/
theorem evaluate_transparent (limits : Limits) (history : List String) (text : String) :
    (((new limits).after history).evaluate text).outcome = RationalCalc.evaluate limits text ∧
    ∀ (ceiling maxFree places : Nat) (other : List String),
      (((new { limits with poolCeiling := ceiling, maxFree, places }).after other).evaluate
        text).outcome = (((new limits).after history).evaluate text).outcome := by
  -- both sides are what the stages alone say, which no pool enters
  have answered (limits : Limits) (history : List String) :
      (((new limits).after history).evaluate text).outcome = RationalCalc.evaluate limits text :=
    (evaluate_ready text (after_ready history (new_ready limits))).1
  refine ⟨answered limits history, ?_⟩
  intro ceiling maxFree places other
  rw [answered, answered, evaluate_limits]

end RationalCalc.Evaluator
