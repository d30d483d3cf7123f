import RationalCalc.Proofs.Reachability
import RationalCalc.Proofs.Reuse

/-!
A call that is repeated at once. The second call asks every pool for what the first has asked it for,
and so it gets the buffers that the first gave back, provided they were kept. A list that is full of
buffers too small for a call keeps none that the call had to make, and the next call has to make it
again. The value pool has room whenever it may keep anything, for nobody asks it for less than the
machine does.
-/

namespace RationalCalc

namespace Trip

def loan (trip : Trip α) (shelf : Shelf) : Loan :=
  ⟨shelf, trip.lease.buffer.serial, trip.lease.recycled, trip.back.capacity⟩

def lent (trip : Trip α) (shelf : Shelf) : Event :=
  .lent shelf trip.lease.buffer.serial trip.lease.recycled

def returned (trip : Trip α) (shelf : Shelf) : Event :=
  .returned shelf trip.back.serial trip.back.capacity

end Trip

/-- A request for no more than every buffer has is served by any free buffer, so that a fresh one is
made for an empty list only. -/
theorem Pool.Supplied.room {ceiling maxFree least : Nat} {pool : Pool α} {trip : Trip α}
    (supplied : pool.Supplied ceiling maxFree least) (lent : trip.From pool least)
    (allowed : 0 < maxFree) :
    pool.free.length + trip.lease.fresh ≤ maxFree := by
  have few := supplied.stocked.few
  rcases lent.cases with ⟨buffer, free, served, -⟩ | ⟨⟨serial, served⟩, small⟩
  · rw [served]
    exact few
  · have bare : pool.free = [] := List.eq_nil_iff_forall_not_mem.mpr fun buffer member =>
      Nat.not_le_of_lt (small buffer member) (supplied.wide buffer member)
    rw [served, bare]
    exact allowed

namespace Evaluator

/-! A call that gets as far as the machine -/

def recycledOn (shelf : Shelf) (events : List Event) : List Bool :=
  events.filterMap fun
    | .lent place _ recycled => if place = shelf then some recycled else none
    | _ => none

def capacitiesOn (shelf : Shelf) (events : List Event) : List Nat :=
  events.filterMap fun
    | .returned place _ capacity => if place = shelf then some capacity else none
    | _ => none

structure Round where
  tokens : Trip Token
  output : Trip Token
  pending : Trip Token
  values : Trip Rat

namespace Round

def loans (round : Round) : List Loan :=
  [round.tokens.loan .tokens, round.output.loan .rpn, round.pending.loan .rpn,
    round.values.loan .values]

def fresh (round : Round) : Nat :=
  round.tokens.lease.fresh + (Pair.fresh round.output round.pending + round.values.lease.fresh)

def events (round : Round) (cut program : List Token) : List Event :=
  [round.tokens.returned .tokens, round.output.returned .rpn, round.pending.returned .rpn,
    round.values.returned .values, round.values.lent .values, .converted program,
    round.pending.lent .rpn, round.output.lent .rpn, .lexed cut, round.tokens.lent .tokens]

/-- The buffers are lent to a call on this text, and each is given back by the stage that took it. -/
structure Serves (round : Round) (text : String) (before after : Evaluator) : Prop where
  tokens : round.tokens.From before.tokens (Work.tokenRoom before.limits text)
  output : round.output.From before.rpn (Lexer.lex text).tokens.length
  pending : round.pending.From round.output.lease.pool Work.stackCapacity
  values : round.values.From before.values Work.stackCapacity
  left : after =
    { limits := before.limits
      tokens := round.tokens.lease.pool.release round.tokens.back
      rpn := Pair.settled round.output round.pending
      values := round.values.lease.pool.release round.values.back
      made := before.made + round.fresh }

structure Shown (round : Round) (events : List Event) : Prop where
  lent : ∀ shelf, lentOn shelf events = (Loan.on shelf round.loans).map (·.serial)
  recycled : ∀ shelf, recycledOn shelf events = (Loan.on shelf round.loans).map (·.recycled)
  returned : ∀ shelf,
    capacitiesOn shelf events = (Loan.on shelf round.loans.reverse).map (·.capacity)

theorem shown (round : Round) (cut program : List Token) (text : String)
    (outcome : Except Fault Rat) :
    round.Shown ((round.events cut program).reverse ++ [.answered text outcome]) where
  lent shelf := by cases shelf <;> rfl
  recycled shelf := by cases shelf <;> rfl
  returned shelf := by cases shelf <;> rfl

end Round

namespace Work

variable {limits : Limits}

def trip (lease : Lease α) (most : Nat) (items : List α) : Trip α where
  lease := lease
  back := lease.buffer.leaving most items
  same := rfl
  grew := Buffer.capacity_le_grown ..

theorem made_fresh (lease : Lease α) (made : Nat) :
    (if lease.recycled then made else made + 1) = made + lease.fresh := by
  cases recycled : lease.recycled with
  | true => simp [Lease.fresh, recycled]
  | false => simp [Lease.fresh, recycled]

theorem borrow_leads (work : Work) (place : Place α) (capacity : Nat) :
    Leads work (borrow place capacity) fun buffer after => ∃ lease : Lease α,
      lease = (place.pool work.evaluator).acquire capacity work.evaluator.made ∧
      buffer = lease.buffer ∧ after =
        ⟨{ place.put work.evaluator lease.pool with made := work.evaluator.made + lease.fresh },
          .lent place.shelf lease.buffer.serial lease.recycled :: work.events⟩ := by
  refine ⟨_, rfl, rfl, ?_⟩
  rw [← made_fresh]
  rfl

theorem note_leads (work : Work) (event : Event) :
    Leads work (note event) fun _ after => after = ⟨work.evaluator, event :: work.events⟩ :=
  rfl

theorem run_leads (work : Work) (program : List Token) :
    Leads work (run limits program) fun _ after => ∃ values : Trip Rat,
      values.From work.evaluator.values stackCapacity ∧
      after = ⟨{ work.evaluator with
          values := values.lease.pool.release values.back
          made := work.evaluator.made + values.lease.fresh },
        values.returned .values :: values.lent .values :: work.events⟩ := by
  refine leads_bind (borrow_leads work valuePlace stackCapacity) ?_
  rintro _ _ ⟨lease, took, rfl, rfl⟩
  dsimp only
  generalize Rpn.runFrom limits _ program = course
  cases course.outcome with
  | error stop => exact ⟨trip lease course.peak stop.state, ⟨_, took⟩, rfl⟩
  | ok value => exact ⟨trip lease course.peak [], ⟨_, took⟩, rfl⟩

theorem convert_leads (work : Work) (tokens : List Token) :
    Leads work (convert limits tokens) fun answer after => answer.isOk = true →
      ∃ (output pending : Trip Token) (values : Trip Rat) (program : List Token),
      output.From work.evaluator.rpn tokens.length ∧
      pending.From output.lease.pool stackCapacity ∧
      values.From work.evaluator.values stackCapacity ∧
      after = ⟨{ work.evaluator with
          rpn := Pair.settled output pending
          values := values.lease.pool.release values.back
          made := work.evaluator.made + (Pair.fresh output pending + values.lease.fresh) },
        output.returned .rpn :: pending.returned .rpn :: values.returned .values ::
          values.lent .values :: .converted program :: pending.lent .rpn :: output.lent .rpn ::
            work.events⟩ := by
  refine leads_bind (borrow_leads work rpnPlace tokens.length) ?_
  rintro _ _ ⟨first, tookFirst, rfl, rfl⟩
  refine leads_bind (borrow_leads _ rpnPlace stackCapacity) ?_
  rintro _ _ ⟨second, tookSecond, rfl, rfl⟩
  dsimp only
  generalize Rpn.convertFrom _ tokens = course
  cases course.outcome with
  | error stop => exact fun failed => absurd failed Bool.false_ne_true
  | ok program =>
      refine leads_bind (note_leads _ (.converted program.reverse)) ?_
      rintro _ _ rfl
      refine leads_bind (run_leads _ program.reverse) ?_
      rintro outcome _ ⟨values, fromValues, rfl⟩ -
      refine ⟨trip first program.length [], trip second course.peak [], values, program.reverse,
        ⟨_, tookFirst⟩, ⟨_, tookSecond⟩, fromValues, ?_⟩
      simp only [Pair.fresh, ← Nat.add_assoc]
      rfl

theorem compute_leads (work : Work) (text : String) (clean : work.evaluator.tokens.Clean) :
    Leads work (compute work.evaluator.limits text) fun answer after => answer.isOk = true →
      ∃ (round : Round) (cut program : List Token),
        round.Serves text work.evaluator after.evaluator ∧
        after.events = round.events cut program ++ work.events := by
  refine leads_bind (borrow_leads work tokenPlace (tokenRoom work.evaluator.limits text)) ?_
  rintro _ _ ⟨lease, took, rfl, rfl⟩
  have empty : lease.buffer.items = [] := took ▸ (Pool.acquire_clean _ _ _ clean).1
  simp only [empty, List.append_nil, Buffer.holding_items, List.reverse_reverse]
  cases (Lexer.lex text).fault with
  | some fault => exact fun failed => absurd failed Bool.false_ne_true
  | none =>
      refine leads_bind (note_leads _ (.lexed (Lexer.lex text).tokens)) ?_
      rintro _ _ rfl
      refine leads_bind (convert_leads _ (Lexer.lex text).tokens) ?_
      rintro outcome converted through succeeds
      obtain ⟨output, pending, values, program, fromOutput, fromPending, fromValues, rfl⟩ :=
        through succeeds
      let filled := trip lease (Lexer.lex text).tokens.reverse.length []
      refine ⟨⟨filled, output, pending, values⟩, (Lexer.lex text).tokens, program,
        ⟨⟨_, took⟩, fromOutput, fromPending, fromValues, ?_⟩, ?_⟩
      · simp only [Round.fresh, ← Nat.add_assoc]
        rfl
      · rfl

end Work

theorem evaluate_round {evaluator : Evaluator} (text : String) (clean : evaluator.tokens.Clean)
    (succeeds : (evaluator.evaluate text).outcome.isOk = true) :
    ∃ round : Round, round.Serves text evaluator (evaluator.evaluate text).evaluator ∧
      round.Shown (evaluator.evaluate text).events := by
  obtain ⟨round, cut, program, serves, events⟩ :=
    Work.compute_leads ⟨evaluator, []⟩ text clean succeeds
  refine ⟨round, serves, ?_⟩
  rw [List.append_nil] at events
  simp only [evaluate]
  have shown := round.shown cut program text (evaluator.evaluate text).outcome
  rw [← events] at shown
  exact shown

/-! The same text again -/

/-- A free list has room for the buffers that a call has made for it. -/
def HasRoom (evaluator : Evaluator) (call : Call) (shelf : Shelf) : Prop :=
  evaluator.freeOn shelf + (recycledOn shelf call.events).count false ≤ evaluator.limits.maxFree

/-- The converter's buffers can be replaced: both have come back with room for the tokens of the
text, so that either could be the output, and two of those that were free before could be the stack. -/
def HasSubstitutes (evaluator : Evaluator) (text : String) (call : Call) : Prop :=
  (∀ capacity ∈ capacitiesOn .rpn call.events, (Lexer.lex text).tokens.length ≤ capacity) ∧
    2 ≤ Pool.wideFree Work.stackCapacity evaluator.rpn

structure Recycles (evaluator : Evaluator) (call : Call) : Prop where
  tokens : recycledOn .tokens call.events = [true]
  rpn : recycledOn .rpn call.events = [true, true]
  values : recycledOn .values call.events = [true]
  made : call.evaluator.made = evaluator.made

theorem count_fresh (lease : Lease α) : [lease.recycled].count false = lease.fresh := by
  cases recycled : lease.recycled with
  | true => simp [Lease.fresh, recycled]
  | false => simp [Lease.fresh, recycled]

namespace Round

variable {round : Round} {text : String} {evaluator : Evaluator} {call : Call}

theorem recycles_iff (serves : round.Serves text evaluator call.evaluator)
    (shown : round.Shown call.events) :
    Recycles evaluator call ↔ round.tokens.lease.recycled = true ∧
      (round.output.lease.recycled = true ∧ round.pending.lease.recycled = true) ∧
      round.values.lease.recycled = true := by
  constructor
  · rintro ⟨tokens, rpn, values, -⟩
    have one : [round.tokens.lease.recycled] = [true] := (shown.recycled .tokens).symm.trans tokens
    have two : [round.output.lease.recycled, round.pending.lease.recycled] = [true, true] :=
      (shown.recycled .rpn).symm.trans rpn
    have last : [round.values.lease.recycled] = [true] := (shown.recycled .values).symm.trans values
    obtain ⟨output, pending⟩ := List.cons.inj two
    exact ⟨List.singleton_inj.mp one, ⟨output, List.singleton_inj.mp pending⟩,
      List.singleton_inj.mp last⟩
  · rintro ⟨tokens, ⟨output, pending⟩, values⟩
    constructor
    · rw [shown.recycled, ← tokens]
      rfl
    · rw [shown.recycled]
      exact congrArg₂ (fun first second => [first, second]) output pending
    · rw [shown.recycled, ← values]
      rfl
    · rw [serves.left]
      simp [Round.fresh, Pair.fresh, Lease.fresh, tokens, output, pending, values]

theorem hasRoom_tokens (shown : round.Shown call.events) :
    HasRoom evaluator call .tokens ↔
      evaluator.tokens.free.length + round.tokens.lease.fresh ≤ evaluator.limits.maxFree := by
  rw [HasRoom, shown.recycled, ← count_fresh]
  rfl

theorem hasRoom_rpn (shown : round.Shown call.events) :
    HasRoom evaluator call .rpn ↔
      evaluator.rpn.free.length + Pair.fresh round.output round.pending ≤
        evaluator.limits.maxFree := by
  rw [HasRoom, shown.recycled, Pair.fresh, ← count_fresh, ← count_fresh, ← List.count_append]
  rfl

theorem hasSubstitutes_iff (serves : round.Serves text evaluator call.evaluator)
    (shown : round.Shown call.events) :
    HasSubstitutes evaluator text call ↔
      (Lexer.lex text).tokens.length ≤ round.pending.back.capacity ∧
        2 ≤ Pool.wideFree Work.stackCapacity evaluator.rpn := by
  have returned : capacitiesOn .rpn call.events =
      [round.pending.back.capacity, round.output.back.capacity] := shown.returned .rpn
  rw [HasSubstitutes, returned]
  rw [List.forall_mem_cons, List.forall_mem_singleton, and_iff_left serves.output.wide]

structure Low (ceiling : Nat) (round : Round) : Prop where
  tokens : round.tokens.back.capacity ≤ ceiling
  output : round.output.back.capacity ≤ ceiling
  pending : round.pending.back.capacity ≤ ceiling
  values : round.values.back.capacity ≤ ceiling

theorem low_of_shown {ceiling : Nat} (shown : round.Shown call.events)
    (low : ∀ shelf, ∀ capacity ∈ capacitiesOn shelf call.events, capacity ≤ ceiling) :
    round.Low ceiling := by
  have returned (shelf : Shelf) := shown.returned shelf ▸ low shelf
  have rpn := List.forall_mem_cons.mp (returned .rpn)
  exact ⟨returned .tokens _ (List.mem_singleton_self _), rpn.2 _ (List.mem_singleton_self _), rpn.1,
    returned .values _ (List.mem_singleton_self _)⟩

theorem Serves.pair {ceiling : Nat} {after : Evaluator}
    (serves : round.Serves text evaluator after) (low : round.Low ceiling) :
    Pair evaluator.rpn ceiling (Lexer.lex text).tokens.length Work.stackCapacity
      round.output round.pending :=
  ⟨serves.output, serves.pending, low.output, low.pending⟩

end Round

structure Repeats (limits : Limits) (text : String) (before between after : Evaluator)
    (round next : Round) : Prop where
  supplied : Supplied limits before
  serves : round.Serves text before between
  low : round.Low limits.poolCeiling
  again : next.Serves text between after

namespace Repeats

variable {limits : Limits} {text : String} {before between after : Evaluator} {round next : Round}

theorem tokens_again (repeats : Repeats limits text before between after round next) :
    next.tokens.lease.recycled = true ↔
      before.tokens.free.length + round.tokens.lease.fresh ≤ limits.maxFree := by
  obtain ⟨serial, took⟩ := repeats.again.tokens
  rw [repeats.serves.left] at took
  rw [took]
  exact repeats.serves.tokens.recycled_again repeats.supplied.tokens.stocked repeats.low.tokens serial

theorem rpn_again (repeats : Repeats limits text before between after round next) :
    next.output.lease.recycled = true ∧ next.pending.lease.recycled = true ↔
      before.rpn.free.length + Pair.fresh round.output round.pending ≤ limits.maxFree ∨
        (Lexer.lex text).tokens.length ≤ round.pending.back.capacity ∧
          2 ≤ Pool.wideFree Work.stackCapacity before.rpn := by
  obtain ⟨serial, took⟩ := repeats.again.output
  obtain ⟨other, tookNext⟩ := repeats.again.pending
  rw [repeats.serves.left] at took
  rw [tookNext, took]
  exact (repeats.serves.pair repeats.low).recycled_again repeats.supplied.rpn.stocked serial other

theorem rpn_allowed (repeats : Repeats limits text before between after round next)
    (rpn : before.rpn.free.length + Pair.fresh round.output round.pending ≤ limits.maxFree ∨
      (Lexer.lex text).tokens.length ≤ round.pending.back.capacity ∧
        2 ≤ Pool.wideFree Work.stackCapacity before.rpn) : 0 < limits.maxFree := by
  rcases rpn with room | ⟨-, two⟩
  · have length := (repeats.serves.pair repeats.low).length
    omega
  · have few := repeats.supplied.rpn.stocked.few
    have among : Pool.wideFree Work.stackCapacity before.rpn ≤ before.rpn.free.length :=
      List.countP_le_length
    omega

theorem values_again (repeats : Repeats limits text before between after round next)
    (allowed : 0 < limits.maxFree) (serial : Nat) :
    between.values.acquire Work.stackCapacity serial =
      ⟨round.values.back.emptied, true,
        ⟨limits.poolCeiling, limits.maxFree, round.values.lease.pool.free⟩⟩ := by
  have values := repeats.serves.values
  rw [repeats.serves.left]
  exact values.again repeats.supplied.values.stocked repeats.low.values
    (repeats.supplied.values.room values allowed) serial

theorem lent_again (repeats : Repeats limits text before between after round next)
    (roomTokens : before.tokens.free.length + round.tokens.lease.fresh ≤ limits.maxFree)
    (roomRpn : before.rpn.free.length + Pair.fresh round.output round.pending ≤ limits.maxFree)
    (shelf : Shelf) :
    (Loan.on shelf next.loans).map (·.serial) = (Loan.on shelf round.loans).map (·.serial) := by
  obtain ⟨supplied, serves, low, again⟩ := repeats
  cases shelf with
  | tokens =>
      obtain ⟨serial, took⟩ := again.tokens
      rw [serves.left] at took
      have tokens := took.trans
        (serves.tokens.again supplied.tokens.stocked low.tokens roomTokens serial)
      have same := (congrArg (·.buffer.serial) tokens).trans round.tokens.same
      exact congrArg (fun serial => [serial]) same
  | rpn =>
      obtain ⟨first, took⟩ := again.output
      obtain ⟨second, tookNext⟩ := again.pending
      rw [serves.left] at took
      rw [took] at tookNext
      obtain ⟨output, pending⟩ :=
        (serves.pair low).again supplied.rpn.stocked roomRpn first second
      have same := (congrArg (·.buffer.serial) (took.trans output)).trans round.output.same
      have sameNext := (congrArg (·.buffer.serial) (tookNext.trans pending)).trans round.pending.same
      exact congrArg₂ (fun serial other => [serial, other]) same sameNext
  | values =>
      obtain ⟨serial, took⟩ := again.values
      have repeats : Repeats limits text before between after round next :=
        ⟨supplied, serves, low, again⟩
      have values := took.trans (repeats.values_again (repeats.rpn_allowed (.inl roomRpn)) serial)
      have same := (congrArg (·.buffer.serial) values).trans round.values.same
      exact congrArg (fun serial => [serial]) same

end Repeats

/-- A call of a reachable evaluator that succeeds, with no buffer above the ceiling in the end, is
repeated at once. Its buffers, one for tokens, two of the converter's and one for values, are then all
taken from the free lists exactly if those for tokens and for the converter have room for what the
first call made, or that for the converter has substitutes instead. With room in both, each stage is
lent the very buffer that it had before. -/
theorem evaluate_recycles {limits : Limits} {evaluator : Evaluator} (text : String)
    (reachable : Reachable limits evaluator)
    (succeeds : (evaluator.evaluate text).outcome.isOk = true)
    (low : ∀ shelf, ∀ capacity ∈ capacitiesOn shelf (evaluator.evaluate text).events,
      capacity ≤ limits.poolCeiling) :
    let call := evaluator.evaluate text
    let again := call.evaluator.evaluate text
    (Recycles call.evaluator again ↔
      HasRoom evaluator call .tokens ∧
        (HasRoom evaluator call .rpn ∨ HasSubstitutes evaluator text call)) ∧
    (HasRoom evaluator call .tokens → HasRoom evaluator call .rpn →
      ∀ shelf, lentOn shelf again.events = lentOn shelf call.events) := by
  intro call again
  have supplied := reachable_supplied reachable
  obtain ⟨outcome, ready⟩ := evaluate_ready text supplied.ready
  have succeedsAgain : again.outcome.isOk = true := by
    rw [(evaluate_ready text ready).1, ← outcome]
    exact succeeds
  obtain ⟨round, serves, shown⟩ := evaluate_round text supplied.ready.tokens succeeds
  obtain ⟨next, servesAgain, shownAgain⟩ := evaluate_round text ready.tokens succeedsAgain
  have repeats : Repeats limits text evaluator call.evaluator again.evaluator round next :=
    ⟨supplied, serves, Round.low_of_shown shown low, servesAgain⟩
  obtain rfl := supplied.own
  rw [Round.hasRoom_tokens shown, Round.hasRoom_rpn shown, Round.hasSubstitutes_iff serves shown]
  constructor
  · rw [Round.recycles_iff servesAgain shownAgain, repeats.tokens_again, repeats.rpn_again]
    -- of the value pool nothing is asked
    refine and_congr_right fun _ => and_iff_left_of_imp fun rpn => ?_
    obtain ⟨serial, took⟩ := servesAgain.values
    rw [took, repeats.values_again (repeats.rpn_allowed rpn) serial]
  · intro tokens rpn shelf
    rw [shownAgain.lent, shown.lent]
    exact repeats.lent_again tokens rpn shelf

/-- Lists of three have room for two buffers made before and one made now. In lists of two the output
buffer of the longer text is dropped, but a stack for sixteen operators can replace it. -/
theorem evaluate_recycles_texts :
    (let limits := { Limits.standard with maxFree := 3 }
     let evaluator := (new limits).after ["1"]
     let call := evaluator.evaluate "1+1"
     let again := call.evaluator.evaluate "1+1"
     Reachable limits evaluator ∧ call.outcome.isOk = true ∧
      (∀ shelf, ∀ capacity ∈ capacitiesOn shelf call.events, capacity ≤ limits.poolCeiling) ∧
      Recycles call.evaluator again ∧
      ∀ shelf, lentOn shelf again.events = lentOn shelf call.events) ∧
    (let limits := { Limits.standard with maxFree := 2 }
     let evaluator := (new limits).after ["1+1+1+1"]
     let call := evaluator.evaluate "---------1"
     let again := call.evaluator.evaluate "---------1"
     Reachable limits evaluator ∧ call.outcome.isOk = true ∧
      (∀ shelf, ∀ capacity ∈ capacitiesOn shelf call.events, capacity ≤ limits.poolCeiling) ∧
      Recycles call.evaluator again ∧ ¬HasRoom evaluator call .rpn) := by
  constructor
  · intro limits evaluator call again
    have reachable : Reachable limits evaluator := after_reachable ["1"] .refl
    have succeeds : call.outcome.isOk = true := by decide +kernel
    have low : ∀ shelf, ∀ capacity ∈ capacitiesOn shelf call.events,
        capacity ≤ limits.poolCeiling := by
      intro shelf
      cases shelf <;> decide +kernel
    have room (shelf : Shelf) : HasRoom evaluator call shelf := by
      unfold HasRoom
      cases shelf <;> decide +kernel
    obtain ⟨recycles, same⟩ := evaluate_recycles "1+1" reachable succeeds low
    exact ⟨reachable, succeeds, low, recycles.mpr ⟨room .tokens, .inl (room .rpn)⟩,
      same (room .tokens) (room .rpn)⟩
  · intro limits evaluator call again
    have reachable : Reachable limits evaluator := after_reachable ["1+1+1+1"] .refl
    have succeeds : call.outcome.isOk = true := by decide +kernel
    have low : ∀ shelf, ∀ capacity ∈ capacitiesOn shelf call.events,
        capacity ≤ limits.poolCeiling := by
      intro shelf
      cases shelf <;> decide +kernel
    have room : HasRoom evaluator call .tokens := by
      unfold HasRoom
      decide +kernel
    have crowded : ¬HasRoom evaluator call .rpn := by
      unfold HasRoom
      decide +kernel
    have substitutes : HasSubstitutes evaluator "---------1" call := by
      unfold HasSubstitutes
      decide +kernel
    obtain ⟨recycles, -⟩ := evaluate_recycles "---------1" reachable succeeds low
    exact ⟨reachable, succeeds, low, recycles.mpr ⟨room, .inr substitutes⟩, crowded⟩

/-- Two short texts leave lists of two full of buffers that are too small for the third. There is no
room for those that it makes, and so it makes them again the next time. -/
theorem full_lists_make_again :
    let limits := { Limits.standard with maxFree := 2 }
    let evaluator := (new limits).after ["1", "12"]
    let call := evaluator.evaluate "1+1"
    let again := call.evaluator.evaluate "1+1"
    Reachable limits evaluator ∧ 2 ≤ limits.maxFree ∧ call.outcome.isOk = true ∧
      (∀ shelf, ∀ capacity ∈ capacitiesOn shelf call.events, capacity ≤ limits.poolCeiling) ∧
      recycledOn .tokens again.events = [false] ∧ recycledOn .rpn again.events = [true, false] ∧
      ¬Recycles call.evaluator again := by
  intro limits evaluator call again
  have made : recycledOn .tokens again.events = [false] := by decide +kernel
  refine ⟨after_reachable ["1", "12"] .refl, Nat.le_refl 2, ?_, ?_, made, ?_, ?_⟩
  · decide +kernel
  · intro shelf
    cases shelf <;> decide +kernel
  · decide +kernel
  · intro recycles
    rw [recycles.tokens] at made
    exact absurd made (by decide)

end Evaluator

end RationalCalc
