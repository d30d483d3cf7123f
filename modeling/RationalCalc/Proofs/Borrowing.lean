import RationalCalc.Proofs.Custody
import RationalCalc.Proofs.Transparency

/-!
What an evaluation borrows. Each stage takes its buffers when it begins and gives them back when it
ends, whichever way that is, the last one first. Every pool is followed from loan to loan: the numbers
of the buffers that are out and of the free ones all differ, and there are no fewer of them than there
were free buffers at the beginning, unless one of those was taken out and came back too large to be
kept.
-/

namespace RationalCalc

/-- A buffer lent in the course of a call, and its capacity when it came back. -/
structure Loan where
  shelf : Shelf
  serial : Nat
  recycled : Bool
  capacity : Nat

namespace Loan

/-- A free buffer was taken out, and it is too large to be kept. -/
def Lost (ceiling : Nat) (loan : Loan) : Prop :=
  loan.recycled = true ∧ ceiling < loan.capacity

def on (shelf : Shelf) (loans : List Loan) : List Loan :=
  loans.filter (·.shelf = shelf)

theorem on_same (loan : Loan) {shelf : Shelf} (same : loan.shelf = shelf) (loans : List Loan) :
    on shelf (loan :: loans) = loan :: on shelf loans :=
  List.filter_cons_of_pos (decide_eq_true same)

theorem on_other (loan : Loan) {shelf : Shelf} (other : loan.shelf ≠ shelf) (loans : List Loan) :
    on shelf (loan :: loans) = on shelf loans :=
  List.filter_cons_of_neg (by simpa using other)

end Loan

/-! One pool -/

def Lease.loan (lease : Lease α) (shelf : Shelf) : Loan :=
  ⟨shelf, lease.buffer.serial, lease.recycled, lease.buffer.capacity⟩

namespace Pool

variable {ceiling maxFree before made : Nat} {lent back : List Loan}

/-- A pool in the course of a call that found `before` free buffers: `lent` are the loans that last,
`back` those that have ended. -/
structure Lending (ceiling maxFree before made : Nat) (lent back : List Loan) (pool : Pool α) :
    Prop where
  stocked : pool.Stocked ceiling maxFree
  tracked : pool.Tracked made (lent.map (·.serial))
  began : before ≤ maxFree
  enough : (∃ loan ∈ back, loan.Lost ceiling) ∨
    before ≤ pool.free.length + lent.countP (·.recycled)

theorem Lending.later {pool : Pool α} {after : Nat}
    (lending : pool.Lending ceiling maxFree before made lent back) (le : made ≤ after) :
    pool.Lending ceiling maxFree before after lent back :=
  { lending with tracked := lending.tracked.later le }

theorem Lending.perm {pool : Pool α} {lent' : List Loan}
    (lending : pool.Lending ceiling maxFree before made lent back) (same : lent'.Perm lent) :
    pool.Lending ceiling maxFree before made lent' back where
  stocked := lending.stocked
  tracked := lending.tracked.perm (same.map _)
  began := lending.began
  enough := by
    rw [same.countP_eq]
    exact lending.enough

theorem Lending.rested {pool : Pool α} (lending : pool.Lending ceiling maxFree before made lent back) :
    pool.Lending ceiling maxFree pool.free.length made [] [] where
  stocked := lending.stocked
  tracked := lending.tracked.moved _ (.refl _)
  began := lending.stocked.few
  enough := .inr (Nat.le_refl _)

theorem Lending.shrunk {pool : Pool α} (lending : pool.Lending ceiling maxFree before made [] back)
    (fewer : pool.free.length < before) : ∃ loan ∈ back, loan.Lost ceiling :=
  lending.enough.resolve_right (Nat.not_le_of_lt fewer)

theorem empty_lending (ceiling maxFree made : Nat) :
    (empty ceiling maxFree : Pool α).Lending ceiling maxFree 0 made [] [] :=
  ⟨empty_stocked, empty_tracked _ _ _, Nat.zero_le _, .inr (Nat.le_refl _)⟩

theorem acquire_lending {pool : Pool α} (shelf : Shelf) (capacity : Nat)
    (lending : pool.Lending ceiling maxFree before made lent back) :
    let lease := pool.acquire capacity made
    lease.buffer.items = [] ∧
      lease.pool.Lending ceiling maxFree before (if lease.recycled then made else made + 1)
        (lease.loan shelf :: lent) back := by
  intro lease
  have stocked := acquire_stocked pool capacity made lending.stocked
  have tracked := acquire_tracked capacity lending.tracked
  have empty := (acquire_clean pool capacity made fun buffer free =>
    (lending.stocked.spare buffer free).1).1
  refine ⟨empty, stocked, tracked, lending.began, lending.enough.imp_right fun le => ?_⟩
  -- a buffer that leaves the free list is one of the recycled
  rcases acquire_cases pool capacity made with ⟨buffer, free, served, same, -⟩ | ⟨served, -⟩
  · have fewer := same.length_eq
    simp only [lease, served, List.length_cons, List.countP_cons, Lease.loan, ↓reduceIte] at fewer le ⊢
    omega
  · simpa [lease, served, Lease.loan] using le

theorem release_lending {pool : Pool α} (buffer : Buffer α) (loan : Loan)
    (same : loan.serial = buffer.serial)
    (lending : pool.Lending ceiling maxFree before made (loan :: lent) back) :
    (pool.release buffer).Lending ceiling maxFree before made lent
      ({ loan with capacity := buffer.capacity } :: back) := by
  have stocked := release_stocked pool buffer lending.stocked
  have tracked := lending.tracked
  rw [List.map_cons, same] at tracked
  refine ⟨stocked, release_tracked buffer tracked, lending.began, ?_⟩
  obtain ⟨limit, most⟩ := lending.stocked.bounds
  have began := lending.began
  have earlier (lost : ∃ ended ∈ back, ended.Lost ceiling) :
      ∃ ended ∈ { loan with capacity := buffer.capacity } :: back, ended.Lost ceiling :=
    lost.imp fun _ found => found.imp_left (List.mem_cons_of_mem _)
  rcases release_cases pool buffer with ⟨large | full, dropped⟩ | ⟨-, kept⟩
  · rcases lending.enough with lost | le
    · exact .inl (earlier lost)
    · by_cases recycled : loan.recycled = true
      · exact .inl ⟨_, List.mem_cons_self .., recycled, limit ▸ large⟩
      · exact .inr (by simpa [dropped, recycled] using le)
  · -- the list is full, and was never longer
    rw [dropped]
    exact .inr (by omega)
  · rw [kept]
    refine lending.enough.imp earlier fun le => ?_
    simp only [List.length_cons, List.countP_cons] at le ⊢
    split at le <;> omega

end Pool

namespace Evaluator

/-! The three pools -/

def freeOn (evaluator : Evaluator) : Shelf → Nat
  | .tokens => evaluator.tokens.free.length
  | .rpn => evaluator.rpn.free.length
  | .values => evaluator.values.free.length

variable {limits : Limits} {before : Shelf → Nat} {lent back lent' back' : List Loan}

def Follows (limits : Limits) (before : Shelf → Nat) (lent back : List Loan) (made : Nat)
    (shelf : Shelf) (pool : Pool α) : Prop :=
  pool.Lending limits.poolCeiling limits.maxFree (before shelf) made (Loan.on shelf lent)
    (Loan.on shelf back)

def Apart (shelf : Shelf) (loans loans' : List Loan) : Prop :=
  ∀ other, shelf ≠ other → Loan.on other loans' = Loan.on other loans

theorem Follows.other {pool : Pool α} {shelf other : Shelf} {made later : Nat}
    (follows : Follows limits before lent back made other pool) (le : made ≤ later)
    (out : Apart shelf lent lent') (ended : Apart shelf back back') (differ : shelf ≠ other) :
    Follows limits before lent' back' later other pool := by
  rw [Follows, out other differ, ended other differ]
  exact Pool.Lending.later follows le

structure Lending (limits : Limits) (before : Shelf → Nat) (lent back : List Loan)
    (evaluator : Evaluator) : Prop where
  own : evaluator.limits = limits
  tokens : Follows limits before lent back evaluator.made .tokens evaluator.tokens
  rpn : Follows limits before lent back evaluator.made .rpn evaluator.rpn
  values : Follows limits before lent back evaluator.made .values evaluator.values

/-- A place whose pool can be followed, and exchanged without a change to the others. -/
structure Place.Followed (place : Place α) : Prop where
  pool : ∀ {limits before lent back evaluator}, Lending limits before lent back evaluator →
    Follows limits before lent back evaluator.made place.shelf (place.pool evaluator)
  made : ∀ evaluator pool, (place.put evaluator pool).made = evaluator.made
  put : ∀ {limits before lent back lent' back' evaluator pool made},
    Lending limits before lent back evaluator → evaluator.made ≤ made →
    Apart place.shelf lent lent' → Apart place.shelf back back' →
    Follows limits before lent' back' made place.shelf pool →
    Lending limits before lent' back' { place.put evaluator pool with made }

theorem tokenPlace_followed : tokenPlace.Followed where
  pool lending := lending.tokens
  made _ _ := rfl
  put lending le out ended follows :=
    ⟨lending.own, follows, lending.rpn.other le out ended (by decide),
      lending.values.other le out ended (by decide)⟩

theorem rpnPlace_followed : rpnPlace.Followed where
  pool lending := lending.rpn
  made _ _ := rfl
  put lending le out ended follows :=
    ⟨lending.own, lending.tokens.other le out ended (by decide), follows,
      lending.values.other le out ended (by decide)⟩

theorem valuePlace_followed : valuePlace.Followed where
  pool lending := lending.values
  made _ _ := rfl
  put lending le out ended follows :=
    ⟨lending.own, lending.tokens.other le out ended (by decide),
      lending.rpn.other le out ended (by decide), follows⟩

/-! Taking and putting back -/

section Place

variable {place : Place α} (followed : place.Followed) {evaluator : Evaluator}
include followed

theorem borrow_lending (capacity : Nat) (events : List Event)
    (lending : Lending limits before lent back evaluator) :
    let lease := (place.pool evaluator).acquire capacity evaluator.made
    lease.buffer.items = [] ∧ Lending limits before (lease.loan place.shelf :: lent) back
      (Work.borrow place capacity ⟨evaluator, events⟩).2.evaluator := by
  intro lease
  obtain ⟨empty, follows⟩ := Pool.acquire_lending place.shelf capacity (followed.pool lending)
  have own : (lease.loan place.shelf).shelf = place.shelf := rfl
  refine ⟨empty, followed.put lending ?_ ?_ ?_ ?_⟩
  · split <;> omega
  · exact fun other differ => Loan.on_other _ differ lent
  · exact fun other differ => rfl
  · rw [Follows, Loan.on_same _ own]
    exact follows

theorem giveBack_lending (buffer : Buffer α) (loan : Loan) (own : loan.shelf = place.shelf)
    (same : loan.serial = buffer.serial) (events : List Event)
    (lending : Lending limits before (loan :: lent) back evaluator) :
    Lending limits before lent ({ loan with capacity := buffer.capacity } :: back)
      (Work.giveBack place buffer ⟨evaluator, events⟩).2.evaluator := by
  have follows := followed.pool lending
  rw [Follows, Loan.on_same loan own] at follows
  refine followed.put lending (Nat.le_of_eq (followed.made ..).symm) ?_ ?_ ?_
  · exact fun other differ => (Loan.on_other loan (own ▸ differ) lent).symm
  · exact fun other differ => Loan.on_other _ (own ▸ differ) back
  · rw [followed.made, Follows, Loan.on_same { loan with capacity := buffer.capacity } own]
    exact Pool.release_lending buffer loan same follows

end Place

/-! What is written down -/

def lentOn (shelf : Shelf) (events : List Event) : List Nat :=
  events.filterMap fun
    | .lent place serial _ => if place = shelf then some serial else none
    | _ => none

def returnedOn (shelf : Shelf) (events : List Event) : List Nat :=
  events.filterMap fun
    | .returned place serial _ => if place = shelf then some serial else none
    | _ => none

theorem lentOn_append (shelf : Shelf) (first second : List Event) :
    lentOn shelf (first ++ second) = lentOn shelf first ++ lentOn shelf second :=
  List.filterMap_append

theorem returnedOn_append (shelf : Shelf) (first second : List Event) :
    returnedOn shelf (first ++ second) = returnedOn shelf first ++ returnedOn shelf second :=
  List.filterMap_append

/-- The events tell of these loans and of no others. -/
structure Told (lent back : List Loan) (events : List Event) : Prop where
  begun : ∀ shelf, (lentOn shelf events).Perm ((Loan.on shelf (lent ++ back)).map (·.serial))
  ended : ∀ shelf, (returnedOn shelf events).Perm ((Loan.on shelf back).map (·.serial))
  loans : ∀ loan ∈ lent ++ back, .lent loan.shelf loan.serial loan.recycled ∈ events
  returns : ∀ loan ∈ back, .returned loan.shelf loan.serial loan.capacity ∈ events

theorem Told.perm {events events' : List Event} (told : Told lent back events)
    (same : events.Perm events') : Told lent back events' where
  begun shelf := (same.filterMap _).symm.trans (told.begun shelf)
  ended shelf := (same.filterMap _).symm.trans (told.ended shelf)
  loans loan member := same.subset (told.loans loan member)
  returns loan member := same.subset (told.returns loan member)

theorem told_plain {events : List Event} (event : Event)
    (plain : ∀ shelf, lentOn shelf [event] = [] ∧ returnedOn shelf [event] = [])
    (told : Told lent back events) : Told lent back (event :: events) where
  begun shelf := by
    have same : lentOn shelf (event :: events) = lentOn shelf events := by
      rw [← List.singleton_append, lentOn_append, (plain shelf).1, List.nil_append]
    exact same ▸ told.begun shelf
  ended shelf := by
    have same : returnedOn shelf (event :: events) = returnedOn shelf events := by
      rw [← List.singleton_append, returnedOn_append, (plain shelf).2, List.nil_append]
    exact same ▸ told.ended shelf
  loans loan member := List.mem_cons_of_mem _ (told.loans loan member)
  returns loan member := List.mem_cons_of_mem _ (told.returns loan member)

theorem told_lent (loan : Loan) (events : List Event) (told : Told lent back events) :
    Told (loan :: lent) back (.lent loan.shelf loan.serial loan.recycled :: events) where
  begun shelf := by
    by_cases same : loan.shelf = shelf
    · simpa [lentOn, same, Loan.on_same loan same] using told.begun shelf
    · simpa [lentOn, same, Loan.on_other loan same] using told.begun shelf
  ended := told.ended
  loans := List.forall_mem_cons.mpr ⟨List.mem_cons_self .., fun other member =>
    List.mem_cons_of_mem _ (told.loans other member)⟩
  returns other member := List.mem_cons_of_mem _ (told.returns other member)

theorem told_returned (loan : Loan) (capacity : Nat) (events : List Event)
    (told : Told (loan :: lent) back events) :
    Told lent ({ loan with capacity } :: back)
      (.returned loan.shelf loan.serial capacity :: events) where
  begun shelf := by
    have same : (Loan.on shelf (loan :: lent ++ back)).map (·.serial) =
        (Loan.on shelf ({ loan with capacity } :: lent ++ back)).map (·.serial) := by
      by_cases own : loan.shelf = shelf <;> simp [Loan.on, own]
    have moved : (lent ++ { loan with capacity } :: back).Perm
        ({ loan with capacity } :: lent ++ back) := List.perm_middle
    exact (same ▸ told.begun shelf).trans ((moved.filter _).map _).symm
  ended shelf := by
    by_cases own : loan.shelf = shelf
    · simpa [returnedOn, own, Loan.on] using told.ended shelf
    · simpa [returnedOn, own, Loan.on] using told.ended shelf
  loans other member := by
    rcases List.mem_cons.mp (List.perm_middle.subset member) with rfl | old
    · exact List.mem_cons_of_mem _ (told.loans loan (List.mem_cons_self ..))
    · exact List.mem_cons_of_mem _ (told.loans other (List.mem_cons_of_mem _ old))
  returns := List.forall_mem_cons.mpr ⟨List.mem_cons_self .., fun other member =>
    List.mem_cons_of_mem _ (told.returns other member)⟩

namespace Work

structure Booked (limits : Limits) (before : Shelf → Nat) (lent back : List Loan) (work : Work) :
    Prop where
  pools : Lending limits before lent back work.evaluator
  told : Told lent back work.events

/-- What an action makes of a state. -/
def Leads (work : Work) (action : StateM Work α) (result : α → Work → Prop) : Prop :=
  result (action work).1 (action work).2

theorem leads_bind {work : Work} {first : StateM Work α} {next : α → StateM Work β}
    {middle : α → Work → Prop} {result : β → Work → Prop} (one : Leads work first middle)
    (two : ∀ value later, middle value later → Leads later (next value) result) :
    Leads work (first >>= next) result :=
  two _ _ one

theorem note_booked {work : Work} (event : Event)
    (plain : ∀ shelf, lentOn shelf [event] = [] ∧ returnedOn shelf [event] = [])
    (booked : Booked limits before lent back work) :
    Leads work (note event) fun _ after => Booked limits before lent back after :=
  ⟨booked.pools, told_plain event plain booked.told⟩

theorem borrow_booked {work : Work} (place : Place α) (followed : place.Followed) (capacity : Nat)
    (booked : Booked limits before lent back work) :
    Leads work (borrow place capacity) fun buffer after => buffer.items = [] ∧
      ∃ loan : Loan, loan.shelf = place.shelf ∧ loan.serial = buffer.serial ∧
        Booked limits before (loan :: lent) back after := by
  obtain ⟨empty, lending⟩ := borrow_lending followed capacity work.events booked.pools
  exact ⟨empty, _, rfl, rfl, lending, told_lent _ _ booked.told⟩

theorem giveBack_booked {work : Work} (place : Place α) (followed : place.Followed)
    (buffer : Buffer α) (loan : Loan) (own : loan.shelf = place.shelf)
    (same : loan.serial = buffer.serial) (booked : Booked limits before (loan :: lent) back work) :
    Leads work (giveBack place buffer) fun _ after => ∃ ended : Loan,
      ended.shelf = place.shelf ∧ ended.serial = loan.serial ∧
        Booked limits before lent (ended :: back) after := by
  have lending := giveBack_lending followed buffer loan own same work.events booked.pools
  refine ⟨{ loan with capacity := buffer.capacity }, own, rfl, lending, ?_⟩
  have told := told_returned loan buffer.capacity work.events booked.told
  simp only [giveBack, ← own, ← same]
  exact told

/-! The stages -/

theorem run_booked {work : Work} (program : List Token)
    (booked : Booked limits before lent back work) :
    Leads work (run limits program) fun _ after =>
      ∃ loan : Loan, loan.shelf = .values ∧ Booked limits before lent (loan :: back) after := by
  refine leads_bind (borrow_booked valuePlace valuePlace_followed stackCapacity booked) ?_
  rintro stack opened ⟨-, loan, own, same, booked⟩
  dsimp only
  -- with a value or with a fault, the stack goes back before the answer
  cases (Rpn.runFrom limits stack.items program).outcome with
  | error stop =>
      refine leads_bind (giveBack_booked valuePlace valuePlace_followed _ loan own same booked) ?_
      exact fun _ after ⟨ended, own, _, booked⟩ => ⟨ended, own, booked⟩
  | ok value =>
      refine leads_bind (giveBack_booked valuePlace valuePlace_followed _ loan own same booked) ?_
      exact fun _ after ⟨ended, own, _, booked⟩ => ⟨ended, own, booked⟩

/-- The loans of a conversion: two for the converter, and that of the machine, if there is a program
for it to run. -/
structure Converting (converted : Except Fault (List Token)) (output pending : Loan)
    (machine : List Loan) : Prop where
  own : output.shelf = .rpn ∧ pending.shelf = .rpn
  differ : output.serial ≠ pending.serial
  ran : machine.map (·.shelf) = List.replicate converted.isOk.toNat .values

theorem converter_booked {work : Work} {converted : Except Fault (List Token)}
    {output pending : Loan} {machine : List Loan} (outputBuffer pendingBuffer : Buffer Token)
    (answer : Except Fault Rat) (loans : Converting converted output pending machine)
    (outputSame : output.serial = outputBuffer.serial)
    (pendingSame : pending.serial = pendingBuffer.serial)
    (booked : Booked limits before (pending :: output :: lent) (machine ++ back) work) :
    Leads work (do giveBack rpnPlace pendingBuffer; giveBack rpnPlace outputBuffer; return answer)
      fun _ after => ∃ output pending machine, Converting converted output pending machine ∧
        Booked limits before lent (output :: pending :: machine ++ back) after := by
  refine leads_bind (giveBack_booked rpnPlace rpnPlace_followed pendingBuffer pending loans.own.2
    pendingSame booked) ?_
  rintro - between ⟨second, secondOwn, secondSame, booked⟩
  refine leads_bind (giveBack_booked rpnPlace rpnPlace_followed outputBuffer output loans.own.1
    outputSame booked) ?_
  rintro - after ⟨first, firstOwn, firstSame, booked⟩
  have differ : first.serial ≠ second.serial := by
    rw [firstSame, secondSame]
    exact loans.differ
  exact ⟨first, second, machine, ⟨⟨firstOwn, secondOwn⟩, differ, loans.ran⟩, booked⟩

theorem convert_booked {work : Work} (tokens : List Token)
    (booked : Booked limits before lent back work) :
    Leads work (convert limits tokens) fun _ after => ∃ output pending machine,
      Converting (Rpn.ofTokens tokens) output pending machine ∧
        Booked limits before lent (output :: pending :: machine ++ back) after := by
  refine leads_bind (borrow_booked rpnPlace rpnPlace_followed tokens.length booked) ?_
  rintro outputBuffer _ ⟨blank, output, (outputOwn : _ = Shelf.rpn), outputSame, booked⟩
  refine leads_bind (borrow_booked rpnPlace rpnPlace_followed stackCapacity booked) ?_
  rintro pendingBuffer _ ⟨empty, pending, (pendingOwn : _ = Shelf.rpn), pendingSame, booked⟩
  have differ : output.serial ≠ pending.serial := by
    have once := booked.pools.rpn.tracked.once
    rw [Loan.on_same pending pendingOwn, Loan.on_same output outputOwn] at once
    simp only [List.map_cons, List.cons_append, List.nodup_cons, List.mem_cons, not_or] at once
    exact Ne.symm once.1.1
  rw [blank, empty]
  simp only [Rpn.ofTokens, Course.answer, Rpn.Draft.start]
  cases (Rpn.convertFrom ⟨[], [], false, false⟩ tokens).outcome with
  | error stop =>
      have idle : ([] : List Loan).map (·.shelf) = [] := rfl
      exact converter_booked _ _ (.error stop.fault) ⟨⟨outputOwn, pendingOwn⟩, differ, idle⟩
        outputSame pendingSame booked
  | ok program =>
      refine leads_bind (note_booked _ (fun _ => ⟨rfl, rfl⟩) booked) ?_
      rintro - _ booked
      refine leads_bind (run_booked program.reverse booked) ?_
      rintro outcome _ ⟨value, valueOwn, booked⟩
      have ran : [value].map (·.shelf) = [.values] := by rw [List.map_singleton, valueOwn]
      exact converter_booked _ _ outcome ⟨⟨outputOwn, pendingOwn⟩, differ, ran⟩
        outputSame pendingSame booked

/-- The loans of a call: one buffer for the tokens, two more if the text can be cut into tokens, and
a last one if those can be converted. -/
structure Computing (text : String) (loans : List Loan) : Prop where
  tokens : (Loan.on .tokens loans).length = 1
  rpn : (Loan.on .rpn loans).length = 2 * (Lexer.tokenize text).isOk.toNat
  values : (Loan.on .values loans).length = (Lexer.tokenize text >>= Rpn.ofTokens).isOk.toNat
  once : ∀ shelf, ((Loan.on shelf loans).map (·.serial)).Nodup

theorem stopped_computing (text : String) (fault : Fault) (loan : Loan) (own : loan.shelf = .tokens)
    (failed : Lexer.tokenize text = .error fault) : Computing text [loan] where
  tokens := by simp [Loan.on, own]
  rpn := by simp [Loan.on, own, failed, Except.isOk, Except.toBool]
  values := by simp [Loan.on, own, failed, Except.isOk, Except.toBool, bind, Except.bind]
  once shelf := by cases shelf <;> simp [Loan.on, own]

theorem converted_computing (text : String) (tokens : List Token) (loan output pending : Loan)
    (machine : List Loan) (own : loan.shelf = .tokens) (lexed : Lexer.tokenize text = .ok tokens)
    (loans : Converting (Rpn.ofTokens tokens) output pending machine) :
    Computing text (loan :: output :: pending :: machine) := by
  obtain ⟨⟨outputOwn, pendingOwn⟩, differ, ran⟩ := loans
  have through : (Lexer.tokenize text >>= Rpn.ofTokens).isOk = (Rpn.ofTokens tokens).isOk := by
    rw [lexed]
    rfl
  have cut : (Lexer.tokenize text).isOk = true := by
    rw [lexed]
    rfl
  cases converted : (Rpn.ofTokens tokens).isOk with
  | false =>
      have none : machine = [] := by simpa [converted] using ran
      subst none
      constructor
      · simp [Loan.on, own, outputOwn, pendingOwn]
      · simp [Loan.on, own, outputOwn, pendingOwn, cut]
      · simp [Loan.on, own, outputOwn, pendingOwn, through, converted]
      · intro shelf
        cases shelf <;> simp [Loan.on, own, outputOwn, pendingOwn, differ]
  | true =>
      obtain ⟨value, rfl, valueOwn⟩ : ∃ value, machine = [value] ∧ value.shelf = .values := by
        simpa [converted, List.map_eq_singleton_iff] using ran
      constructor
      · simp [Loan.on, own, outputOwn, pendingOwn, valueOwn]
      · simp [Loan.on, own, outputOwn, pendingOwn, valueOwn, cut]
      · simp [Loan.on, own, outputOwn, pendingOwn, valueOwn, through, converted]
      · intro shelf
        cases shelf <;> simp [Loan.on, own, outputOwn, pendingOwn, valueOwn, differ]

theorem compute_booked {work : Work} (text : String) (booked : Booked limits before [] [] work) :
    Leads work (compute limits text) fun _ after => ∃ loans,
      Computing text loans ∧ Booked limits before [] loans after := by
  refine leads_bind (borrow_booked tokenPlace tokenPlace_followed (tokenRoom limits text) booked) ?_
  rintro buffer _ ⟨empty, loan, (own : _ = Shelf.tokens), same, booked⟩
  have lexed : Lexer.tokenize text = (Lexer.lex text).outcome := rfl
  simp only [empty, List.append_nil, Buffer.holding_items, List.reverse_reverse]
  cases failed : (Lexer.lex text).fault with
  | some fault =>
      rw [Lexer.Lexed.outcome, failed] at lexed
      refine leads_bind (giveBack_booked tokenPlace tokenPlace_followed _ loan own same booked) ?_
      rintro - after ⟨ended, endedOwn, -, booked⟩
      exact ⟨[ended], stopped_computing text fault ended endedOwn lexed, booked⟩
  | none =>
      rw [Lexer.Lexed.outcome, failed] at lexed
      refine leads_bind (note_booked _ (fun _ => ⟨rfl, rfl⟩) booked) ?_
      rintro - _ booked
      refine leads_bind (convert_booked (Lexer.lex text).tokens booked) ?_
      rintro outcome _ ⟨output, pending, machine, loans, booked⟩
      refine leads_bind (giveBack_booked tokenPlace tokenPlace_followed _ loan own same booked) ?_
      rintro - after ⟨ended, endedOwn, -, booked⟩
      rw [List.append_nil] at booked
      exact ⟨_, converted_computing text _ ended output pending machine endedOwn lexed loans, booked⟩

end Work

/-! Calls -/

def Rested (limits : Limits) (evaluator : Evaluator) : Prop :=
  Lending limits evaluator.freeOn [] [] evaluator

theorem Lending.rested {evaluator : Evaluator} (lending : Lending limits before lent back evaluator) :
    Rested limits evaluator :=
  ⟨lending.own, Pool.Lending.rested lending.tokens, Pool.Lending.rested lending.rpn,
    Pool.Lending.rested lending.values⟩

theorem evaluate_loans {evaluator : Evaluator} (text : String) (rested : Rested limits evaluator) :
    ∃ loans, Work.Computing text loans ∧ Told [] loans (evaluator.evaluate text).events ∧
      Lending limits evaluator.freeOn [] loans (evaluator.evaluate text).evaluator := by
  obtain rfl := rested.own
  have booked : Work.Booked evaluator.limits evaluator.freeOn [] [] ⟨evaluator, []⟩ :=
    ⟨rested, fun _ => .nil, fun _ => .nil, nofun, nofun⟩
  obtain ⟨loans, computing, after⟩ := Work.compute_booked text booked
  refine ⟨loans, computing, ?_, after.pools⟩
  -- the events are read in order, and the answer is the last
  have told := told_plain (.answered text (evaluator.evaluate text).outcome)
    (fun _ => ⟨rfl, rfl⟩) after.told
  have turned := told.perm (List.reverse_perm _).symm
  rw [List.reverse_cons] at turned
  exact turned

theorem Lending.shrunk {evaluator : Evaluator} (lending : Lending limits before [] back evaluator)
    (shelf : Shelf) (fewer : evaluator.freeOn shelf < before shelf) :
    ∃ loan ∈ back, loan.shelf = shelf ∧ loan.Lost limits.poolCeiling := by
  have lost : ∃ loan ∈ Loan.on shelf back, loan.Lost limits.poolCeiling := by
    cases shelf with
    | tokens => exact Pool.Lending.shrunk lending.tokens fewer
    | rpn => exact Pool.Lending.shrunk lending.rpn fewer
    | values => exact Pool.Lending.shrunk lending.values fewer
  obtain ⟨loan, member, lost⟩ := lost
  obtain ⟨among, own⟩ := List.mem_filter.mp member
  exact ⟨loan, among, of_decide_eq_true own, lost⟩

end Evaluator

end RationalCalc
