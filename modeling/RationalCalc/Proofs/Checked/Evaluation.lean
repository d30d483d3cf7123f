import Mathlib.Data.List.DropRight
import RationalCalc.Evaluator.Basic
import RationalCalc.Proofs.Causes
import RationalCalc.Proofs.Checked.Arithmetic
import RationalCalc.Proofs.Checked.Reading

/-!
No operation is used outside of its domain. An evaluation in which every operation that has a domain is
checked comes, for every text and all limits, to the same answer, evaluator and events as one without
the checks, and so does the display of a value. What could go wrong is in the lexer, in the literals it
reads, in the operators, in the pools, and in the display; the converter has no such operation.
-/

namespace RationalCalc.Checked

/-! The machine -/

namespace Rpn

open RationalCalc.Rpn (piText eText lowered onlyValue)

def constant (text : String) : Guarded Rat := do
  match ← read? text.toList with
  | some value => return value
  | none => throw (.badLiteral text 0)

def resolve (name : String) : Guarded Rat :=
  if lowered name = ['p', 'i'] || name.toList = ['π'] then constant piText
  else if lowered name = ['e'] then constant eText
  else throw (.unknownName name)

def apply (op : Operator) (a b : Rat) (limits : Limits) : Guarded Rat :=
  match op with
  | .plus => return a + b
  | .minus => return a - b
  | .times => return a * b
  | .divide => Arithmetic.quotient a b
  | .power _ => Arithmetic.power a b limits
  | .floorDivide => Arithmetic.floorQuotient a b
  | .remainder => Arithmetic.remainder a b
  | .arrange _ => settled (RationalCalc.Arithmetic.arrangements a b limits)
  | .choose _ => Arithmetic.combinations a b limits

/-- A run of the machine: a state, or a fault with the state it left, unless there is a breach. -/
abbrev Running := ExceptT (Stop (List Rat)) (Except Breach)

def pushed (stack : List Rat) (result : Guarded Rat) : Running (List Rat) :=
  ExceptT.mk (RationalCalc.Rpn.pushed stack <$> result.run)

def execute (limits : Limits) (stack : List Rat) (token : Token) : Running (List Rat) :=
  match token, stack with
  | .name text, stack => pushed stack (resolve text)
  | .operator op, b :: a :: rest => pushed rest (apply op a b limits)
  | token, stack => settled (RationalCalc.Rpn.execute limits stack token)

def course (limits : Limits) (stack : List Rat) :
    List Token → Except Breach (Course (List Rat) (List Rat))
  | [] => .ok ⟨.ok stack, stack.length⟩
  | token :: rest => do
      match ← (execute limits stack token).run with
      | .error stop => return ⟨.error stop, stack.length⟩
      | .ok next =>
          let later ← course limits next rest
          return ⟨later.outcome, max stack.length later.peak⟩

def runFrom (limits : Limits) (stack : List Rat) (program : List Token) :
    Except Breach (Course (List Rat) Rat) := do
  let run ← course limits stack program
  return run.ending onlyValue

theorem constant_meets (text : String) : Meets (constant text) (Lexer.readLiteral text 0) := by
  refine meets_lift (read_ok text.toList) ?_
  rw [Lexer.readLiteral]
  cases Literal.read? text.toList with
  | some value => exact meets_pure value
  | none => exact meets_throw _

theorem resolve_meets (name : String) : Meets (resolve name) (RationalCalc.Rpn.resolve name) := by
  rw [RationalCalc.Rpn.resolve_reads]
  refine meets_ite (fun _ => constant_meets piText) fun _ => ?_
  exact meets_ite (fun _ => constant_meets eText) fun _ => meets_throw _

theorem apply_meets (op : Operator) (a b : Rat) (limits : Limits) :
    Meets (apply op a b limits) (RationalCalc.Rpn.apply op a b limits) := by
  cases op with
  | plus => exact meets_pure (a + b)
  | minus => exact meets_pure (a - b)
  | times => exact meets_pure (a * b)
  | divide => exact Arithmetic.quotient_meets a b
  | power mark => exact Arithmetic.power_meets a b limits _
  | floorDivide => exact Arithmetic.floorQuotient_meets a b
  | remainder => exact Arithmetic.remainder_meets a b
  | arrange letter => exact meets_settled _
  | choose letter => exact Arithmetic.combinations_meets a b limits _

theorem pushed_meets (stack : List Rat) {checked : Guarded Rat} {result : Except Fault Rat}
    (meets : Meets checked result) :
    Meets (pushed stack checked) (RationalCalc.Rpn.pushed stack result) := by
  rw [Meets, pushed, ExceptT.run_mk, meets]
  rfl

theorem execute_meets (limits : Limits) (stack : List Rat) (token : Token) :
    Meets (execute limits stack token) (RationalCalc.Rpn.execute limits stack token) := by
  unfold execute
  split
  · exact pushed_meets stack (resolve_meets _)
  · exact pushed_meets _ (apply_meets _ _ _ limits)
  · exact meets_settled _

theorem course_ok (limits : Limits) (program : List Token) (stack : List Rat) :
    course limits stack program =
      .ok (Course.run (RationalCalc.Rpn.execute limits) List.length stack program) := by
  induction program generalizing stack with
  | nil => rfl
  | cons token rest ih =>
      rw [course, Course.run, execute_meets limits stack token]
      cases RationalCalc.Rpn.execute limits stack token with
      | error stop => rfl
      | ok next => simp [ih, bind, Except.bind, pure, Except.pure]

theorem runFrom_ok (limits : Limits) (stack : List Rat) (program : List Token) :
    runFrom limits stack program = .ok (RationalCalc.Rpn.runFrom limits stack program) := by
  rw [runFrom, course_ok]
  rfl

end Rpn

/-! Pools -/

section Pools

def position? (capacity : Nat) (free : List (Buffer α)) : Option Nat :=
  free.findIdx? fun buffer => capacity ≤ buffer.capacity

def acquire (pool : Pool α) (capacity serial : Nat) : Except Breach (Lease α) :=
  match position? capacity pool.free with
  | some index => do
      let (buffer, free) ← swapRemove pool.free index
      return ⟨buffer, true, { pool with free }⟩
  | none => .ok ⟨.fresh serial capacity, false, pool⟩

variable (capacity : Nat) (newest : Buffer α) (rest : List (Buffer α))

theorem position_cons :
    position? capacity (newest :: rest) =
      if capacity ≤ newest.capacity then some 0 else (position? capacity rest).map (· + 1) := by
  rw [position?, List.findIdx?_cons]
  simp only [decide_eq_true_eq]
  rfl

theorem exchange_position (spare : Buffer α) (free : List (Buffer α)) :
    (position? capacity free = none → Pool.exchange capacity spare free = none) ∧
    ∀ index, position? capacity free = some index → ∃ inside : index < free.length,
      Pool.exchange capacity spare free =
        some (free.get ⟨index, inside⟩, free.set index spare) := by
  induction free with
  | nil =>
      refine ⟨fun _ => rfl, ?_⟩
      rintro _ ⟨⟩
  | cons first rest ih =>
      rw [position_cons, Pool.exchange]
      by_cases enough : capacity ≤ first.capacity
      · rw [if_pos enough, if_pos enough]
        constructor
        · rintro ⟨⟩
        · rintro _ ⟨⟩
          exact ⟨Nat.succ_pos _, rfl⟩
      · rw [if_neg enough, if_neg enough]
        constructor
        · intro missing
          rw [ih.1 (Option.map_eq_none_iff.mp missing)]
          rfl
        · intro index found
          obtain ⟨before, later, rfl⟩ := Option.map_eq_some_iff.mp found
          obtain ⟨inside, same⟩ := ih.2 before later
          exact ⟨Nat.succ_lt_succ inside, by rw [same]; rfl⟩

theorem acquire_ok (pool : Pool α) (capacity serial : Nat) :
    acquire pool capacity serial = .ok (pool.acquire capacity serial) := by
  rw [acquire, Pool.acquire]
  cases pool.free with
  | nil => rfl
  | cons newest rest =>
      rw [position_cons, Pool.pick]
      by_cases enough : capacity ≤ newest.capacity
      · rw [if_pos enough, if_pos enough]
        rfl
      · obtain ⟨missing, found⟩ := exchange_position capacity newest rest
        rw [if_neg enough, if_neg enough]
        cases position : position? capacity rest with
        | none =>
            rw [missing position]
            rfl
        | some index =>
            obtain ⟨inside, same⟩ := found index position
            rw [same]
            simp only [Option.map_some, swapRemove_ok inside]
            rfl

end Pools

/-! The evaluator -/

namespace Work

open Evaluator (Work Place tokenPlace rpnPlace valuePlace)
open Evaluator.Work (note giveBack stackCapacity tokenRoom)

abbrev Acting := StateT Work (Except Breach)

/-- An action without operations that have a domain. -/
def plainly (action : StateM Work α) : Acting α :=
  fun work => .ok (action work)

def borrow (place : Place α) (capacity : Nat) : Acting (Buffer α) := fun work => do
  let evaluator := work.evaluator
  let lease ← acquire (place.pool evaluator) capacity evaluator.made
  let made := if lease.recycled then evaluator.made else evaluator.made + 1
  return (lease.buffer,
    { evaluator := { place.put evaluator lease.pool with made }
      events := .lent place.shelf lease.buffer.serial lease.recycled :: work.events })

def run (limits : Limits) (program : List Token) : Acting (Except Fault Rat) := do
  let stack ← borrow valuePlace stackCapacity
  let course ← Rpn.runFrom limits stack.items program
  match course.outcome with
  | .error stop => plainly (giveBack valuePlace (stack.leaving course.peak stop.state))
  | .ok _ => plainly (giveBack valuePlace (stack.leaving course.peak []))
  return course.answer

def convert (limits : Limits) (tokens : List Token) : Acting (Except Fault Rat) := do
  let output ← borrow rpnPlace tokens.length
  let pending ← borrow rpnPlace stackCapacity
  let course := RationalCalc.Rpn.convertFrom ⟨output.items, pending.items, false, false⟩ tokens
  match course.outcome with
  | .error stop =>
      plainly (giveBack rpnPlace (pending.leaving course.peak stop.state.pending))
      plainly (giveBack rpnPlace (output.holding stop.state.output))
      return .error stop.fault
  | .ok program =>
      plainly (note (.converted program.reverse))
      let outcome ← run limits program.reverse
      plainly (giveBack rpnPlace (pending.leaving course.peak []))
      plainly (giveBack rpnPlace (output.holding program).emptied)
      return outcome

def compute (limits : Limits) (text : String) : Acting (Except Fault Rat) := do
  let buffer ← borrow tokenPlace (tokenRoom limits text)
  let lexed ← lex text
  let filled := buffer.holding (lexed.tokens.reverse ++ buffer.items)
  match lexed.fault with
  | some fault =>
      plainly (giveBack tokenPlace filled)
      return .error fault
  | none =>
      plainly (note (.lexed filled.items.reverse))
      let outcome ← convert limits filled.items.reverse
      plainly (giveBack tokenPlace filled.emptied)
      return outcome

def Agrees (checked : Acting α) (action : StateM Work α) : Prop :=
  ∀ work, checked work = .ok (action work)

theorem agrees_pure (value : α) : Agrees (pure value) (pure value) := fun _ => rfl

theorem agrees_plainly (action : StateM Work α) : Agrees (plainly action) action := fun _ => rfl

theorem agrees_bind {checked : Acting α} {action : StateM Work α} {next : α → Acting β}
    {next' : α → StateM Work β} (first : Agrees checked action)
    (later : ∀ value, Agrees (next value) (next' value)) :
    Agrees (checked >>= next) (action >>= next') := by
  intro work
  change (checked work >>= fun (value, after) => next value after) = _
  rw [first work]
  exact later _ _

theorem agrees_lift {operation : Except Breach α} {value : α} {next : α → Acting β}
    {action : StateM Work β} (inside : operation = .ok value)
    (later : Agrees (next value) action) :
    Agrees ((liftM operation : Acting α) >>= next) action := by
  subst inside
  exact later

theorem borrow_agrees (place : Place α) (capacity : Nat) :
    Agrees (borrow place capacity) (Evaluator.Work.borrow place capacity) := by
  intro work
  simp only [borrow, acquire_ok]
  rfl

theorem run_agrees (limits : Limits) (program : List Token) :
    Agrees (run limits program) (Evaluator.Work.run limits program) := by
  refine agrees_bind (borrow_agrees valuePlace stackCapacity) fun stack => ?_
  refine agrees_lift (Rpn.runFrom_ok limits stack.items program) ?_
  dsimp only
  cases (RationalCalc.Rpn.runFrom limits stack.items program).outcome with
  | error stop => exact agrees_bind (agrees_plainly _) fun _ => agrees_pure _
  | ok value => exact agrees_bind (agrees_plainly _) fun _ => agrees_pure _

theorem convert_agrees (limits : Limits) (tokens : List Token) :
    Agrees (convert limits tokens) (Evaluator.Work.convert limits tokens) := by
  refine agrees_bind (borrow_agrees rpnPlace tokens.length) fun output => ?_
  refine agrees_bind (borrow_agrees rpnPlace stackCapacity) fun pending => ?_
  dsimp only
  cases (RationalCalc.Rpn.convertFrom ⟨output.items, pending.items, false, false⟩ tokens).outcome with
  | error stop =>
      refine agrees_bind (agrees_plainly _) fun _ => ?_
      exact agrees_bind (agrees_plainly _) fun _ => agrees_pure _
  | ok program =>
      refine agrees_bind (agrees_plainly _) fun _ => ?_
      refine agrees_bind (run_agrees limits program.reverse) fun outcome => ?_
      refine agrees_bind (agrees_plainly _) fun _ => ?_
      exact agrees_bind (agrees_plainly _) fun _ => agrees_pure _

theorem compute_agrees (limits : Limits) (text : String) :
    Agrees (compute limits text) (Evaluator.Work.compute limits text) := by
  refine agrees_bind (borrow_agrees tokenPlace (tokenRoom limits text)) fun buffer => ?_
  refine agrees_lift (lex_ok text) ?_
  dsimp only
  cases (Lexer.lex text).fault with
  | some fault => exact agrees_bind (agrees_plainly _) fun _ => agrees_pure _
  | none =>
      refine agrees_bind (agrees_plainly _) fun _ => ?_
      refine agrees_bind (convert_agrees limits _) fun outcome => ?_
      exact agrees_bind (agrees_plainly _) fun _ => agrees_pure _

end Work

/-! The display -/

namespace Display

open RationalCalc.Display (padded dropEnd)

def scaled (value : Rat) (places : Nat) : Except Breach Nat := do
  let num := value.num.natAbs * powerOfTen places
  let low ← dividing (· / ·) num value.den
  let left ← dividing (· % ·) num value.den
  return if value.den ≤ left * 2 then low + 1 else low

def pointed (n : Nat) (negative : Bool) (places : Nat) : Except Breach (List Char) := do
  let sign := if negative then ['-'] else []
  let whole ← dividing (· / ·) n (powerOfTen places)
  let fraction ← dividing (· % ·) n (powerOfTen places)
  return if places = 0 then sign ++ Nat.toDigits 10 whole
    else sign ++ Nat.toDigits 10 whole ++ '.' :: padded places fraction

/-- The text is truncated to as many bytes as are left when the closing characters are dropped. -/
def tidied (text : List Char) : Except Breach (List Char) :=
  if text.contains '.' then do
    let kept := String.utf8Len (dropEnd '.' (dropEnd '0' text))
    let front ← slice (String.ofList text) 0 kept
    return front.toList
  else .ok text

def decimal (value : Rat) (places : Nat) : Except Breach String := do
  let magnitude ← scaled value places
  let text ← pointed magnitude (value.num < 0 && magnitude != 0) places
  return String.ofList (← tidied text)

theorem scaled_ok (value : Rat) (places : Nat) :
    scaled value places = .ok (RationalCalc.Display.scaled value places) := by
  simp only [scaled, dividing_ok value.den_nz]
  rfl

theorem pointed_ok (n : Nat) (negative : Bool) (places : Nat) :
    pointed n negative places = .ok (RationalCalc.Display.pointed n negative places) := by
  simp only [pointed, dividing_ok (Nat.ne_of_gt (powerOfTen_pos places))]
  rfl

theorem dropEnd_begins (c : Char) (text : List Char) : dropEnd c text <+: text :=
  List.rdropWhile_prefix (· == c) text

theorem tidied_ok (text : List Char) : tidied text = .ok (RationalCalc.Display.tidied text) := by
  rw [tidied, RationalCalc.Display.tidied]
  split
  · obtain ⟨rest, whole⟩ := (dropEnd_begins '.' _).trans (dropEnd_begins '0' text)
    generalize dropEnd '.' (dropEnd '0' text) = kept at whole
    subst whole
    have front := slice_ok [] kept rest
    rw [List.nil_append, String.utf8Len_nil, Nat.zero_add] at front
    simp only [front]
    exact congrArg Except.ok String.toList_ofList
  · rfl

theorem decimal_ok (value : Rat) (places : Nat) :
    decimal value places = .ok (RationalCalc.Display.decimal value places) := by
  simp only [decimal, scaled_ok, pointed_ok, tidied_ok, bind, Except.bind]
  rfl

end Display

def evaluate (evaluator : Evaluator) (text : String) : Except Breach Evaluator.Call := do
  let (outcome, work) ← (Work.compute evaluator.limits text).run ⟨evaluator, []⟩
  return {
    outcome
    evaluator := work.evaluator
    events := work.events.reverse ++ [.answered text outcome] }

def display (evaluator : Evaluator) (value : Rat) : Except Breach String :=
  Display.decimal value evaluator.limits.places

/-- Whatever an evaluator has served before, and whatever its limits are, no text makes it use an
operation outside of its domain, and no value does when it is displayed. -/
theorem evaluate_checked (evaluator : Evaluator) (text : String) :
    evaluate evaluator text = .ok (evaluator.evaluate text) ∧
      ∀ value, display evaluator value = .ok (evaluator.display value) := by
  refine ⟨?_, fun value => Display.decimal_ok value _⟩
  have computed := Work.compute_agrees evaluator.limits text ⟨evaluator, []⟩
  rw [evaluate, StateT.run, computed]
  rfl

end RationalCalc.Checked
