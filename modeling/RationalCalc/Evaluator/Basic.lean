import RationalCalc.Display.Decimal
import RationalCalc.Evaluation
import RationalCalc.Evaluator.Event
import RationalCalc.Pool.Basic

/-!
An evaluator: limits, and three pools whose buffers serve one evaluation after another. Each stage
borrows its buffers, works on what they hold, and gives them back however it ends, the last borrowed
first.
-/

namespace RationalCalc

structure Evaluator where
  limits : Limits
  tokens : Pool Token
  rpn : Pool Token
  values : Pool Rat
  /-- Buffers made so far, which is the next serial number. -/
  made : Nat

namespace Evaluator

def new (limits : Limits) : Evaluator where
  limits := limits
  tokens := .empty limits.poolCeiling limits.maxFree
  rpn := .empty limits.poolCeiling limits.maxFree
  values := .empty limits.poolCeiling limits.maxFree
  made := 0

/-- An evaluation under way: the evaluator, and what happened so far, newest first. -/
structure Work where
  evaluator : Evaluator
  events : List Event

structure Place (α : Type) where
  shelf : Shelf
  pool : Evaluator → Pool α
  put : Evaluator → Pool α → Evaluator

def tokenPlace : Place Token :=
  ⟨.tokens, Evaluator.tokens, fun evaluator pool => { evaluator with tokens := pool }⟩

def rpnPlace : Place Token :=
  ⟨.rpn, Evaluator.rpn, fun evaluator pool => { evaluator with rpn := pool }⟩

def valuePlace : Place Rat :=
  ⟨.values, Evaluator.values, fun evaluator pool => { evaluator with values := pool }⟩

namespace Work

def note (event : Event) : StateM Work Unit :=
  modify fun work => { work with events := event :: work.events }

def borrow (place : Place α) (capacity : Nat) : StateM Work (Buffer α) := fun work =>
  let evaluator := work.evaluator
  let lease := (place.pool evaluator).acquire capacity evaluator.made
  let made := if lease.recycled then evaluator.made else evaluator.made + 1
  (lease.buffer,
    { evaluator := { place.put evaluator lease.pool with made }
      events := .lent place.shelf lease.buffer.serial lease.recycled :: work.events })

def giveBack (place : Place α) (buffer : Buffer α) : StateM Work Unit := fun work =>
  let pool := (place.pool work.evaluator).release buffer
  ((),
    { evaluator := place.put work.evaluator pool
      events := .returned place.shelf buffer.serial buffer.capacity :: work.events })

def stackCapacity : Nat := 8

def run (limits : Limits) (program : List Token) : StateM Work (Except Fault Rat) := do
  let stack ← borrow valuePlace stackCapacity
  let course := Rpn.runFrom limits stack.items program
  match course.outcome with
  | .error stop => giveBack valuePlace (stack.leaving course.peak stop.state)
  | .ok _ => giveBack valuePlace (stack.leaving course.peak [])
  return course.answer

/-- The machine takes the program out of the output buffer as it goes. -/
def convert (limits : Limits) (tokens : List Token) : StateM Work (Except Fault Rat) := do
  let output ← borrow rpnPlace tokens.length
  let pending ← borrow rpnPlace stackCapacity
  let course := Rpn.convertFrom ⟨output.items, pending.items, false, false⟩ tokens
  match course.outcome with
  | .error stop =>
      giveBack rpnPlace (pending.leaving course.peak stop.state.pending)
      giveBack rpnPlace (output.holding stop.state.output)
      return .error stop.fault
  | .ok program =>
      note (.converted program.reverse)
      let outcome ← run limits program.reverse
      giveBack rpnPlace (pending.leaving course.peak [])
      giveBack rpnPlace (output.holding program).emptied
      return outcome

/-- The room asked for tokens: one for each byte and the ending, but no more than a pool keeps. -/
def tokenRoom (limits : Limits) (text : String) : Nat :=
  min (text.utf8ByteSize + 1) limits.poolCeiling

def compute (limits : Limits) (text : String) : StateM Work (Except Fault Rat) := do
  let buffer ← borrow tokenPlace (tokenRoom limits text)
  let lexed := Lexer.lex text
  let filled := buffer.holding (lexed.tokens.reverse ++ buffer.items)
  match lexed.fault with
  | some fault =>
      giveBack tokenPlace filled
      return .error fault
  | none =>
      note (.lexed filled.items.reverse)
      let outcome ← convert limits filled.items.reverse
      giveBack tokenPlace filled.emptied
      return outcome

end Work

structure Call where
  outcome : Except Fault Rat
  evaluator : Evaluator
  events : List Event

def evaluate (evaluator : Evaluator) (text : String) : Call :=
  let (outcome, work) := (Work.compute evaluator.limits text).run ⟨evaluator, []⟩
  { outcome
    evaluator := work.evaluator
    events := work.events.reverse ++ [.answered text outcome] }

def after (evaluator : Evaluator) (texts : List String) : Evaluator :=
  texts.foldl (fun current text => (current.evaluate text).evaluator) evaluator

def display (evaluator : Evaluator) (value : Rat) : String :=
  Display.decimal value evaluator.limits.places

end Evaluator

end RationalCalc
