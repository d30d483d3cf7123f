import RationalCalc.Chat.Filter
import RationalCalc.Chat.Message
import RationalCalc.Evaluator.Basic

/-!
Replies to chat messages. A result is always shown. A fault is shown only to somebody who asked for
the calculation, by a command or by a mode in which every message is one; otherwise a message that
cannot be computed is passed over in silence, and one that does not look like a calculation is not
even tried.
-/

namespace RationalCalc.Chat

inductive Reply where
  | result (text : String)
  | fault (text : String)
  | silence
  deriving DecidableEq

def Reply.text? : Reply → Option String
  | result text => some text
  | fault text => some text
  | silence => none

structure Answer where
  reply : Reply
  evaluator : Evaluator
  events : List Event

def replyTo (evaluator : Evaluator) (expression : String) (asked : Bool) :
    Except Fault Rat → Reply
  | .ok value => .result (expression ++ " = " ++ evaluator.display value)
  | .error fault => if asked then .fault ("计算失败, error: " ++ fault.message) else .silence

def answer (evaluator : Evaluator) (text : String) (explicit : Bool) : Answer :=
  let request := request (narrowMarks text)
  let asked := explicit || request.isCommand
  if !asked && !Filter.isCandidate request.expression then ⟨.silence, evaluator, []⟩
  else
    let call := evaluator.evaluate request.expression
    ⟨replyTo evaluator request.expression asked call.outcome, call.evaluator, call.events⟩

end RationalCalc.Chat
