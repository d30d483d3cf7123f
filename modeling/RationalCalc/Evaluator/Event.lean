import RationalCalc.Fault

/-!
What happens during an evaluation: buffers lent and returned, and the three points that are logged.
Log texts are made from events only when somebody asks for them.
-/

namespace RationalCalc

inductive Shelf where
  | tokens
  | rpn
  | values
  deriving DecidableEq

inductive Event where
  | lent (shelf : Shelf) (serial : Nat) (recycled : Bool)
  | returned (shelf : Shelf) (serial capacity : Nat)
  | lexed (tokens : List Token)
  | converted (program : List Token)
  | answered (text : String) (outcome : Except Fault Rat)

/-- From the least to the most talkative. -/
inductive Level where
  | off
  | error
  | warn
  | info
  | debug
  | trace
  deriving DecidableEq

namespace Level

def rank : Level → Nat
  | off => 0
  | error => 1
  | warn => 2
  | info => 3
  | debug => 4
  | trace => 5

def label : Level → String
  | off => "Off"
  | error => "Error"
  | warn => "Warn"
  | info => "Info"
  | debug => "Debug"
  | trace => "Trace"

def tag : Level → String
  | off => "OFF"
  | error => "ERROR"
  | warn => "WARN"
  | info => "INFO"
  | debug => "DEBUG"
  | trace => "TRACE"

def logged (inForce level : Level) (text : String) : List String :=
  if level.rank ≤ inForce.rank then [level.tag ++ " " ++ text] else []

end Level

namespace Event

def outcomeText : Except Fault Rat → String
  | .ok value => " = " ++ Display.exact value
  | .error fault => " : " ++ fault.message ++ " [" ++ fault.kind.label ++ "]"

def message? : Event → Option (Level × String)
  | lent _ _ _ => none
  | returned _ _ _ => none
  | lexed tokens => some (.trace, "jetons: " ++ Token.line tokens)
  | converted program => some (.trace, "rpn: " ++ Token.line program)
  | answered text outcome => some (.debug, Text.quoteText text ++ outcomeText outcome)

def logged (inForce : Level) (event : Event) : List String :=
  match event.message? with
  | some (level, text) => inForce.logged level text
  | none => []

def journal (inForce : Level) (events : List Event) : List String :=
  events.flatMap (logged inForce)

end Event

end RationalCalc
