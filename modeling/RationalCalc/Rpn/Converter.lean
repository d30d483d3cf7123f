import RationalCalc.Course

/-!
From infix tokens to a reverse Polish program. Operators wait on a stack until an operator that
binds less tightly, a closing parenthesis or the end releases them. Binding grows in the order
plus and minus, times and its like, a sign, power, and last factorials, arrangements and
combinations; only power groups to the right. A sign becomes a subtraction from zero or an addition
to it, and releases nothing when it arrives.
-/

namespace RationalCalc.Rpn

/-- A conversion under way. Both lists are newest first. -/
structure Draft where
  output : List Token
  pending : List Token
  /-- Whether the last token ended an operand, so that plus and minus are no signs here. -/
  afterValue : Bool
  ended : Bool

def strength : Token → Nat
  | .operator .plus => 10
  | .operator .minus => 10
  | .operator .times => 20
  | .operator .divide => 20
  | .operator .floorDivide => 20
  | .operator .remainder => 20
  | .sign _ => 25
  | .operator (.power _) => 30
  | .operator (.arrange _) => 40
  | .operator (.choose _) => 40
  | .bang => 40
  | _ => 0

def groupsRight : Token → Bool
  | .operator (.power _) => true
  | _ => false

/-- A sign leaves the stack as the operator between the zero put before it and its operand. -/
def released : Token → Token
  | .sign '-' => .operator .minus
  | .sign _ => .operator .plus
  | token => token

def release (leaves : Token → Bool) : List Token → List Token → List Token × List Token
  | output, [] => (output, [])
  | output, top :: pending =>
      if leaves top then release leaves (released top :: output) pending
      else (output, top :: pending)

def yields (arriving top : Token) : Bool :=
  top != .opening &&
    (strength arriving < strength top ||
      strength arriving == strength top && !groupsRight arriving)

namespace Draft

def start : Draft := ⟨[], [], false, false⟩

def operand (draft : Draft) (token : Token) : Draft :=
  { draft with output := token :: draft.output, afterValue := true }

def signed (draft : Draft) (mark : Char) : Draft :=
  { draft with
    output := .number 0 :: draft.output
    pending := .sign mark :: draft.pending
    afterValue := false }

def operation (draft : Draft) (token : Token) : Draft :=
  let (output, pending) := release (yields token) draft.output draft.pending
  { draft with output, pending := token :: pending, afterValue := token == .bang }

def opened (draft : Draft) : Draft :=
  { draft with pending := .opening :: draft.pending, afterValue := false }

def closed (draft : Draft) : Except (Stop Draft) Draft :=
  match release (· != .opening) draft.output draft.pending with
  | (output, []) => .error ⟨.unbalanced, { draft with output, pending := [] }⟩
  | (output, _ :: pending) => .ok { draft with output, pending, afterValue := true }

def step (draft : Draft) (token : Token) : Except (Stop Draft) Draft :=
  if draft.ended then .error ⟨.afterEnding token, draft⟩
  else
    match token with
    | .ending => .ok { draft with ended := true }
    | .sign _ => .error ⟨.strayToken token, draft⟩
    | .number _ => .ok (draft.operand token)
    | .name _ => .ok (draft.operand token)
    | .opening => .ok draft.opened
    | .closing => draft.closed
    | .bang => .ok (draft.operation token)
    | .operator op =>
        if draft.afterValue then .ok (draft.operation token)
        else
          match op with
          | .plus => .ok (draft.signed '+')
          | .minus => .ok (draft.signed '-')
          | _ => .ok (draft.operation token)

/-- Releases everything; an opening parenthesis still waiting was never closed. -/
def finish (draft : Draft) : Except (Stop Draft) (List Token) :=
  match release (· != .opening) draft.output draft.pending with
  | (output, []) => .ok output
  | (output, _ :: pending) => .error ⟨.unbalanced, { draft with output, pending }⟩

end Draft

def convertFrom (draft : Draft) (tokens : List Token) : Course Draft (List Token) :=
  (Course.run Draft.step (·.pending.length) draft tokens).ending Draft.finish

def ofTokens (tokens : List Token) : Except Fault (List Token) :=
  (convertFrom .start tokens).answer.map List.reverse

end RationalCalc.Rpn
