import RationalCalc.Rpn.Machine

/-!
Expressions as trees. A tree has a program, which is its tokens in post-order, and a value, which is
computed from the leaves up: the left operand, then the right one, then the operator.
-/

namespace RationalCalc

inductive Expression where
  | number (value : Rat)
  | name (text : String)
  | bang (operand : Expression)
  | binary (op : Operator) (left right : Expression)
  deriving DecidableEq

namespace Expression

def program : Expression → List Token
  | number value => [.number value]
  | name text => [.name text]
  | bang operand => operand.program ++ [.bang]
  | binary op left right => left.program ++ right.program ++ [.operator op]

def value (limits : Limits) : Expression → Except Fault Rat
  | number value => .ok value
  | name text => Rpn.resolve text
  | bang operand => do
      let n ← operand.value limits
      Arithmetic.factorial n limits
  | binary op left right => do
      let a ← left.value limits
      let b ← right.value limits
      Rpn.apply op a b limits

end Expression

end RationalCalc
