import RationalCalc.Arithmetic.Counting
import RationalCalc.Arithmetic.Power
import RationalCalc.Course
import RationalCalc.Token.Literal

/-!
Running a reverse Polish program on a stack of exact values, newest first. A binary operator takes
its right operand first and its left one after it. A program has a value if it ends with exactly
one on the stack.
-/

namespace RationalCalc.Rpn

/-- The constants, to 75 decimal places. -/
def piText : String :=
  "3.141592653589793238462643383279502884197169399375105820974944592307816406286"

def eText : String :=
  "2.718281828459045235360287471352662497757247093699959574966967627724076630353"

def piValue : Rat := (Literal.split piText.toList).value
def eValue : Rat := (Literal.split eText.toList).value

def lowered (name : String) : List Char :=
  name.toList.map Char.toLower

def resolve (name : String) : Except Fault Rat :=
  if lowered name = ['p', 'i'] || name.toList = ['π'] then .ok piValue
  else if lowered name = ['e'] then .ok eValue
  else .error (.unknownName name)

def apply (op : Operator) (a b : Rat) (limits : Limits) : Except Fault Rat :=
  match op with
  | .plus => .ok (a + b)
  | .minus => .ok (a - b)
  | .times => .ok (a * b)
  | .divide => Arithmetic.quotient a b
  | .power _ => Arithmetic.power a b limits
  | .floorDivide => Arithmetic.floorQuotient a b
  | .remainder => Arithmetic.remainder a b
  | .arrange _ => Arithmetic.arrangements a b limits
  | .choose _ => Arithmetic.combinations a b limits

/-- A result goes on the stack; a fault leaves the stack as it is without the operands. -/
def pushed (stack : List Rat) : Except Fault Rat → Except (Stop (List Rat)) (List Rat)
  | .ok value => .ok (value :: stack)
  | .error fault => .error ⟨fault, stack⟩

def execute (limits : Limits) (stack : List Rat) (token : Token) :
    Except (Stop (List Rat)) (List Rat) :=
  match token with
  | .number value => .ok (value :: stack)
  | .name text => pushed stack (resolve text)
  | .bang =>
      match stack with
      | value :: rest => pushed rest (Arithmetic.factorial value limits)
      | [] => .error ⟨.missingOperand, []⟩
  | .operator op =>
      match stack with
      | b :: a :: rest => pushed rest (apply op a b limits)
      | _ => .error ⟨.missingOperand, []⟩
  | .ending => .ok stack
  | .opening => .error ⟨.notExecutable token, stack⟩
  | .closing => .error ⟨.notExecutable token, stack⟩
  | .sign _ => .error ⟨.notExecutable token, stack⟩

def onlyValue : List Rat → Except (Stop (List Rat)) Rat
  | [value] => .ok value
  | stack => .error ⟨.leftover stack.length, stack⟩

def runFrom (limits : Limits) (stack : List Rat) (program : List Token) : Course (List Rat) Rat :=
  (Course.run (execute limits) List.length stack program).ending onlyValue

def evaluate (program : List Token) (limits : Limits) : Except Fault Rat :=
  (runFrom limits [] program).answer

end RationalCalc.Rpn
