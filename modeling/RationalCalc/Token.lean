import RationalCalc.Display.Exact

/-!
The tokens that every stage exchanges: text is cut into them, reverse Polish programs are lists of
them, and the converter keeps them on its stack. A sign exists only on that stack; the lexer never
makes one.
-/

namespace RationalCalc

inductive PowerMark where
  | caret
  | stars
  deriving DecidableEq

/-- Binary operators. Arrangements and combinations keep the letter they were written with. -/
inductive Operator where
  | plus
  | minus
  | times
  | divide
  | power (mark : PowerMark)
  | floorDivide
  | remainder
  | arrange (letter : Char)
  | choose (letter : Char)
  deriving DecidableEq

inductive Token where
  | ending
  | number (value : Rat)
  | name (text : String)
  | operator (op : Operator)
  | bang
  | sign (mark : Char)
  | opening
  | closing
  deriving DecidableEq

namespace Operator

def spelling : Operator → String
  | plus => "+"
  | minus => "-"
  | times => "*"
  | divide => "/"
  | power .caret => "^"
  | power .stars => "**"
  | floorDivide => "//"
  | remainder => "%"
  | arrange letter => letter.toString
  | choose letter => letter.toString

end Operator

namespace Token

def spelling : Token → String
  | ending => "<fin>"
  | number value => Display.exact value
  | name text => text
  | operator op => op.spelling
  | bang => "!"
  | sign mark => mark.toString
  | opening => "("
  | closing => ")"

/-- One token added to a line of tokens, after a space unless the line is still empty. -/
def extend (line : String) (token : Token) : String :=
  match token with
  | ending => line
  | _ => (if line.isEmpty then line else line ++ " ") ++ token.spelling

def line (tokens : List Token) : String :=
  tokens.foldl extend ""

end Token

end RationalCalc
