import RationalCalc.Rpn.Converter
import RationalCalc.Rpn.Machine
import RationalCalc.Token.Lexer

/-!
The value of a text: its tokens, converted to a program, and the program run.
-/

namespace RationalCalc

def evaluate (limits : Limits) (text : String) : Except Fault Rat := do
  let tokens ← Lexer.tokenize text
  let program ← Rpn.ofTokens tokens
  Rpn.evaluate program limits

end RationalCalc
