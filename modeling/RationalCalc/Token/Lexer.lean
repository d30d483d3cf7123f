import RationalCalc.Character.Alphabetic
import RationalCalc.Character.WhiteSpace
import RationalCalc.Fault
import RationalCalc.Text.Narrow
import RationalCalc.Token.Literal

/-!
Cutting a text into tokens. White space separates; a run of digits and points is a number; a run of
letters is a name, unless it is one of the lone letters that stand for an operator; of the symbols,
the doubled ones come first. The first violation stops the lexer, which keeps the tokens before it.
-/

namespace RationalCalc.Lexer

open Character

/-- The tokens found and, if the text could not be read to its end, what stopped it. -/
structure Lexed where
  tokens : List Token
  fault : Option Fault

def Lexed.after (token : Token) (rest : Lexed) : Lexed :=
  { rest with tokens := token :: rest.tokens }

def inNumber (c : Char) : Bool :=
  c.isDigit || c = '.'

/-- The lone letters a and p stand for arrangements and c for combinations, in either case. -/
def word : List Char → Token
  | [c] =>
      if c = 'a' || c = 'A' || c = 'p' || c = 'P' then .operator (.arrange c)
      else if c = 'c' || c = 'C' then .operator (.choose c)
      else .name (String.ofList [c])
  | letters => .name (String.ofList letters)

def double : Char → Char → Option Token
  | '*', '*' => some (.operator (.power .stars))
  | '/', '/' => some (.operator .floorDivide)
  | _, _ => none

def single : Char → Option Token
  | '+' => some (.operator .plus)
  | '-' => some (.operator .minus)
  | '*' => some (.operator .times)
  | '/' => some (.operator .divide)
  | '%' => some (.operator .remainder)
  | '^' => some (.operator (.power .caret))
  | '!' => some .bang
  | '(' => some .opening
  | ')' => some .closing
  | _ => none

def symbol (c : Char) (rest : List Char) : Option (Token × Nat) :=
  match rest with
  | [] => (single c).map (·, 0)
  | d :: _ =>
      match double c d with
      | some token => some (token, 1)
      | none => (single c).map (·, 0)

/-- Reads a narrowed text whose first character is at position `start`. -/
def scan (start : Nat) : List Char → Lexed
  | [] => ⟨[.ending], none⟩
  | c :: rest =>
      if isWhiteSpace c then scan (start + 1) rest
      else if inNumber c then
        let more := rest.takeWhile inNumber
        match Literal.read? (c :: more) with
        | none => ⟨[], some (.badLiteral (String.ofList (c :: more)) start)⟩
        | some value => (scan (start + 1 + more.length) (rest.drop more.length)).after (.number value)
      else if isAlphabetic c then
        let more := rest.takeWhile isAlphabetic
        (scan (start + 1 + more.length) (rest.drop more.length)).after (word (c :: more))
      else
        match symbol c rest with
        | none => ⟨[], some (.unknownCharacter c start)⟩
        | some (token, more) => (scan (start + 1 + more) (rest.drop more)).after token
termination_by text => text.length

def lex (text : String) : Lexed :=
  scan 0 (Text.narrowed text).toList

def Lexed.outcome (lexed : Lexed) : Except Fault (List Token) :=
  match lexed.fault with
  | some fault => .error fault
  | none => .ok lexed.tokens

def tokenize (text : String) : Except Fault (List Token) :=
  (lex text).outcome

def readLiteral (raw : String) (start : Nat) : Except Fault Rat :=
  match Literal.read? raw.toList with
  | some value => .ok value
  | none => .error (.badLiteral raw start)

end RationalCalc.Lexer
