import RationalCalc.Character.Numeric
import RationalCalc.Character.WhiteSpace

/-!
A cheap look at a message before it is evaluated: could it be a calculation at all? A message that
is nothing but a number is none, and neither is one with a character that no expression needs.
-/

namespace RationalCalc.Filter

open Character

def symbols : List Char :=
  ['(', ')', '（', '）', '+', '＋', '-', '－', '*', '＊', '×', '/', '／', '÷', '.', '!', '！', '^', '%']

def letters : List Char :=
  ['e', 'p', 'i', 'a', 'c']

def wideLetters : List Char :=
  ['π', 'Ａ', 'ａ', 'Ｃ', 'ｃ', 'Ｐ', 'ｐ']

def admitted (c : Char) : Bool :=
  c.isDigit || isWhiteSpace c || symbols.contains c || wideLetters.contains c ||
    letters.contains c.toLower

def isCandidate (text : String) : Bool :=
  !text.toList.all isNumeric && text.toList.all admitted

end RationalCalc.Filter
