import RationalCalc.Character.Extender
import RationalCalc.Character.Hidden

/-!
Quoted text, as messages show what the user wrote. Five characters have a named escape, the quote
in use is escaped by a backslash, and a character that could not be seen on its own is spelled by
its number. The other kind of quote is left alone.
-/

namespace RationalCalc.Text

open Character

def byNumber (c : Char) : List Char :=
  '\\' :: 'u' :: '\x7b' :: Nat.toDigits 16 c.toNat ++ ['\x7d']

def escaped (quote c : Char) : List Char :=
  if c = '\x00' then ['\\', '0']
  else if c = '\t' then ['\\', 't']
  else if c = '\r' then ['\\', 'r']
  else if c = '\n' then ['\\', 'n']
  else if c = '\\' || c = quote then ['\\', c]
  else if isExtender c || isHidden c then byNumber c
  else [c]

def quoteChar (c : Char) : String :=
  String.ofList ('\'' :: escaped '\'' c ++ ['\''])

def quoteText (text : String) : String :=
  String.ofList ('"' :: text.toList.flatMap (escaped '"') ++ ['"'])

end RationalCalc.Text
