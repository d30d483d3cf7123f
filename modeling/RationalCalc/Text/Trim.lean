import RationalCalc.Character.WhiteSpace

/-!
Trimming and cutting at white space.
-/

namespace RationalCalc.Text

open Character

def trimStart (text : List Char) : List Char :=
  text.dropWhile isWhiteSpace

def trimEnd (text : List Char) : List Char :=
  (text.reverse.dropWhile isWhiteSpace).reverse

def trim (text : List Char) : List Char :=
  trimEnd (trimStart text)

def afterWhiteSpace (text : List Char) : List Char :=
  (text.dropWhile fun c => !isWhiteSpace c).drop 1

def isBlank (text : List Char) : Bool :=
  text.all isWhiteSpace

end RationalCalc.Text
