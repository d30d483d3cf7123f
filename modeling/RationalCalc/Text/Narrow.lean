/-!
Full-width and typographic forms of the characters that expressions are written with, replaced by
their ASCII equivalents. Each replacement is one character for one, so positions in the narrowed
text are positions in the text as written.
-/

namespace RationalCalc.Text

def narrow : Char → Char
  | '（' => '('
  | '）' => ')'
  | '＋' => '+'
  | '－' => '-'
  | '×' => '*'
  | '＊' => '*'
  | '÷' => '/'
  | '／' => '/'
  | '！' => '!'
  | 'Ａ' => 'A'
  | 'ａ' => 'a'
  | 'Ｃ' => 'C'
  | 'ｃ' => 'c'
  | 'Ｐ' => 'P'
  | 'ｐ' => 'p'
  | c => c

def narrowed (text : String) : String :=
  String.ofList (text.toList.map narrow)

end RationalCalc.Text
