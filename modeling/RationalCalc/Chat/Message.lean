import RationalCalc.Text.Trim

/-!
What a chat message asks for. Wide punctuation is replaced first. A message that starts with a slash
is a command, whose request follows the first white space; any other message is itself the request.
-/

namespace RationalCalc.Chat

def narrowMark : Char → Char
  | '（' => '('
  | '）' => ')'
  | '【' => '['
  | '】' => ']'
  | '！' => '!'
  | '￥' => '$'
  | '，' => ','
  | '。' => '.'
  | '？' => '?'
  | '“' => '"'
  | '”' => '"'
  | '‘' => '\''
  | '’' => '\''
  | '～' => '~'
  | c => c

def narrowMarks (text : String) : String :=
  String.ofList (text.toList.map narrowMark)

structure Request where
  isCommand : Bool
  expression : String
  deriving DecidableEq

def request (text : String) : Request :=
  match text.toList with
  | '/' :: rest => ⟨true, String.ofList (Text.trim (Text.afterWhiteSpace rest))⟩
  | chars => ⟨false, String.ofList (Text.trim chars)⟩

end RationalCalc.Chat
