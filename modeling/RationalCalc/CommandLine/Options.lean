import RationalCalc.Evaluator.Event
import RationalCalc.Limits

/-!
Options of the command line. They may stand anywhere, a later one wins over an earlier one, and the
first bad one ends the reading; all other arguments together are the expression.
-/

namespace RationalCalc.CommandLine

structure Options where
  explicit : Bool
  places : Nat
  logLevel : Option Level
  help : Bool
  /-- The arguments that are no options, in order. -/
  words : List String
  deriving DecidableEq

namespace Options

def standard : Options :=
  ⟨false, Limits.standardPlaces, none, false, []⟩

def expression? (options : Options) : Option String :=
  if options.words.isEmpty then none else some (" ".intercalate options.words)

end Options

inductive BadOption where
  | placesNotInteger (text : String)
  | tooManyPlaces
  | unknownLevel (text : String)
  | unknown (argument : String)
  deriving DecidableEq

def BadOption.message : BadOption → String
  | placesNotInteger text => "--decimales attend un entier, reçu " ++ Text.quoteText text
  | tooManyPlaces => "--decimales: au plus " ++ Limits.mostPlaces.repr
  | unknownLevel text => "niveau de journal inconnu: " ++ Text.quoteText text
  | unknown argument => "option inconnue: " ++ argument

def rest? (start argument : List Char) : Option (List Char) :=
  if start.isPrefixOf argument then some (argument.drop start.length) else none

def largestWord : Nat := 0xffffffffffffffff

/-- Digits after at most one plus, up to the largest machine word. -/
def readWord? (text : List Char) : Option Nat :=
  let digits := match text with
    | '+' :: digits => digits
    | digits => digits
  if digits.isEmpty || !digits.all Char.isDigit then none
  else
    let value := Nat.ofDigitChars 10 digits 0
    if value ≤ largestWord then some value else none

def readLevel? (text : List Char) : Option Level :=
  [Level.off, .error, .warn, .info, .debug, .trace].find? fun level =>
    level.label.toList.map Char.toLower = text.map Char.toLower

def readPlaces (options : Options) (text : List Char) : Except BadOption Options :=
  match readWord? text with
  | none => .error (.placesNotInteger (String.ofList text))
  | some places =>
      if Limits.mostPlaces < places then .error .tooManyPlaces
      else .ok { options with places }

def readLevel (options : Options) (text : List Char) : Except BadOption Options :=
  match readLevel? text with
  | none => .error (.unknownLevel (String.ofList text))
  | some level => .ok { options with logLevel := some level }

def readArgument (options : Options) (argument : String) : Except BadOption Options :=
  if argument = "--explicite" then .ok { options with explicit := true }
  else if argument = "--help" || argument = "-h" then .ok { options with help := true }
  else
    match rest? "--decimales=".toList argument.toList with
    | some text => readPlaces options text
    | none =>
        match rest? "--log-level=".toList argument.toList with
        | some text => readLevel options text
        | none =>
            match rest? "--".toList argument.toList with
            | some _ => .error (.unknown argument)
            | none => .ok { options with words := options.words ++ [argument] }

def readOptions (arguments : List String) : Except BadOption Options :=
  arguments.foldlM readArgument .standard

end RationalCalc.CommandLine
