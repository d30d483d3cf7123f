import RationalCalc.Chat.Session
import RationalCalc.CommandLine.Lines
import RationalCalc.CommandLine.Options

/-!
A run of the command line. An expression among the arguments is computed once, on request; otherwise
every line of standard input that is not blank is a message, and the run ends early at a line that
is not UTF-8 or at a reply that cannot be written.
-/

namespace RationalCalc.CommandLine

def title : String := "Calculatrice RPN"

def usage : String :=
  "Usage: calculatrice_rpn [OPTIONS] [EXPRESSION...]\n" ++
  "\n" ++
  "Sans EXPRESSION, lit l'entrée standard ligne par ligne.\n" ++
  "\n" ++
  "Options:\n" ++
  "    --explicite              Affiche les erreurs et ignore le pré-filtre\n" ++
  "    --decimales=N            Décimales affichées (défaut 4, max 40)\n" ++
  "    --log-level=LEVEL        off/error/warn/info/debug/trace (sinon RUST_LOG)\n" ++
  "    --help, -h               Affiche cette aide"

structure Exit where
  code : Nat
  stdout : String
  stderr : String
  log : List String

def success : Nat := 0
def failure : Nat := 1
def misuse : Nat := 2

def line (text : String) : String :=
  text ++ "\n"

/-- A single request, on whose behalf faults are shown. -/
def single (evaluator : Evaluator) (inForce : Level) (expression : String) : Exit :=
  let answer := Chat.answer evaluator expression true
  let log := Event.journal inForce answer.events
  match answer.reply with
  | .result text => ⟨success, line text, "", log⟩
  | .fault text => ⟨failure, "", line text, log⟩
  | .silence => ⟨failure, "", "", log⟩

structure Conversation where
  code : Nat
  replies : List String
  events : List Event
  session : Chat.Session

def converse (writable : Bool) (evaluator : Evaluator) (session : Chat.Session) :
    List (List UInt8) → Conversation
  | [] => ⟨success, [], [], session⟩
  | bytes :: rest =>
      match decode? bytes with
      | none => ⟨failure, [], [], session⟩
      | some text =>
          if Text.isBlank text.toList then converse writable evaluator session rest
          else
            let answer := Chat.answer evaluator text session.explicit
            let written := answer.reply.text?.toList
            if !writable && !written.isEmpty then ⟨failure, [], answer.events, session⟩
            else
              let later := converse writable answer.evaluator (session.record answer.reply) rest
              { later with
                replies := written ++ later.replies
                events := answer.events ++ later.events }

def dialogue (evaluator : Evaluator) (options : Options) (inForce : Level) (input : List UInt8)
    (writable : Bool) : Exit :=
  let conversation := converse writable evaluator (.new options.explicit) (lines input)
  let opening := inForce.logged .info (title ++ " : lecture de l'entrée standard")
  let closing :=
    if conversation.code = success then inForce.logged .info conversation.session.summary else []
  { code := conversation.code
    stdout := String.join (conversation.replies.map line)
    stderr := ""
    log := opening ++ Event.journal inForce conversation.events ++ closing }

def readsInput (arguments : List String) : Bool :=
  match readOptions arguments with
  | .error _ => false
  | .ok options => !options.help && options.words.isEmpty

/-- `writable` tells whether standard output takes what is written to it. -/
def run (arguments : List String) (input : List UInt8) (writable : Bool) : Exit :=
  match readOptions arguments with
  | .error bad => ⟨misuse, "", line (bad.message ++ "\n\n" ++ usage), []⟩
  | .ok options =>
      if options.help then ⟨success, line (title ++ "\n\n" ++ usage), "", []⟩
      else
        let evaluator := Evaluator.new (Limits.standard.withPlaces options.places)
        let inForce := options.logLevel.getD .error
        match options.expression? with
        | some expression => single evaluator inForce expression
        | none => dialogue evaluator options inForce input writable

end RationalCalc.CommandLine
