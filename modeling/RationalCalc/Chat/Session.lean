import RationalCalc.Chat.Reply

/-!
The tally of a session: how many messages were answered, faulty or passed over, and the last reply
that was shown. A new start keeps the mode.
-/

namespace RationalCalc.Chat

structure Session where
  explicit : Bool
  results : Nat
  faults : Nat
  silences : Nat
  last : Option String
  deriving DecidableEq

namespace Session

def new (explicit : Bool) : Session :=
  ⟨explicit, 0, 0, 0, none⟩

def record (session : Session) : Reply → Session
  | .result text => { session with results := session.results + 1, last := some text }
  | .fault text => { session with faults := session.faults + 1, last := some text }
  | .silence => { session with silences := session.silences + 1 }

def reset (session : Session) : Session :=
  new session.explicit

def summary (session : Session) : String :=
  session.results.repr ++ " résultat(s), " ++ session.faults.repr ++ " erreur(s), " ++
    session.silences.repr ++ " ignorée(s)"

end Session

end RationalCalc.Chat
