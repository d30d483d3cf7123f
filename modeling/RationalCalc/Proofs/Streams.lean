import Mathlib.Control.Monad.Basic
import RationalCalc.CommandLine.Run
import RationalCalc.Proofs.Quotations
import RationalCalc.Proofs.Replies

/-!
Lines of standard input do not influence each other. All are served by one evaluator, but what it has
served before shows in no reply, and a session changes nothing but its tally. So what a run writes is
put together from its lines: each line that is not blank is answered as by an evaluator of its own,
an answer that is not passed over takes one line, and a line that is not UTF-8 ends the run. A stream
that ends with its last line can be cut off in front of any other.
-/

namespace RationalCalc

/-! One answer -/

namespace Chat

open Text (OneLine)

theorem trim_subset (text : List Char) : Text.trim text ⊆ text := by
  intro c member
  rw [Text.trim, Text.trimEnd, List.mem_reverse] at member
  have inner := (List.dropWhile_suffix _).subset member
  rw [List.mem_reverse] at inner
  exact (List.dropWhile_suffix _).subset inner

theorem request_subset (text : String) : (request text).expression.toList ⊆ text.toList := by
  unfold request
  split
  · rename_i rest slash
    rw [slash, String.toList_ofList]
    intro c member
    have behind := List.drop_subset 1 _ (trim_subset _ member)
    exact List.mem_cons_of_mem '/' ((List.dropWhile_suffix _).subset behind)
  · rw [String.toList_ofList]
    exact trim_subset text.toList

theorem narrowMark_feed (c : Char) (feed : narrowMark c = '\n') : c = '\n' := by
  unfold narrowMark at feed
  split at feed
  all_goals first | exact feed | exact absurd feed (by decide)

theorem narrowMarks_line {text : String} (line : OneLine text) : OneLine (narrowMarks text) := by
  apply Text.oneLine_ofList
  intro member
  obtain ⟨c, stands, feed⟩ := List.mem_map.mp member
  exact line (narrowMark_feed c feed ▸ stands)

theorem answer_line (evaluator : Evaluator) {limits : Limits}
    (ready : Evaluator.Ready limits evaluator) (text : String) (explicit : Bool)
    (line : OneLine text) : ∀ reply ∈ (answer evaluator text explicit).reply.text?, OneLine reply := by
  have asked : OneLine (request (narrowMarks text)).expression := fun member =>
    narrowMarks_line line (request_subset _ member)
  intro reply shown
  rw [answer_reply ready, policy] at shown
  split at shown
  · cases shown
  · cases computed : evaluate limits (request (narrowMarks text)).expression with
    | ok value =>
        rw [computed] at shown
        cases shown
        exact Text.oneLine_append (Text.oneLine_append asked (by decide)) (decimal_line value _)
    | error fault =>
        rw [computed, replyTo] at shown
        split at shown
        · cases shown
          exact Text.oneLine_append (by decide) (evaluate_message_line limits _ fault asked computed)
        · cases shown

theorem answer_ready {limits : Limits} {evaluator : Evaluator}
    (ready : Evaluator.Ready limits evaluator) (text : String) (explicit : Bool) :
    Evaluator.Ready limits (answer evaluator text explicit).evaluator := by
  simp only [answer]
  split
  · exact ready
  · exact (Evaluator.evaluate_ready _ ready).2

theorem record_explicit (session : Session) (reply : Reply) :
    (session.record reply).explicit = session.explicit := by
  cases reply <;> rfl

end Chat

namespace CommandLine

/-! Lines -/

def Ended (stream : List UInt8) : Prop :=
  stream = [] ∨ stream.getLast? = some newline

theorem linesAfter_append (line front rest : List UInt8) :
    linesAfter line (front ++ newline :: rest) =
      linesAfter line (front ++ [newline]) ++ linesAfter [] rest := by
  induction front generalizing line with
  | nil => simp [linesAfter]
  | cons byte front ih =>
      simp only [List.cons_append, linesAfter]
      split
      · rw [ih, List.cons_append]
      · exact ih (byte :: line)

theorem lines_append {front : List UInt8} (ended : Ended front) (rest : List UInt8) :
    lines (front ++ rest) = lines front ++ lines rest := by
  rcases ended with rfl | last
  · rfl
  · obtain ⟨before, rfl⟩ := List.getLast?_eq_some_iff.mp last
    rw [List.append_assoc]
    exact linesAfter_append [] before rest

theorem withoutReturn_subset (line : List UInt8) : withoutReturn line ⊆ line := by
  cases line with
  | nil => exact List.Subset.refl _
  | cons byte line =>
      simp only [withoutReturn]
      split
      · exact List.subset_cons_self byte line
      · exact List.Subset.refl _

theorem linesAfter_plain (stream line : List UInt8) (plain : newline ∉ line) :
    ∀ bytes ∈ linesAfter line stream, newline ∉ bytes := by
  induction stream generalizing line with
  | nil =>
      intro bytes member
      simp only [linesAfter] at member
      split at member
      · cases member
      · rw [List.mem_singleton.mp member, List.mem_reverse]
        exact plain
  | cons byte rest ih =>
      intro bytes member
      simp only [linesAfter] at member
      split at member
      · rcases List.mem_cons.mp member with rfl | later
        · rw [List.mem_reverse]
          exact fun inside => plain (withoutReturn_subset line inside)
        · exact ih [] List.not_mem_nil bytes later
      · rename_i other
        exact ih _ (List.not_mem_cons_of_ne_of_not_mem (Ne.symm other) plain) bytes member

theorem lines_plain (stream : List UInt8) : ∀ bytes ∈ lines stream, newline ∉ bytes :=
  linesAfter_plain stream [] List.not_mem_nil

theorem decode_encoded {bytes : List UInt8} {text : String} (decoded : decode? bytes = some text) :
    bytes = text.toList.flatMap String.utf8EncodeChar := by
  simp only [decode?, String.fromUTF8?] at decoded
  split at decoded
  · rename_i valid
    cases decoded
    have same := @String.utf8Encode_toList (String.fromUTF8 ⟨bytes.toArray⟩ valid)
    simpa [List.utf8Encode, String.fromUTF8, eq_comm] using congrArg (·.data.toList) same
  · cases decoded

theorem decode_line {bytes : List UInt8} {text : String} (decoded : decode? bytes = some text)
    (plain : newline ∉ bytes) : Text.OneLine text := by
  intro feed
  rw [decode_encoded decoded] at plain
  exact plain (List.mem_flatMap.mpr ⟨'\n', feed, by decide⟩)

/-! A conversation -/

section Conversation

variable (limits : Limits) (explicit : Bool)

def readable (bytes : List UInt8) : Bool :=
  (decode? bytes).isSome

def reply? (bytes : List UInt8) : Option String :=
  (decode? bytes).bind fun text =>
    if Text.isBlank text.toList then none
    else (Chat.answer (.new limits) text explicit).reply.text?

theorem reply_line (stream : List UInt8) :
    ∀ reply ∈ (lines stream).filterMap (reply? limits explicit), Text.OneLine reply := by
  intro reply member
  obtain ⟨bytes, inside, answered⟩ := List.mem_filterMap.mp member
  obtain ⟨text, decoded, shown⟩ := Option.bind_eq_some_iff.mp answered
  split at shown
  · cases shown
  · have line := decode_line decoded (lines_plain stream bytes inside)
    exact Chat.answer_line _ (Evaluator.new_ready limits) text explicit line reply shown

end Conversation

/-- The lines up to the first that is not UTF-8 are answered one by one. -/
theorem converse_lines {limits : Limits} (input : List (List UInt8)) (evaluator : Evaluator)
    (ready : Evaluator.Ready limits evaluator) (session : Chat.Session) :
    (converse true evaluator session input).code =
        (if input.all readable then success else failure) ∧
      (converse true evaluator session input).replies =
        (input.takeWhile readable).filterMap (reply? limits session.explicit) := by
  induction input generalizing evaluator session with
  | nil => exact ⟨rfl, rfl⟩
  | cons bytes rest ih =>
      rw [converse, List.all_cons, List.takeWhile_cons]
      cases decoded : decode? bytes with
      | none => simp [readable, decoded]
      | some text =>
          have read : readable bytes = true := by rw [readable, decoded]; rfl
          by_cases blank : Text.isBlank text.toList = true
          · have none : reply? limits session.explicit bytes = none := by simp [reply?, decoded, blank]
            rw [read, if_pos rfl, List.filterMap_cons_none none, Bool.true_and]
            simp only [blank, if_true]
            exact ih evaluator ready session
          · have fresh : reply? limits session.explicit bytes =
                (Chat.answer evaluator text session.explicit).reply.text? := by
              simp only [reply?, decoded, Option.bind_some, if_neg blank]
              rw [Chat.answer_reply ready, Chat.answer_reply (Evaluator.new_ready limits)]
            obtain ⟨code, replies⟩ := ih _ (Chat.answer_ready ready text session.explicit)
              (session.record (Chat.answer evaluator text session.explicit).reply)
            rw [Chat.record_explicit] at replies
            rw [read, if_pos rfl, List.filterMap_cons, fresh, Bool.true_and]
            simp only [if_neg blank, Bool.not_true, Bool.false_and, Bool.false_eq_true, if_false]
            refine ⟨code, ?_⟩
            rw [replies]
            cases (Chat.answer evaluator text session.explicit).reply.text? <;> rfl

/-! A run -/

/-- The arguments are options, none of which asks for help, and so the run reads its input. -/
structure Listens (arguments : List String) (options : Options) : Prop where
  read : readOptions arguments = .ok options
  help : options.help = false
  words : options.words = []

section Run

variable {arguments : List String} {options : Options}

def Options.limits (options : Options) : Limits :=
  Limits.standard.withPlaces options.places

theorem run_conversation (listens : Listens arguments options) (input : List UInt8) :
    (run arguments input true).code = (if (lines input).all readable then success else failure) ∧
      (run arguments input true).stdout =
        String.join ((((lines input).takeWhile readable).filterMap
          (reply? options.limits options.explicit)).map line) := by
  have served := converse_lines (lines input) _ (Evaluator.new_ready options.limits)
    (.new options.explicit)
  have silent : options.expression? = none := by simp [Options.expression?, listens.words]
  simp only [run, listens.read, listens.help, silent, Bool.false_eq_true, if_false]
  refine ⟨served.1, ?_⟩
  exact congrArg (fun replies : List String => String.join (replies.map line)) served.2

end Run

end CommandLine

end RationalCalc
