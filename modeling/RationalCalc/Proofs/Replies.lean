import RationalCalc.Chat.Reply
import RationalCalc.Proofs.Admission
import RationalCalc.Proofs.Transparency

/-!
The two modes of reply. A reply is a function of the message, the mode and the limits, whatever the
evaluator has served before. Asked for, a message is always replied to. Not asked for, it has the same
reply if that is a result, unless it is nothing but a number: the filter in front of the evaluator
turns away only what would have no result, and numbers.
-/

namespace RationalCalc

theorem evaluated_candidate_iff (limits : Limits) (text : String) (value : Rat)
    (computed : evaluate limits text = .ok value) :
    Filter.isCandidate text = true ↔ ∃ c ∈ text.toList, Character.isNumeric c = false := by
  have admitted := List.all_eq_true.mpr (evaluated_admitted limits text value computed)
  simp [Filter.isCandidate, admitted]

namespace Chat

open Evaluator (Ready new_ready evaluate_ready after_ready)

/-- The reply of an evaluator that has served nothing yet, from what its stages say. -/
def policy (limits : Limits) (request : Request) (explicit : Bool) : Reply :=
  let asked := explicit || request.isCommand
  if !asked && !Filter.isCandidate request.expression then .silence
  else
    replyTo (.new limits) request.expression asked (evaluate limits request.expression)

section Policy

variable {limits : Limits} {evaluator : Evaluator}

theorem replyTo_ready (ready : Ready limits evaluator) (expression : String) (asked : Bool)
    (outcome : Except Fault Rat) :
    replyTo evaluator expression asked outcome =
      replyTo (.new limits) expression asked outcome := by
  cases outcome with
  | error fault => rfl
  | ok value =>
      simp only [replyTo, Evaluator.display, ready.limits]
      rfl

theorem answer_reply (ready : Ready limits evaluator) (text : String) (explicit : Bool) :
    (answer evaluator text explicit).reply =
      policy limits (request (narrowMarks text)) explicit := by
  simp only [answer, policy]
  split
  · rfl
  · rw [(evaluate_ready _ ready).1, replyTo_ready ready]

end Policy

variable (limits : Limits) (request : Request)

theorem policy_asked (explicit : Bool) (asked : (explicit || request.isCommand) = true) :
    policy limits request explicit =
      replyTo (.new limits) request.expression true (evaluate limits request.expression) := by
  simp [policy, asked]

theorem policy_unasked (plain : request.isCommand = false) :
    policy limits request false =
      if Filter.isCandidate request.expression then
        replyTo (.new limits) request.expression false (evaluate limits request.expression)
      else .silence := by
  cases candidate : Filter.isCandidate request.expression <;> simp [policy, plain, candidate]

theorem policy_asked_spoken (explicit : Bool) (asked : (explicit || request.isCommand) = true) :
    policy limits request explicit ≠ .silence := by
  rw [policy_asked limits request explicit asked]
  cases evaluate limits request.expression <;> rintro ⟨⟩

theorem policy_command (command : request.isCommand = true) :
    policy limits request false = policy limits request true := by
  rw [policy_asked limits request false command, policy_asked limits request true rfl]

theorem policy_unasked_result (plain : request.isCommand = false) (value : Rat)
    (computed : evaluate limits request.expression = .ok value) :
    (∃ shown, policy limits request true = .result shown) ∧
    ((∃ c ∈ request.expression.toList, Character.isNumeric c = false) →
      policy limits request false = policy limits request true) ∧
    (¬(∃ c ∈ request.expression.toList, Character.isNumeric c = false) →
      policy limits request false = .silence) := by
  have candidate := evaluated_candidate_iff limits request.expression value computed
  rw [policy_unasked limits request plain, policy_asked limits request true rfl, computed, ← candidate]
  refine ⟨⟨_, rfl⟩, ?_, ?_⟩
  · intro passed
    rw [if_pos passed]
    rfl
  · intro stopped
    rw [if_neg stopped]

theorem policy_unasked_fault (plain : request.isCommand = false) (fault : Fault)
    (failed : evaluate limits request.expression = .error fault) :
    policy limits request true = .fault ("计算失败, error: " ++ fault.message) ∧
      policy limits request false = .silence := by
  rw [policy_unasked limits request plain, policy_asked limits request true rfl, failed]
  refine ⟨rfl, ?_⟩
  split <;> rfl

/-- An answered message leaves an evaluator that has served one text more, or none; so what is said
below of two pasts is said of two messages to one evaluator as well. -/
theorem answer_history (history : List String) (text : String) (explicit : Bool) :
    ∃ later, (answer ((Evaluator.new limits).after history) text explicit).evaluator =
      (Evaluator.new limits).after (history ++ later) := by
  simp only [answer]
  split
  · exact ⟨[], by rw [List.append_nil]⟩
  · refine ⟨[(Chat.request (narrowMarks text)).expression], ?_⟩
    rw [Evaluator.after, Evaluator.after, List.foldl_append]
    rfl

/-- One message in both modes, each to an evaluator with any past. If asked for, it is replied to. A
command is asked for in both modes, and the replies are one. Any other message has, where it was not
asked for, the same reply if that is a result and the message not a mere number, and else none. -/
theorem answer_modes (history other : List String) (text : String) :
    let request := Chat.request (narrowMarks text)
    let implicit := (answer ((Evaluator.new limits).after history) text false).reply
    let explicit := (answer ((Evaluator.new limits).after other) text true).reply
    let shown := (∃ result, explicit = .result result) ∧
      ∃ c ∈ request.expression.toList, Character.isNumeric c = false
    explicit ≠ .silence ∧
    (request.isCommand = true → implicit = explicit ∧ implicit ≠ .silence) ∧
    (request.isCommand = false →
      (shown → implicit = explicit) ∧ (¬shown → implicit = .silence) ∧
        ∀ message, implicit ≠ .fault message) := by
  intro request implicit explicit
  have replied (past : List String) (mode : Bool) :
      (answer ((Evaluator.new limits).after past) text mode).reply = policy limits request mode :=
    answer_reply (after_ready past (new_ready limits)) text mode
  rw [show implicit = policy limits request false from replied history false,
    show explicit = policy limits request true from replied other true]
  refine ⟨policy_asked_spoken limits request true rfl, ?_, ?_⟩
  · intro command
    exact ⟨policy_command limits request command,
      policy_asked_spoken limits request false command⟩
  · intro plain
    cases computed : evaluate limits request.expression with
    | ok value =>
        obtain ⟨⟨result, spoken⟩, same, none⟩ :=
          policy_unasked_result limits request plain value computed
        refine ⟨fun shown => same shown.2, ?_, ?_⟩
        · intro hidden
          exact none fun mixed => hidden ⟨⟨result, spoken⟩, mixed⟩
        · intro message
          by_cases mixed : ∃ c ∈ request.expression.toList, Character.isNumeric c = false
          · rw [same mixed, spoken]
            rintro ⟨⟩
          · rw [none mixed]
            rintro ⟨⟩
    | error fault =>
        obtain ⟨told, none⟩ := policy_unasked_fault limits request plain fault computed
        rw [told, none]
        refine ⟨?_, fun _ => rfl, fun message => nofun⟩
        rintro ⟨⟨result, ⟨⟩⟩, -⟩

theorem answer_modes_texts :
    (answer ((Evaluator.new .standard).after ["1/0"]) "（1+2）×3" false).reply =
        .result "(1+2)×3 = 9" ∧
      (answer ((Evaluator.new .standard).after []) "12" false).reply = .silence ∧
      (answer ((Evaluator.new .standard).after []) "1/0" false).reply = .silence ∧
      (answer ((Evaluator.new .standard).after []) "/calc 1/0" false).reply =
        .fault "计算失败, error: division par zéro" := by
  have product := answer_modes .standard ["1/0"] [] "（1+2）×3"
  have number := answer_modes .standard [] [] "12"
  have failed := answer_modes .standard [] [] "1/0"
  have command := answer_modes .standard [] [] "/calc 1/0"
  have nine : (answer ((Evaluator.new .standard).after []) "（1+2）×3" true).reply =
      .result "(1+2)×3 = 9" := by decide +kernel
  have told : (answer ((Evaluator.new .standard).after []) "1/0" true).reply =
      .fault "计算失败, error: division par zéro" := by decide +kernel
  have asked : (answer ((Evaluator.new .standard).after []) "/calc 1/0" true).reply =
      .fault "计算失败, error: division par zéro" := by decide +kernel
  have digits : (request (narrowMarks "12")).expression.toList.all Character.isNumeric = true := by
    decide +kernel
  refine ⟨?_, (number.2.2 rfl).2.1 ?_, (failed.2.2 rfl).2.1 ?_, (command.2.1 rfl).1.trans asked⟩
  · refine ((product.2.2 (by decide +kernel)).1 ⟨⟨_, nine⟩, '×', ?_, ?_⟩).trans nine
    all_goals decide +kernel
  · rintro ⟨-, c, member, unlike⟩
    rw [List.all_eq_true.mp digits c member] at unlike
    cases unlike
  · rintro ⟨⟨result, shown⟩, -⟩
    rw [told] at shown
    cases shown

end Chat

end RationalCalc
