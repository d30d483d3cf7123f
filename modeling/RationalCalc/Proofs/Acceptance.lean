import Mathlib.Data.List.Induction
import RationalCalc.Proofs.Conservation

/-!
Which tokens are converted. Of any list of tokens whatever, the first that is wrong decides: one that
follows the ending, a sign, or a parenthesis that closes none. If none is wrong, nothing remains to
be checked but that all parentheses are closed. The operators that wait are never asked, for those
released by a parenthesis lie above the one it closes.
-/

namespace RationalCalc.Rpn

/-- What is wrong with a token behind those before it. After the ending every token is. -/
inductive Offends (before : List Token) (token : Token) : Fault → Prop where
  | late (ended : .ending ∈ before) : Offends before token (.afterEnding token)
  | stray (going : .ending ∉ before) (mark : Char) (sign : token = .sign mark) :
      Offends before token (.strayToken token)
  | unopened (going : .ending ∉ before) (closes : token = .closing)
      (none : before.count .opening ≤ before.count .closing) : Offends before token .unbalanced

def Faultless (tokens : List Token) : Prop :=
  ∀ before token after fault, tokens = before ++ token :: after → ¬Offends before token fault

variable {before tokens : List Token} {token : Token} {fault other : Fault}

theorem offends_unique (one : Offends before token fault) (two : Offends before token other) :
    fault = other := by
  cases one with
  | late ended =>
      cases two with
      | late => rfl
      | stray going => exact absurd ended going
      | unopened going => exact absurd ended going
  | stray going mark sign =>
      cases two with
      | late ended => exact absurd ended going
      | stray => rfl
      | unopened _ closes => rw [sign] at closes; cases closes
  | unopened going closes =>
      cases two with
      | late ended => exact absurd ended going
      | stray _ mark sign => rw [sign] at closes; cases closes
      | unopened => rfl

theorem faultless_nil : Faultless [] := by
  intro before token after fault same
  simp at same

theorem faultless_concat :
    Faultless (tokens ++ [token]) ↔ Faultless tokens ∧ ∀ fault, ¬Offends tokens token fault := by
  constructor
  · intro faultless
    constructor
    · intro before other after fault same
      apply faultless before other (after ++ [token]) fault
      simp [same]
    · intro fault
      exact faultless tokens token [] fault rfl
  · rintro ⟨faultless, last⟩ before other after fault same
    rcases List.eq_nil_or_concat after with rfl | ⟨front, final, rfl⟩
    · obtain ⟨rfl, ends⟩ := List.append_inj' same rfl
      cases ends
      exact last fault
    · have shorter : tokens = before ++ other :: front := by
        have both : tokens ++ [token] = (before ++ other :: front) ++ [final] := by simp [same]
        exact (List.append_inj' both rfl).1
      exact faultless before other front fault shorter

theorem faultless_going (clean : Faultless tokens) (before : List Token) (token : Token)
    (after : List Token) (whole : tokens = before ++ token :: after) : .ending ∉ before :=
  fun ended => clean before token after (.afterEnding token) whole (.late ended)

theorem faultless_last (clean : Faultless tokens) (before after : List Token)
    (whole : tokens = before ++ .ending :: after) : after = [] := by
  cases after with
  | nil => rfl
  | cons next rest =>
      have longer : tokens = (before ++ [.ending]) ++ next :: rest := by simp [whole]
      exact absurd (by simp) (faultless_going clean _ next rest longer)

theorem faultless_signless (clean : Faultless tokens) (mark : Char) : .sign mark ∉ tokens := by
  intro member
  obtain ⟨before, after, whole⟩ := List.append_of_mem member
  have going := faultless_going clean before _ after whole
  exact clean before _ after _ whole (.stray going mark rfl)

theorem faultless_opened (clean : Faultless tokens) (front : List Token) (begins : front <+: tokens) :
    front.count .closing ≤ front.count .opening := by
  induction front using List.reverseRecOn with
  | nil => exact Nat.le_refl _
  | append_singleton before token ih =>
      obtain ⟨after, same⟩ := begins
      have whole : tokens = before ++ token :: after := by simp [← same]
      have sofar := ih ⟨token :: after, whole.symm⟩
      simp only [List.count_append, List.count_singleton, beq_iff_eq]
      by_cases closes : token = .closing
      · have going := faultless_going clean before token after whole
        have opens : ¬ before.count .opening ≤ before.count .closing := fun none =>
          clean before token after _ whole (.unopened going closes none)
        simp only [closes, if_true]
        omega
      · simp only [closes, if_false]
        omega

theorem faultless_iff (tokens : List Token) : Faultless tokens ↔
    (∀ mark, .sign mark ∉ tokens) ∧
    (∀ before after, tokens = before ++ .ending :: after → after = []) ∧
    ∀ front, front <+: tokens → front.count .closing ≤ front.count .opening := by
  constructor
  · intro clean
    exact ⟨faultless_signless clean, faultless_last clean, faultless_opened clean⟩
  · rintro ⟨signless, last, opened⟩ before token after fault whole offends
    cases offends with
    | late ended =>
        obtain ⟨front, middle, rfl⟩ := List.append_of_mem ended
        have none := last front (middle ++ token :: after) (by simp [whole])
        simp at none
    | stray _ mark sign => exact signless mark (by simp [whole, sign])
    | unopened _ closes none =>
        have more := opened (before ++ [token]) ⟨after, by simp [whole]⟩
        simp only [closes, List.count_append, List.count_singleton] at more
        simp at more
        omega

/-! One token -/

theorem inoffensive (going : .ending ∉ before) (signless : ∀ mark, token ≠ .sign mark)
    (opens : token = .closing → before.count .closing < before.count .opening) :
    ∀ fault, ¬Offends before token fault := by
  intro fault offends
  cases offends with
  | late ended => exact going ended
  | stray _ mark sign => exact signless mark sign
  | unopened _ closes none =>
      have deep := opens closes
      omega

theorem closed_cases (draft : Draft) :
    (∃ next, draft.closed = .ok next ∧ next.ended = draft.ended) ∧
        0 < draft.pending.count .opening ∨
      (∃ state, draft.closed = .error ⟨.unbalanced, state⟩) ∧
        draft.pending.count .opening = 0 := by
  rcases release_opening draft.output draft.pending with
    ⟨put, left, -, none⟩ | ⟨put, below, left, -, depth⟩
  · exact .inr ⟨by simp [Draft.closed, left], none⟩
  · exact .inl ⟨by simp [Draft.closed, left], by omega⟩

/-- What a draft knows of the tokens before it: whether the ending was one and, by the parentheses
that wait, how many are open. -/
structure Knows (draft : Draft) (before : List Token) : Prop where
  ended : draft.ended = true ↔ .ending ∈ before
  depth : draft.pending.count .opening + before.count .closing = before.count .opening

theorem knows_start : Knows .start [] := by
  constructor
  · simp [Draft.start]
  · rfl

theorem takes_ended (draft next : Draft) (going : draft.ended = false)
    (takes : Takes draft token next) : next.ended = true ↔ token = .ending := by
  cases takes with
  | ending => simp
  | closing next closed =>
      rcases closed_cases draft with ⟨⟨other, same, kept⟩, -⟩ | ⟨⟨state, failed⟩, -⟩
      · cases same.symm.trans closed
        simp [kept, going]
      · cases failed.symm.trans closed
  | operation token operates value =>
      rcases operates with rfl | ⟨op, rfl⟩ <;> simp [Draft.operation, going]
  | _ => simp [Draft.operand, Draft.opened, Draft.signed, going]

theorem knows_step (draft next : Draft) (knows : Knows draft before)
    (step : draft.step token = .ok next) : Knows next (before ++ [token]) := by
  obtain ⟨going, takes⟩ := (step_iff draft next token).mp step
  constructor
  · have absent : .ending ∉ before := by simp [← knows.ended, going]
    rw [takes_ended draft next going takes, List.mem_append, List.mem_singleton]
    constructor
    · exact fun same => .inr same.symm
    · exact fun member => (member.resolve_left absent).symm
  · have turn := (step_effect draft next token step).depth
    have open_ := knows.depth
    simp only [List.count_append]
    omega

theorem takes_some (draft : Draft) (token : Token) (going : draft.ended = false)
    (signless : ∀ mark, token ≠ .sign mark)
    (opens : token = .closing → 0 < draft.pending.count .opening) :
    ∃ next, Takes draft token next := by
  cases token with
  | ending => exact ⟨_, .ending⟩
  | number value => exact ⟨_, .number value⟩
  | name text => exact ⟨_, .name text⟩
  | opening => exact ⟨_, .opening⟩
  | bang => exact ⟨_, .operation .bang (.inl rfl) rfl⟩
  | sign mark => exact absurd rfl (signless mark)
  | closing =>
      rcases closed_cases draft with ⟨⟨next, closed, -⟩, -⟩ | ⟨-, none⟩
      · exact ⟨next, .closing next closed⟩
      · have deep := opens rfl
        omega
  | operator op =>
      obtain ⟨next, -, takes⟩ := operator_step draft op going
      exact ⟨next, takes⟩

theorem step_outcome (draft : Draft) (knows : Knows draft before) (token : Token) :
    (∃ next, draft.step token = .ok next ∧ Knows next (before ++ [token])) ∧
        (∀ fault, ¬Offends before token fault) ∨
      ∃ fault state, draft.step token = .error ⟨fault, state⟩ ∧ Offends before token fault := by
  cases ended : draft.ended with
  | true =>
      exact .inr ⟨.afterEnding token, draft, by simp [Draft.step, ended],
        .late (knows.ended.mp ended)⟩
  | false =>
      have going : .ending ∉ before := by simp [← knows.ended, ended]
      have open_ := knows.depth
      by_cases sign : ∃ mark, token = .sign mark
      · obtain ⟨mark, rfl⟩ := sign
        exact .inr ⟨.strayToken (.sign mark), draft, by simp [Draft.step, ended],
          .stray going mark rfl⟩
      have signless (mark : Char) : token ≠ .sign mark := fun same => sign ⟨mark, same⟩
      by_cases unopened : token = .closing ∧ draft.pending.count .opening = 0
      · obtain ⟨rfl, none⟩ := unopened
        rcases closed_cases draft with ⟨-, deep⟩ | ⟨⟨state, failed⟩, -⟩
        · omega
        · exact .inr ⟨.unbalanced, state, by simp [Draft.step, ended, failed],
            .unopened going rfl (by omega)⟩
      · have opens (closes : token = .closing) : 0 < draft.pending.count .opening :=
          Nat.pos_of_ne_zero fun none => unopened ⟨closes, none⟩
        obtain ⟨next, takes⟩ := takes_some draft token ended signless opens
        have step := (step_iff draft next token).mpr ⟨ended, takes⟩
        refine .inl ⟨⟨next, step, knows_step draft next knows step⟩, ?_⟩
        apply inoffensive going signless
        intro closes
        have deep := opens closes
        omega

/-! All tokens -/

theorem run_outcome (tokens : List Token) :
    (∃ draft, tokens.foldlM Draft.step .start = .ok draft ∧ Knows draft tokens) ∧
        Faultless tokens ∨
      ∃ before token after fault state, tokens = before ++ token :: after ∧ Faultless before ∧
        Offends before token fault ∧
        tokens.foldlM Draft.step .start = .error ⟨fault, state⟩ := by
  induction tokens using List.reverseRecOn with
  | nil => exact .inl ⟨⟨.start, rfl, knows_start⟩, faultless_nil⟩
  | append_singleton tokens last ih =>
      rcases ih with ⟨⟨draft, run, knows⟩, faultless⟩ |
        ⟨before, token, after, fault, state, whole, faultless, offends, run⟩
      · have more : (tokens ++ [last]).foldlM Draft.step .start = draft.step last := by
          simp only [List.foldlM_append, run, List.foldlM_cons, List.foldlM_nil, bind_pure]
          rfl
        rcases step_outcome draft knows last with
          ⟨⟨next, step, known⟩, taken⟩ | ⟨fault, state, step, offends⟩
        · exact .inl ⟨⟨next, more.trans step, known⟩, faultless_concat.mpr ⟨faultless, taken⟩⟩
        · exact .inr ⟨tokens, last, [], fault, state, rfl, faultless, offends, more.trans step⟩
      · refine .inr ⟨before, token, after ++ [last], fault, state, by simp [whole], faultless,
          offends, ?_⟩
        simp [List.foldlM_append, run, bind, Except.bind]

theorem finish_outcome (draft : Draft) :
    (∃ output, draft.finish = .ok output) ∧ draft.pending.count .opening = 0 ∨
      (∃ state, draft.finish = .error ⟨.unbalanced, state⟩) ∧
        0 < draft.pending.count .opening := by
  rcases release_opening draft.output draft.pending with
    ⟨put, left, -, none⟩ | ⟨put, below, left, -, depth⟩
  · exact .inl ⟨by simp [Draft.finish, left], none⟩
  · exact .inr ⟨by simp [Draft.finish, left], by omega⟩

/-- What stops the conversion of the tokens: the first that is wrong or, if none is, a parenthesis
that stays open. -/
inductive Stops (tokens : List Token) : Fault → Prop where
  | offending (before : List Token) (token : Token) (after : List Token)
      (whole : tokens = before ++ token :: after) (first : Faultless before) (fault : Fault)
      (offends : Offends before token fault) : Stops tokens fault
  | unclosed (faultless : Faultless tokens)
      (open_ : tokens.count .closing < tokens.count .opening) : Stops tokens .unbalanced

theorem stops_outcome (tokens : List Token) :
    (∃ program, ofTokens tokens = .ok program) ∧ Faultless tokens ∧
        tokens.count .closing = tokens.count .opening ∨
      ∃ fault, ofTokens tokens = .error fault ∧ Stops tokens fault := by
  rw [ofTokens_outcome]
  rcases run_outcome tokens with ⟨⟨draft, run, knows⟩, faultless⟩ |
    ⟨before, token, after, fault, state, whole, first, offends, run⟩
  · have depth := knows.depth
    rw [run]
    rcases finish_outcome draft with ⟨⟨output, finish⟩, none⟩ | ⟨⟨state, finish⟩, waits⟩
    · refine .inl ⟨⟨output.reverse, ?_⟩, faultless, by omega⟩
      simp [Except.bind, finish, Except.mapError, Except.map]
    · refine .inr ⟨.unbalanced, ?_, .unclosed faultless (by omega)⟩
      simp [Except.bind, finish, Except.mapError, Except.map]
  · exact .inr ⟨fault, by simp [run, Except.bind, Except.mapError, Except.map],
      .offending before token after whole first fault offends⟩

theorem faultless_length (front rest : List Token) (whole : tokens = before ++ token :: rest)
    (offends : Offends before token fault) (begins : front <+: tokens) (clean : Faultless front) :
    front.length ≤ before.length := by
  have offending : before ++ [token] <+: tokens := ⟨rest, by simp [whole]⟩
  rcases List.prefix_or_prefix_of_prefix begins offending with short | ⟨more, long⟩
  · rcases List.prefix_concat_iff.mp short with rfl | within
    · exact absurd offends ((faultless_concat.mp clean).2 fault)
    · exact within.length_le
  · exact absurd offends (clean before token more fault (by simp [← long]))

theorem stops_unique (one : Stops tokens fault) (two : Stops tokens other) : fault = other := by
  cases one with
  | offending before token after whole first fault offends =>
      cases two with
      | offending front next rest whole' first' fault' offends' =>
          have longer := faultless_length front after whole offends ⟨_, whole'.symm⟩ first'
          have shorter := faultless_length before rest whole' offends' ⟨_, whole.symm⟩ first
          have same : before ++ token :: after = front ++ next :: rest := whole.symm.trans whole'
          obtain ⟨rfl, here⟩ := List.append_inj same (Nat.le_antisymm shorter longer)
          cases here
          exact offends_unique offends offends'
      | unclosed faultless => exact absurd offends (faultless before token after fault whole)
  | unclosed faultless =>
      cases two with
      | offending before token after whole _ _ offends =>
          exact absurd offends (faultless before token after _ whole)
      | unclosed => rfl

theorem stops_open (stops : Stops tokens fault) (faultless : Faultless tokens) :
    tokens.count .closing < tokens.count .opening := by
  cases stops with
  | offending before token after whole _ _ offends =>
      exact absurd offends (faultless before token after fault whole)
  | unclosed _ open_ => exact open_

theorem stopped_iff (tokens : List Token) (fault : Fault) :
    ofTokens tokens = .error fault ↔ Stops tokens fault := by
  rcases stops_outcome tokens with ⟨⟨program, converted⟩, faultless, closed⟩ |
    ⟨other, stopped, stops⟩
  · rw [converted]
    constructor
    · rintro ⟨⟩
    · intro also
      have unclosed := stops_open also faultless
      omega
  · rw [stopped]
    constructor
    · rintro ⟨⟩
      exact stops
    · exact fun also => congrArg Except.error (stops_unique stops also)

theorem accepted_iff (tokens : List Token) :
    (∃ program, ofTokens tokens = .ok program) ↔
      Faultless tokens ∧ tokens.count .closing = tokens.count .opening := by
  rcases stops_outcome tokens with ⟨converted, clean⟩ | ⟨fault, stopped, stops⟩
  · exact iff_of_true converted clean
  · rw [stopped]
    constructor
    · rintro ⟨program, ⟨⟩⟩
    · rintro ⟨faultless, closed⟩
      have unclosed := stops_open stops faultless
      omega

theorem faultless_balanced (tokens : List Token) :
    Faultless tokens ∧ tokens.count .closing = tokens.count .opening ↔
      (∀ mark, .sign mark ∉ tokens) ∧
      (∀ before after, tokens = before ++ .ending :: after → after = []) ∧
      Balanced 0 tokens := by
  rw [faultless_iff]
  constructor
  · rintro ⟨⟨signless, ends, opened⟩, closed⟩
    exact ⟨signless, ends, by simpa using opened, by simpa using closed⟩
  · rintro ⟨signless, ends, opened, closed⟩
    exact ⟨⟨signless, ends, by simpa using opened⟩, by simpa using closed⟩

theorem stops_fault (stops : Stops tokens fault) :
    fault.position? = none ∧
      fault.kind = if fault = .unbalanced then .mismatchedParentheses else .unexpectedToken := by
  cases stops with
  | offending before token after whole first fault offends => cases offends <;> exact ⟨rfl, rfl⟩
  | unclosed => exact ⟨rfl, rfl⟩

/-- Any list of tokens is converted if it has no sign, ends with the ending if it has one, and its
parentheses balance. Otherwise the first token that is wrong gives the fault, or what stays open does
if none is; no fault tells a position. -/
theorem conversion_decided (tokens : List Token) :
    ((∃ program, ofTokens tokens = .ok program) ↔
      (∀ mark, .sign mark ∉ tokens) ∧
      (∀ before after, tokens = before ++ .ending :: after → after = []) ∧
      Balanced 0 tokens) ∧
    (∀ fault, ofTokens tokens = .error fault ↔ Stops tokens fault) ∧
    ∀ fault, ofTokens tokens = .error fault → fault.position? = none ∧
      fault.kind = if fault = .unbalanced then .mismatchedParentheses else .unexpectedToken := by
  refine ⟨(accepted_iff tokens).trans (faultless_balanced tokens), stopped_iff tokens, ?_⟩
  intro fault failed
  exact stops_fault ((stopped_iff tokens fault).mp failed)

/-- Behind the ending even a parenthesis that closes none is only a token too many. -/
example : ofTokens [.opening, .ending, .closing, .closing] = .error (.afterEnding .closing) ∧
    ofTokens [.opening, .closing, .closing, .sign '+'] = .error .unbalanced ∧
    ofTokens [.opening, .operator .times, .bang, .closing] = .ok [.bang, .operator .times] := by
  decide

end RationalCalc.Rpn
