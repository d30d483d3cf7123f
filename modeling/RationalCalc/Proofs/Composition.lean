import RationalCalc.Proofs.Denotation

/-!
Texts put together from texts. Between parentheses a text is cut, converted and computed as it is on
its own: no piece reaches over a parenthesis, the converter does not look below the one that opened,
and the machine leaves the values below alone. So a text made of others denotes the tree made of
theirs, and its value is the operator's on their values.
-/

namespace RationalCalc

namespace Rpn

/-! The converter above a parenthesis -/

/-- A draft on top of another, a parenthesis between them. -/
def Draft.above (draft before : Draft) : Draft where
  output := draft.output ++ before.output
  pending := draft.pending ++ .opening :: before.pending
  afterValue := draft.afterValue
  ended := draft.ended

theorem release_above (leaves : Token → Bool) (output pending below waiting : List Token)
    (spares : leaves .opening = false) :
    release leaves (output ++ below) (pending ++ .opening :: waiting) =
      ((release leaves output pending).1 ++ below,
        (release leaves output pending).2 ++ .opening :: waiting) := by
  induction pending generalizing output with
  | nil => simp [release, spares]
  | cons top pending ih =>
      by_cases leaving : leaves top = true
      · simp only [List.cons_append, release, leaving, ↓reduceIte]
        exact ih (released top :: output)
      · simp [release, leaving]

theorem operation_above (draft before : Draft) (token : Token) :
    (draft.above before).operation token = (draft.operation token).above before := by
  have released := release_above (yields token) draft.output draft.pending before.output
    before.pending rfl
  simp [Draft.operation, Draft.above, released]

theorem closed_above (draft before next : Draft) (closed : draft.closed = .ok next) :
    (draft.above before).closed = .ok (next.above before) := by
  have released := release_above (· != .opening) draft.output draft.pending before.output
    before.pending rfl
  simp only [Draft.closed] at closed
  split at closed
  · cases closed
  · rename_i put top below left
    cases closed
    rw [left] at released
    simp [Draft.closed, Draft.above, released]

theorem step_above (draft before next : Draft) (token : Token) (step : draft.step token = .ok next) :
    (draft.above before).step token = .ok (next.above before) := by
  obtain ⟨going, takes⟩ := (step_iff draft next token).mp step
  refine (step_iff ..).mpr ⟨going, ?_⟩
  cases takes with
  | ending => exact .ending
  | number value => exact .number value
  | name text => exact .name text
  | opening => exact .opening
  | closing next closed => exact .closing _ (closed_above draft before next closed)
  | plus fresh => exact .plus fresh
  | minus fresh => exact .minus fresh
  | operation token operates value =>
      rw [← operation_above]
      exact .operation token operates value

theorem run_above (tokens : List Token) (draft before last : Draft)
    (run : tokens.foldlM Draft.step draft = .ok last) :
    tokens.foldlM Draft.step (draft.above before) = .ok (last.above before) := by
  induction tokens generalizing draft with
  | nil =>
      cases run
      rfl
  | cons token rest ih =>
      obtain ⟨next, step, run⟩ := (run_cons token rest draft last).mp run
      have above := step_above draft before next token step
      exact (run_cons ..).mpr ⟨_, above, ih next run⟩

/-! Tokens that are a program's -/

theorem converted_iff (tokens program : List Token) :
    ofTokens (tokens ++ [.ending]) = .ok program ↔
      ∃ last, tokens.foldlM Draft.step .start = .ok last ∧ last.ended = false ∧
        release (· != .opening) last.output last.pending = (program.reverse, []) := by
  constructor
  · intro converted
    obtain ⟨draft, run, finish⟩ := (ofTokens_ok _ program).mp converted
    obtain ⟨last, front, ending⟩ := (run_append tokens [.ending] .start draft).mp run
    obtain ⟨_, step, ⟨⟩⟩ := (run_cons .ending [] last draft).mp ending
    obtain ⟨going, takes⟩ := (step_iff last draft .ending).mp step
    cases takes with
    | ending =>
        have left := (finish_iff { last with ended := true } program.reverse).mp finish
        exact ⟨last, front, going, left⟩
    | operation _ operates => simp at operates
  · rintro ⟨last, run, going, left⟩
    have step := (step_iff last _ .ending).mpr ⟨going, .ending⟩
    refine (ofTokens_ok _ program).mpr ⟨{ last with ended := true }, ?_, ?_⟩
    · exact (run_append ..).mpr ⟨last, run, (run_cons ..).mpr ⟨_, step, rfl⟩⟩
    · exact (finish_iff { last with ended := true } program.reverse).mpr left

def grouped (tokens : List Token) : List Token :=
  .opening :: (tokens ++ [.closing])

theorem grouped_run (tokens program : List Token) (before : Draft)
    (converted : ofTokens (tokens ++ [.ending]) = .ok program) (going : before.ended = false) :
    (grouped tokens).foldlM Draft.step before =
      .ok ⟨program.reverse ++ before.output, before.pending, true, false⟩ := by
  obtain ⟨last, run, same, left⟩ := (converted_iff tokens program).mp converted
  have opened : before.step .opening = .ok (Draft.start.above before) := by
    simp [Draft.step, going, Draft.opened, Draft.above, Draft.start]
  have closed : (last.above before).step .closing =
      .ok ⟨program.reverse ++ before.output, before.pending, true, false⟩ := by
    have released := release_above (· != .opening) last.output last.pending before.output
      before.pending rfl
    rw [left] at released
    simp [Draft.step, Draft.closed, Draft.above, same, released]
  have inner := run_above tokens .start before last run
  exact (run_cons ..).mpr ⟨_, opened,
    (run_append ..).mpr ⟨_, inner, (run_cons ..).mpr ⟨_, closed, rfl⟩⟩⟩

theorem converted_group (tokens program : List Token)
    (converted : ofTokens (tokens ++ [.ending]) = .ok program) :
    ofTokens (grouped tokens ++ [.ending]) = .ok program := by
  have run := grouped_run tokens program .start converted rfl
  exact (converted_iff ..).mpr ⟨_, run, rfl, by simp [release, Draft.start]⟩

theorem converted_negative (tokens program : List Token)
    (converted : ofTokens (tokens ++ [.ending]) = .ok program) :
    ofTokens (.operator .minus :: grouped tokens ++ [.ending]) =
      .ok (.number 0 :: program ++ [.operator .minus]) := by
  have run := grouped_run tokens program (Draft.start.signed '-') converted rfl
  refine (converted_iff ..).mpr ⟨_, (run_cons ..).mpr ⟨_, rfl, run⟩, rfl, ?_⟩
  simp [release, released, Draft.signed, Draft.start]

theorem converted_bang (tokens program : List Token)
    (converted : ofTokens (tokens ++ [.ending]) = .ok program) :
    ofTokens (grouped tokens ++ [.bang] ++ [.ending]) = .ok (program ++ [.bang]) := by
  have run := grouped_run tokens program .start converted rfl
  refine (converted_iff ..).mpr ⟨_, (run_append ..).mpr ⟨_, run, rfl⟩, rfl, ?_⟩
  simp [release, released, Draft.operation, Draft.start]

theorem converted_binary (op : Operator) (one two first second : List Token)
    (left : ofTokens (one ++ [.ending]) = .ok first)
    (right : ofTokens (two ++ [.ending]) = .ok second) :
    ofTokens (grouped one ++ .operator op :: grouped two ++ [.ending]) =
      .ok (first ++ second ++ [.operator op]) := by
  have front := grouped_run one first .start left rfl
  have back := grouped_run two second ⟨first.reverse, [.operator op], false, false⟩ right rfl
  have waits : Draft.step ⟨first.reverse ++ [], [], true, false⟩ (.operator op) =
      .ok ⟨first.reverse, [.operator op], false, false⟩ := by
    simp [Draft.step, Draft.operation, release]
  have run := (run_append ..).mpr ⟨_, front, (run_cons ..).mpr ⟨_, waits, back⟩⟩
  exact (converted_iff ..).mpr ⟨_, run, rfl, by simp [release, released]⟩

end Rpn

/-! Texts between parentheses -/

namespace Lexer

def groupedPieces (pieces : List Piece) : List Piece :=
  .fixed .opening :: (pieces ++ [.fixed .closing])

theorem segments_fixed (token : Token) (spelled : token ∈ symbolTokens ++ letterTokens) :
    Segments token.spelling.toList [.fixed token] :=
  segments_single (.fixed token) spelled

theorem parted_closing (left right : List Char) : Parted (left ++ [')']) right :=
  parted_last left right ')' Piece.closing_solitary

theorem parted_opening (left right : List Char) : Parted left ('(' :: right) :=
  parted_first left right '(' Piece.opening_solitary

theorem segments_grouped (text : List Char) (pieces : List Piece) (cut : Segments text pieces) :
    Segments ('(' :: text ++ [')']) (groupedPieces pieces) := by
  have closed := segments_append text [')'] pieces _
    (parted_first text [] ')' Piece.closing_solitary) cut
    (segments_fixed .closing (by decide))
  exact segments_append ['('] (text ++ [')']) _ _
    (parted_last [] _ '(' Piece.opening_solitary)
    (segments_fixed .opening (by decide)) closed

theorem fixed_readable (token : Token) : (Piece.fixed token).Readable :=
  trivial

theorem grouped_readable (pieces : List Piece) (readable : ∀ piece ∈ pieces, piece.Readable) :
    ∀ piece ∈ groupedPieces pieces, piece.Readable := by
  have last := List.forall_mem_singleton.mpr (fixed_readable .closing)
  have behind := List.forall_mem_append.mpr ⟨readable, last⟩
  exact List.forall_mem_cons.mpr ⟨fixed_readable .opening, behind⟩

theorem grouped_tokens (pieces : List Piece) :
    (groupedPieces pieces).filterMap Piece.token? = Rpn.grouped (pieces.filterMap Piece.token?) := by
  simp [groupedPieces, Rpn.grouped, Piece.token?]

theorem fixed_tokens (token : Token) (pieces : List Piece) :
    (Piece.fixed token :: pieces).filterMap Piece.token? =
      token :: pieces.filterMap Piece.token? :=
  rfl

theorem narrowed_spelling : ∀ token ∈ symbolTokens ++ letterTokens,
    (Text.narrowed token.spelling).toList = token.spelling.toList := by
  decide +kernel

theorem narrowed_grouped (text : String) :
    (Text.narrowed ("(" ++ text ++ ")")).toList = '(' :: (Text.narrowed text).toList ++ [')'] := by
  rw [narrowed_append, narrowed_append]
  rfl

end Lexer

namespace Denotes

open Lexer

variable {text one two : String} {pieces first second : List Piece} {tree left right : Expression}

theorem group (denotes : Denotes text pieces tree) :
    Denotes ("(" ++ text ++ ")") (groupedPieces pieces) tree := by
  refine ⟨?_, grouped_readable pieces denotes.readable, ?_⟩
  · rw [narrowed_grouped]
    exact segments_grouped _ pieces denotes.cut
  · rw [grouped_tokens]
    exact Rpn.converted_group _ _ denotes.converted

theorem negative (denotes : Denotes text pieces tree) :
    Denotes ("-" ++ ("(" ++ text ++ ")")) (.fixed (.operator .minus) :: groupedPieces pieces)
      (.binary .minus (.number 0) tree) := by
  refine ⟨?_, ?_, ?_⟩
  · rw [narrowed_append, narrowed_grouped]
    exact segments_append _ _ _ _ (parted_opening _ _) (segments_fixed (.operator .minus) (by decide))
      (segments_grouped _ pieces denotes.cut)
  · have inner := grouped_readable pieces denotes.readable
    exact List.forall_mem_cons.mpr ⟨fixed_readable (.operator .minus), inner⟩
  · rw [fixed_tokens, grouped_tokens]
    exact Rpn.converted_negative _ _ denotes.converted

theorem bang (denotes : Denotes text pieces tree) :
    Denotes ("(" ++ text ++ ")" ++ "!") (groupedPieces pieces ++ [.fixed .bang]) (.bang tree) := by
  refine ⟨?_, ?_, ?_⟩
  · rw [narrowed_append, narrowed_grouped]
    exact segments_append _ _ _ _ (parted_closing _ _) (segments_grouped _ pieces denotes.cut)
      (segments_fixed .bang (by decide))
  · have last := List.forall_mem_singleton.mpr (fixed_readable .bang)
    exact List.forall_mem_append.mpr ⟨grouped_readable pieces denotes.readable, last⟩
  · rw [List.filterMap_append, grouped_tokens]
    exact Rpn.converted_bang _ _ denotes.converted

theorem binary (op : Operator) (spelled : .operator op ∈ symbolTokens ++ letterTokens)
    (before : Denotes one first left) (behind : Denotes two second right) :
    Denotes ("(" ++ one ++ ")" ++ op.spelling ++ ("(" ++ two ++ ")"))
      (groupedPieces first ++ .fixed (.operator op) :: groupedPieces second)
      (.binary op left right) := by
  refine ⟨?_, ?_, ?_⟩
  · rw [narrowed_append, narrowed_append, narrowed_grouped, narrowed_grouped, List.append_assoc]
    have narrow := narrowed_spelling (.operator op) spelled
    rw [show op.spelling = (Token.operator op).spelling from rfl, narrow]
    have operand := segments_append _ _ _ _ (parted_opening _ _) (segments_fixed _ spelled)
      (segments_grouped _ second behind.cut)
    exact segments_append _ _ _ _ (parted_closing _ _) (segments_grouped _ first before.cut) operand
  · have operand := List.forall_mem_cons.mpr
      ⟨fixed_readable (.operator op), grouped_readable second behind.readable⟩
    exact List.forall_mem_append.mpr ⟨grouped_readable first before.readable, operand⟩
  · rw [List.filterMap_append, fixed_tokens, grouped_tokens, grouped_tokens]
    exact Rpn.converted_binary op _ _ _ _ before.converted behind.converted

end Denotes

/-! Values -/

def binaries : List (String × (Rat → Rat → Limits → Except Fault Rat)) :=
  [("+", fun a b _ => .ok (a + b)), ("-", fun a b _ => .ok (a - b)), ("*", fun a b _ => .ok (a * b)),
    ("/", fun a b _ => Arithmetic.quotient a b), ("//", fun a b _ => Arithmetic.floorQuotient a b),
    ("%", fun a b _ => Arithmetic.remainder a b), ("^", Arithmetic.power), ("**", Arithmetic.power),
    ("P", Arithmetic.arrangements), ("p", Arithmetic.arrangements), ("A", Arithmetic.arrangements),
    ("a", Arithmetic.arrangements), ("C", Arithmetic.combinations), ("c", Arithmetic.combinations)]

def operators : List Operator :=
  [.plus, .minus, .times, .divide, .floorDivide, .remainder, .power .caret, .power .stars,
    .arrange 'P', .arrange 'p', .arrange 'A', .arrange 'a', .choose 'C', .choose 'c']

theorem operators_spelled : ∀ op ∈ operators,
    Token.operator op ∈ Lexer.symbolTokens ++ Lexer.letterTokens := by
  decide

theorem binaries_operators : binaries = operators.map fun op => (op.spelling, Rpn.apply op) :=
  rfl

/-- Evaluation is compositional: a text between parentheses counts for its value, with a sign before
it, a bang behind it, or as an operand. -/
theorem evaluate_compositional (limits : Limits) (one two : String) (a b : Rat)
    (first : evaluate limits one = .ok a) (second : evaluate limits two = .ok b) :
    evaluate limits ("(" ++ one ++ ")") = .ok a ∧
    evaluate limits ("-(" ++ one ++ ")") = .ok (-a) ∧
    evaluate limits ("(" ++ one ++ ")!") = Arithmetic.factorial a limits ∧
    ∀ text compute, (text, compute) ∈ binaries →
      evaluate limits ("(" ++ one ++ ")" ++ text ++ "(" ++ two ++ ")") = compute a b limits := by
  obtain ⟨left, tree, before, value⟩ := evaluate_denotes limits one a first
  obtain ⟨right, other, behind, operand⟩ := evaluate_denotes limits two b second
  refine ⟨?_, ?_, ?_, ?_⟩
  · rw [before.group.evaluate, value]
  · have same : "-(" ++ one ++ ")" = "-" ++ ("(" ++ one ++ ")") := by
      simp only [← String.append_assoc]
      rfl
    rw [same, before.negative.evaluate]
    simp only [Expression.value, value, Rpn.apply]
    exact congrArg Except.ok (by rw [Rat.sub_eq_add_neg, Rat.zero_add])
  · have same : "(" ++ one ++ ")!" = "(" ++ one ++ ")" ++ "!" := by
      rw [show ")!" = ")" ++ "!" from rfl, ← String.append_assoc]
    rw [same, before.bang.evaluate]
    simp only [Expression.value, value]
    rfl
  · intro text compute member
    rw [binaries_operators] at member
    obtain ⟨op, listed, same⟩ := List.mem_map.mp member
    obtain ⟨same, computes⟩ := Prod.mk.inj same
    have spelled := operators_spelled op listed
    have result : (Expression.binary op tree other).value limits = Rpn.apply op a b limits := by
      simp only [Expression.value, value, operand]
      rfl
    have binary := (Denotes.binary op spelled before behind).evaluate limits
    rw [← same, ← computes, ← result]
    simpa only [String.append_assoc] using binary

theorem evaluate_compositional_sum :
    evaluate .standard " 1+2 " = .ok 3 ∧ evaluate .standard "-4" = .ok (-4) ∧
      evaluate .standard "( 1+2 )" = .ok 3 ∧ evaluate .standard "-( 1+2 )" = .ok (-3) ∧
      evaluate .standard "( 1+2 )!" = Arithmetic.factorial 3 .standard ∧
      evaluate .standard "( 1+2 )*(-4)" = .ok (3 * -4) := by
  have three : evaluate .standard " 1+2 " = .ok 3 := by decide +kernel
  have negative : evaluate .standard "-4" = .ok (-4) := by decide +kernel
  obtain ⟨group, opposite, bang, binary⟩ :=
    evaluate_compositional .standard " 1+2 " "-4" 3 (-4) three negative
  have product := binary "*" (fun a b _ => .ok (a * b)) (by simp [binaries])
  exact ⟨three, negative, group, opposite, bang, product⟩

end RationalCalc
