import RationalCalc.Proofs.Acceptance
import RationalCalc.Proofs.Alternation
import RationalCalc.Proofs.Parentheses
import RationalCalc.Proofs.Stages

/-!
Where the fault of a text comes from. What the lexer makes of a text gives the converter nothing to
refuse but its parentheses, and what the converter makes of that gives the machine nothing that it
cannot execute. So the kind of a fault says how far the text was fine.
-/

namespace RationalCalc

/-! Converting tokens -/

namespace Rpn

theorem offends_written (tokens before after : List Token) (token : Token) (fault : Fault)
    (written : ∀ token ∈ tokens, isWritten token = true)
    (whole : tokens ++ [.ending] = before ++ token :: after) (offends : Offends before token fault) :
    fault = .unbalanced ∧ ¬ Balanced 0 tokens := by
  have going (front : List Token) (begins : front <+: tokens) : .ending ∉ front :=
    fun member => absurd (written .ending (begins.subset member)) (by decide)
  rcases List.eq_nil_or_concat after with rfl | ⟨rest, last, rfl⟩
  · obtain ⟨rfl, same⟩ := List.append_inj' whole rfl
    cases same
    cases offends with
    | late ended => exact absurd ended (going tokens (List.prefix_refl tokens))
    | stray _ mark sign => cases sign
    | unopened _ closes => cases closes
  · have both : tokens ++ [.ending] = (before ++ token :: rest) ++ [last] := by simp [whole]
    obtain ⟨rfl, -⟩ := List.append_inj' both rfl
    cases offends with
    | late ended => exact absurd ended (going before (List.prefix_append before _))
    | stray _ mark sign => exact absurd (written token (by simp)) (by simp [sign, isWritten])
    | unopened _ closes none =>
        refine ⟨rfl, fun balanced => ?_⟩
        have opened := balanced.opened (before ++ [token]) ⟨rest, by simp⟩
        simp [closes] at opened
        omega

/-- Nothing but their parentheses keeps the tokens of a text from being converted. -/
theorem ofTokens_fault (tokens : List Token) (written : ∀ token ∈ tokens, isWritten token = true)
    (fault : Fault) (failed : ofTokens (tokens ++ [.ending]) = .error fault) :
    fault = .unbalanced ∧ ¬ Balanced 0 tokens := by
  cases (stopped_iff _ fault).mp failed with
  | offending before token after whole _ fault offends =>
      exact offends_written tokens before after token fault written whole offends
  | unclosed _ open_ =>
      refine ⟨rfl, fun balanced => ?_⟩
      have closed := balanced.closed
      simp at open_ closed
      omega

end Rpn

/-! Cutting a text -/

namespace Lexer

theorem stuck_kind (start : Nat) (rest : List Char) (fault : Fault) (stuck : Stuck start rest fault) :
    fault.kind.stage = .lexer ∧ rest ≠ [] := by
  cases stuck with
  | literal run after leads bad =>
      exact ⟨rfl, List.append_ne_nil_of_left_ne_nil leads.formed.1 after⟩
  | character c after unknown => exact ⟨rfl, List.cons_ne_nil c after⟩

theorem tokenize_position (text : String) (fault : Fault) (failed : tokenize text = .error fault) :
    fault.kind.stage = .lexer ∧ ∃ position, fault.position? = some position ∧
      position < text.length := by
  obtain ⟨before, rest, whole, stops⟩ := tokenize_error text fault failed
  obtain ⟨belongs, filled⟩ := stuck_kind _ rest fault stops.stuck
  refine ⟨belongs, before.length, fault_position before rest fault stops, ?_⟩
  have more := List.length_pos_iff.mpr filled
  rw [← narrowed_length, whole, List.length_append]
  omega

theorem segments_balanced (text : List Char) (pieces : List Piece) (cut : Segments text pieces) :
    Rpn.Balanced 0 (pieces.filterMap Piece.token?) ↔ Nested '(' ')' 0 text :=
  (balanced_iff 0 _).trans (segments_nested text pieces cut 0).symm

end Lexer

/-! The whole evaluation -/

/-- No more parentheses of a text close than are open, and all that open close. Wide ones count. -/
def Enclosed (text : String) : Prop :=
  Nested '(' ')' 0 (Text.narrowed text).toList

theorem evaluate_stopped (limits : Limits) (text : String) (fault : Fault)
    (failed : evaluate limits text = .error fault) :
    Lexer.tokenize text = .error fault ∨
      (∃ tokens, Lexer.tokenize text = .ok tokens) ∧
        (fault = .unbalanced ∧ ¬ Enclosed text ∨ fault.kind.stage = .machine ∧ Enclosed text) := by
  cases lexed : Lexer.tokenize text with
  | error other =>
      rw [evaluate, lexed] at failed
      cases failed
      exact .inl rfl
  | ok tokens =>
      refine .inr ⟨⟨tokens, rfl⟩, ?_⟩
      obtain ⟨pieces, cut, -, rfl⟩ := Lexer.tokenize_ok text tokens lexed
      have written := segments_written _ pieces cut
      have balanced := Lexer.segments_balanced _ pieces cut
      cases converted : Rpn.ofTokens (pieces.filterMap Lexer.Piece.token? ++ [.ending]) with
      | error other =>
          simp only [evaluate, lexed, converted, bind, Except.bind] at failed
          cases failed
          obtain ⟨same, unbalanced⟩ := Rpn.ofTokens_fault _ written fault converted
          exact .inl ⟨same, fun enclosed => unbalanced (balanced.mpr enclosed)⟩
      | ok program =>
          simp only [evaluate, lexed, converted, bind, Except.bind] at failed
          have instructions := Rpn.converted_instructions _ program converted
          have nested := Rpn.balanced_ending 0 _ (Rpn.converted_balanced _ program converted)
          exact .inr ⟨Rpn.evaluate_fails limits program instructions fault failed,
            balanced.mp nested⟩

theorem Fault.position_iff (fault : Fault) :
    (∃ position, fault.position? = some position) ↔ fault.kind.stage = .lexer := by
  cases fault <;> simp [position?, kind, Kind.stage]

theorem Kind.ne_of_stage {kind other : Kind} {stage : Stage} (belongs : kind.stage = stage)
    (differ : other.stage ≠ stage) : kind ≠ other := by
  rintro rfl
  exact differ belongs

theorem Kind.lexer_iff (kind : Kind) :
    kind.stage = .lexer ↔ kind = .invalidNumber ∨ kind = .unknownCharacter := by
  cases kind <;> decide

/-- What the fault of a text tells of it. A position is one of its characters, and comes with the two
kinds of the lexer and with no others; mismatched parentheses are those of a text that can be cut into
tokens; behind every other kind the text has tokens and its parentheses match. -/
theorem evaluate_fault (limits : Limits) (text : String) (fault : Fault)
    (failed : evaluate limits text = .error fault) :
    ((∃ position, fault.position? = some position) ↔
      fault.kind = .invalidNumber ∨ fault.kind = .unknownCharacter) ∧
    ((∃ position, fault.position? = some position) ↔
      ¬ ∃ tokens, Lexer.tokenize text = .ok tokens) ∧
    (∀ position, fault.position? = some position → position < text.length) ∧
    fault.kind ≠ .unexpectedToken ∧
    (fault.kind = .mismatchedParentheses ↔
      (∃ tokens, Lexer.tokenize text = .ok tokens) ∧ ¬ Enclosed text) ∧
    (fault.kind ∉ [.invalidNumber, .unknownCharacter, .mismatchedParentheses] →
      (∃ tokens, Lexer.tokenize text = .ok tokens) ∧ Enclosed text) := by
  refine ⟨fault.position_iff.trans fault.kind.lexer_iff, ?_⟩
  rcases evaluate_stopped limits text fault failed with lexed | ⟨lexes, ⟨rfl, unclosed⟩ | ⟨ran, closed⟩⟩
  · obtain ⟨belongs, position, found, inside⟩ := Lexer.tokenize_position text fault lexed
    have unlexed : ¬ ∃ tokens, Lexer.tokenize text = .ok tokens := by
      rintro ⟨tokens, lexes⟩
      rw [lexed] at lexes
      cases lexes
    refine ⟨⟨fun _ => unlexed, fun _ => ⟨position, found⟩⟩, ?_, ?_, ?_, ?_⟩
    · intro other same
      rw [found] at same
      cases same
      exact inside
    · exact Kind.ne_of_stage belongs (by decide)
    · exact iff_of_false (Kind.ne_of_stage belongs (by decide)) fun open_ => unlexed open_.1
    · intro other
      rcases fault.kind.lexer_iff.mp belongs with same | same <;> simp [same] at other
  · refine ⟨⟨nofun, fun unlexed => absurd lexes unlexed⟩, nofun, nofun, ?_, ?_⟩
    · exact iff_of_true rfl ⟨lexes, unclosed⟩
    · intro other
      simp [Fault.kind] at other
  · have unplaced : ¬ ∃ position, fault.position? = some position := by
      rw [fault.position_iff, ran]
      exact nofun
    refine ⟨iff_of_false unplaced (not_not_intro lexes), ?_, ?_, ?_, fun _ => ⟨lexes, closed⟩⟩
    · intro position found
      exact absurd ⟨position, found⟩ unplaced
    · exact Kind.ne_of_stage ran (by decide)
    · exact iff_of_false (Kind.ne_of_stage ran (by decide)) fun open_ => open_.2 closed

theorem evaluate_fault_texts :
    (evaluate .standard "7×1.2.3 $" = .error (.badLiteral "1.2.3" 2) ∧ 2 < "7×1.2.3 $".length ∧
      ¬ ∃ tokens, Lexer.tokenize "7×1.2.3 $" = .ok tokens) ∧
    (evaluate .standard "（1" = .error .unbalanced ∧ ¬ Enclosed "（1") ∧
    evaluate .standard "1/(2-2)" = .error .zeroDivisor ∧ Enclosed "1/(2-2)" := by
  have literal : evaluate .standard "7×1.2.3 $" = .error (.badLiteral "1.2.3" 2) := by
    decide +kernel
  have unclosed : evaluate .standard "（1" = .error .unbalanced := by decide +kernel
  have zero : evaluate .standard "1/(2-2)" = .error .zeroDivisor := by decide +kernel
  obtain ⟨-, unlexed, inside, -⟩ := evaluate_fault .standard "7×1.2.3 $" _ literal
  obtain ⟨-, -, -, -, parentheses, -⟩ := evaluate_fault .standard "（1" _ unclosed
  obtain ⟨-, -, -, -, -, computed⟩ := evaluate_fault .standard "1/(2-2)" _ zero
  exact ⟨⟨literal, inside 2 rfl, unlexed.mp ⟨2, rfl⟩⟩, ⟨unclosed, (parentheses.mp rfl).2⟩, zero,
    (computed (by decide)).2⟩

end RationalCalc
