import RationalCalc.Proofs.Violations

/-!
Texts with white space between them. If no piece reaches out of a text, the lexer reads it as it does
on its own, whatever follows: it stops in it, or it goes on behind it as it would at the beginning of
a text, only that positions count from further back. Nothing reaches over white space.
-/

namespace RationalCalc

namespace Fault

def shifted (distance : Nat) : Fault → Fault
  | badLiteral raw start => badLiteral raw (distance + start)
  | unknownCharacter c start => unknownCharacter c (distance + start)
  | fault => fault

theorem shifted_kind (distance : Nat) (fault : Fault) : (fault.shifted distance).kind = fault.kind := by
  cases fault <;> rfl

theorem shifted_position (distance : Nat) (fault : Fault) :
    (fault.shifted distance).position? = fault.position?.map (distance + ·) := by
  cases fault <;> rfl

end Fault

namespace Lexer

open Character

/-! Further on -/

def Lexed.shifted (distance : Nat) (lexed : Lexed) : Lexed :=
  { lexed with fault := lexed.fault.map (Fault.shifted distance) }

theorem outcome_shifted (distance : Nat) (lexed : Lexed) :
    (lexed.shifted distance).outcome = lexed.outcome.mapError (Fault.shifted distance) := by
  cases stopped : lexed.fault <;> simp [Lexed.outcome, Lexed.shifted, stopped, Except.mapError]

theorem scan_shifted (distance start : Nat) (text : List Char) :
    scan (distance + start) text = (scan start text).shifted distance := by
  induction text using text_induction generalizing start with
  | nil =>
      rw [scan, scan]
      rfl
  | stray c rest unknown =>
      rw [scan_stray _ c rest unknown, scan_stray _ c rest unknown]
      rfl
  | refused run rest leads bad =>
      have stops (start : Nat) := (scan_leads start (.number run) rest leads).2 bad
      exact (stops (distance + start)).trans (congrArg (Lexed.shifted distance) (stops start)).symm
  | taken piece rest leads readable ih =>
      have goes (start : Nat) := (scan_leads start piece rest leads).1 readable
      have further := ih (start + piece.chars.length)
      rw [goes, goes, Nat.add_assoc, further]
      rfl

/-! One text behind another -/

def Lexed.following (tokens : List Token) (rest : Lexed) : Lexed :=
  { rest with tokens := tokens ++ rest.tokens }

theorem outcome_following (tokens : List Token) (rest : Lexed) :
    (rest.following tokens).outcome = rest.outcome.map (tokens ++ ·) := by
  cases stopped : rest.fault <;> simp [Lexed.outcome, Lexed.following, stopped, Except.map]

theorem scan_parted (start : Nat) (left right : List Char) (parted : Parted left right) :
    (∃ fault, (scan start left).fault = some fault ∧ scan start (left ++ right) = scan start left) ∨
      ∃ tokens, scan start left = ⟨tokens ++ [.ending], none⟩ ∧
        scan start (left ++ right) = (scan (start + left.length) right).following tokens := by
  induction left using text_induction generalizing start with
  | nil => exact .inr ⟨[], by rw [scan]; rfl, rfl⟩
  | stray c rest unknown =>
      have stops (rest : List Char) := scan_stray start c rest unknown
      exact .inl ⟨_, congrArg Lexed.fault (stops rest), (stops (rest ++ right)).trans (stops rest).symm⟩
  | refused run rest leads bad =>
      -- the run ends where it does without the second text, and is refused all the same
      have whole := leads_parted (.number run) rest right leads parted
      have stops := (scan_leads start (.number run) rest leads).2 bad
      have again := (scan_leads start (.number run) (rest ++ right) whole).2 bad
      rw [List.append_assoc]
      exact .inl ⟨_, congrArg Lexed.fault stops, again.trans stops.symm⟩
  | taken piece rest leads readable ih =>
      have whole := leads_parted piece rest right leads parted
      have goes := (scan_leads start piece rest leads).1 readable
      have again := (scan_leads start piece (rest ++ right) whole).1 readable
      have behind := ih (start + piece.chars.length) (parted_behind piece.chars rest right parted)
      rw [List.append_assoc, goes, again, List.length_append, ← Nat.add_assoc]
      rcases behind with ⟨fault, stopped, same⟩ | ⟨tokens, read, later⟩
      · exact .inl ⟨fault, stopped, congrArg (Lexed.behind piece) same⟩
      · refine .inr ⟨piece.token?.toList ++ tokens, ?_, ?_⟩
        · simp [read, Lexed.behind]
        · simp [later, Lexed.behind, Lexed.following]

/-! White space between texts -/

section Spaced

variable {w : Char} (space : isWhiteSpace w = true)
include space

theorem narrow_space : Text.narrow w = w := by
  unfold Text.narrow
  split
  all_goals first | rfl | exact absurd space (by decide)

variable (one two : String)

theorem narrowed_spaced :
    (Text.narrowed (one ++ w.toString ++ two)).toList =
      (Text.narrowed one).toList ++ w :: (Text.narrowed two).toList := by
  have blank : (Text.narrowed w.toString).toList = [w] := by simp [Text.narrowed, narrow_space space]
  rw [narrowed_append, narrowed_append, blank, List.append_assoc]
  rfl

/-- The lexer stops in the first of two texts, or the second is read as on its own, but behind the
first and the white space. -/
theorem lex_spaced :
    (∃ fault, (lex one).fault = some fault ∧ lex (one ++ w.toString ++ two) = lex one) ∨
      ∃ tokens, lex one = ⟨tokens ++ [.ending], none⟩ ∧
        lex (one ++ w.toString ++ two) = ((lex two).shifted (one.length + 1)).following tokens := by
  have seam := parted_first (Text.narrowed one).toList (Text.narrowed two).toList w
    (Piece.space_solitary w space)
  -- the white space is skipped, and counts as one character
  have behind : scan (0 + (Text.narrowed one).toList.length) (w :: (Text.narrowed two).toList) =
      (lex two).shifted (one.length + 1) := by
    rw [scan, if_pos space, Nat.zero_add, narrowed_length]
    exact scan_shifted (one.length + 1) 0 _
  have read := scan_parted 0 _ _ seam
  rw [behind, ← narrowed_spaced space] at read
  exact read

theorem tokenize_spaced_fault (fault : Fault) (stopped : tokenize one = .error fault) :
    tokenize (one ++ w.toString ++ two) = .error fault := by
  rcases lex_spaced space one two with ⟨_, _, same⟩ | ⟨tokens, read, _⟩
  · rw [tokenize, same]
    exact stopped
  · rw [tokenize, read] at stopped
    cases stopped

theorem tokenize_spaced_behind (tokens : List Token) (read : tokenize one = .ok (tokens ++ [.ending])) :
    tokenize (one ++ w.toString ++ two) =
      ((tokenize two).mapError (Fault.shifted (one.length + 1))).map (tokens ++ ·) := by
  rcases lex_spaced space one two with ⟨fault, stopped, _⟩ | ⟨found, whole, behind⟩
  · rw [tokenize, Lexed.outcome, stopped] at read
    cases read
  · rw [tokenize, whole] at read
    have same : found = tokens := List.append_cancel_right (Except.ok.inj read)
    rw [tokenize, behind, outcome_following, outcome_shifted, same]
    rfl

/-- A text, white space and a second text. A fault of the first is the fault of the whole. Behind a
first text with tokens, a fault of the second stands as much further on as there are characters before
it; and if there is none, the tokens of both follow on each other with one ending. -/
theorem tokenize_spaced :
    (∀ fault, tokenize one = .error fault →
      tokenize (one ++ w.toString ++ two) = .error fault) ∧
    ∀ first, tokenize one = .ok first → ∃ tokens, first = tokens ++ [.ending] ∧
      (∀ fault, tokenize two = .error fault → ∃ position later,
        fault.position? = some position ∧ tokenize (one ++ w.toString ++ two) = .error later ∧
        later.kind = fault.kind ∧ later.position? = some (position + one.length + 1)) ∧
      ∀ second, tokenize two = .ok second →
        tokenize (one ++ w.toString ++ two) = .ok (tokens ++ second) := by
  constructor
  · intro fault stopped
    exact tokenize_spaced_fault space one two fault stopped
  · intro first lexed
    obtain ⟨pieces, _, _, rfl⟩ := tokenize_ok one first lexed
    have behind := tokenize_spaced_behind space one two _ lexed
    refine ⟨_, rfl, ?_, ?_⟩
    · intro fault stopped
      obtain ⟨before, rest, _, stops⟩ := tokenize_error two fault stopped
      have position := fault_position before rest fault stops
      rw [stopped] at behind
      refine ⟨before.length, fault.shifted (one.length + 1), position, behind,
        fault.shifted_kind _, ?_⟩
      rw [Fault.shifted_position, position, Option.map_some, Nat.add_comm, Nat.add_assoc]
    · intro second read
      rw [read] at behind
      exact behind

end Spaced

theorem tokenize_spaced_texts :
    isWhiteSpace '\t' = true ∧
    tokenize "1.2.3" = .error (.badLiteral "1.2.3" 0) ∧
    tokenize ("1.2.3" ++ '\t'.toString ++ "$") = .error (.badLiteral "1.2.3" 0) ∧
    tokenize "3×" = .ok [.number 3, .operator .times, .ending] ∧
    tokenize "7 $" = .error (.unknownCharacter '$' 2) ∧
    (∃ later, tokenize ("3×" ++ '\t'.toString ++ "7 $") = .error later ∧
      later.kind = .unknownCharacter ∧ later.position? = some 5) ∧
    tokenize "*2" = .ok [.operator .times, .number 2, .ending] ∧
    tokenize ("3×" ++ '\t'.toString ++ "*2") =
      .ok [.number 3, .operator .times, .operator .times, .number 2, .ending] := by
  have space : isWhiteSpace '\t' = true := by decide
  have bad : tokenize "1.2.3" = .error (.badLiteral "1.2.3" 0) := by decide +kernel
  have first : tokenize "3×" = .ok [.number 3, .operator .times, .ending] := by decide +kernel
  have stray : tokenize "7 $" = .error (.unknownCharacter '$' 2) := by decide +kernel
  have second : tokenize "*2" = .ok [.operator .times, .number 2, .ending] := by decide +kernel
  have refused := (tokenize_spaced space "1.2.3" "$").1 _ bad
  obtain ⟨tokens, split, _, joined⟩ := (tokenize_spaced space "3×" "*2").2 _ first
  obtain ⟨_, _, faulty, _⟩ := (tokenize_spaced space "3×" "7 $").2 _ first
  obtain ⟨position, later, here, stopped, kind, further⟩ := faulty _ stray
  have front : tokens = [.number 3, .operator .times] := List.append_cancel_right split.symm
  cases here
  rw [front] at joined
  exact ⟨space, bad, refused, first, stray, ⟨later, stopped, kind, further⟩, second,
    joined _ second⟩

end Lexer

end RationalCalc
