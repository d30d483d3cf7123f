import RationalCalc.Proofs.DecimalReading
import RationalCalc.Proofs.Faults

/-!
What messages show of a text. A fault quotes nothing but characters of the text that it is the fault
of: the run that is no number, the character that is unknown, the name that has no value. The rest of
a message does not depend on the text, or is a number. So the message about a text of one line is one
line, and so is the display of a value.
-/

namespace RationalCalc

/-! One line -/

namespace Text

def OneLine (text : String) : Prop :=
  '\n' ∉ text.toList

instance (text : String) : Decidable (OneLine text) :=
  inferInstanceAs (Decidable ('\n' ∉ text.toList))

theorem oneLine_append {one two : String} (first : OneLine one) (second : OneLine two) :
    OneLine (one ++ two) := by
  rw [OneLine, String.toList_append, List.mem_append]
  exact not_or.mpr ⟨first, second⟩

theorem oneLine_ofList {text : List Char} (none : '\n' ∉ text) : OneLine (String.ofList text) := by
  rwa [OneLine, String.toList_ofList]

theorem oneLine_repr (n : Nat) : OneLine n.repr := by
  rw [Nat.repr_eq_ofList_toDigits]
  apply oneLine_ofList
  intro member
  exact absurd (Literal.toDigits_digits n '\n' member) (by decide)

theorem toDigits_digitChar {base : Nat} (proper : 1 < base) (n : Nat) :
    ∀ c ∈ Nat.toDigits base n, ∃ digit < base, c = digit.digitChar := by
  induction n using Nat.strongRecOn with
  | ind n ih =>
      intro c member
      rw [Nat.toDigits_eq_if proper] at member
      split at member
      · exact ⟨n, ‹_›, List.mem_singleton.mp member⟩
      · rename_i large
        rcases List.mem_append.mp member with front | last
        · exact ih (n / base) (Nat.div_lt_self (by omega) proper) c front
        · exact ⟨n % base, Nat.mod_lt n (by omega), List.mem_singleton.mp last⟩

theorem byNumber_line (c : Char) : '\n' ∉ byNumber c := by
  have plain : ∀ digit < 16, '\n' ≠ digit.digitChar := by decide
  have digits : '\n' ∉ Nat.toDigits 16 c.toNat := by
    intro member
    obtain ⟨digit, small, same⟩ := toDigits_digitChar (by decide) c.toNat '\n' member
    exact plain digit small same
  simp [byNumber, digits]

theorem escaped_line (quote c : Char) (other : quote ≠ '\n') : '\n' ∉ escaped quote c := by
  unfold escaped
  split_ifs with null tab return_ feed named unseen
  all_goals try decide
  · rcases (Bool.or_eq_true ..).mp named with same | same
    all_goals
      rw [of_decide_eq_true same]
      simp [other.symm]
  · exact byNumber_line c
  · simpa using Ne.symm feed

theorem quoteChar_line (c : Char) : OneLine (quoteChar c) := by
  have inner := escaped_line '\'' c (by decide)
  apply oneLine_ofList
  simp [inner]

end Text

/-! Messages -/

namespace Fault

open Text

def quoted : Fault → List Char
  | badLiteral raw _ => raw.toList
  | unknownCharacter c _ => [c]
  | unknownName name => name.toList
  | afterEnding token => token.spelling.toList
  | strayToken token => token.spelling.toList
  | notExecutable token => token.spelling.toList
  | _ => []

theorem message_line (fault : Fault) (plain : '\n' ∉ fault.quoted) : OneLine fault.message := by
  cases fault with
  | badLiteral raw start => exact oneLine_append (by decide) plain
  | unknownCharacter c start =>
      have shown : OneLine ("caractère inconnu: " ++ quoteChar c) :=
        oneLine_append (by decide) (quoteChar_line c)
      exact oneLine_append (oneLine_append shown (by decide)) (oneLine_repr start)
  | unknownName name => exact oneLine_append (by decide) plain
  | afterEnding token => exact oneLine_append (by decide) plain
  | strayToken token => exact oneLine_append (by decide) plain
  | notExecutable token => exact oneLine_append (by decide) plain
  | leftover depth =>
      exact oneLine_append (oneLine_append (by decide) (oneLine_repr depth)) (by decide)
  | _ => decide +kernel

end Fault

/-! Where the quoted characters stand -/

theorem operandFaults_quoted : ∀ fault ∈ Arithmetic.operandFaults, fault.quoted = [] := by
  decide

theorem stuck_quoted (start : Nat) (rest : List Char) (fault : Fault)
    (stuck : Lexer.Stuck start rest fault) : fault.quoted ⊆ rest := by
  cases stuck with
  | literal run after leads bad =>
      rw [Fault.quoted, String.toList_ofList]
      exact List.subset_append_left run after
  | character c after unknown => exact List.cons_subset_cons c (List.nil_subset after)

theorem explicit_named (after : Bool) (tokens : List Token) (text : String)
    (member : Token.name text ∈ Rpn.explicit after tokens) : Token.name text ∈ tokens := by
  have named (after : Bool) (token : Token) (inside : Token.name text ∈ Rpn.contributes after token) :
      token = .name text := by
    cases token with
    | operator op => cases op <;> cases after <;> simp [Rpn.contributes] at inside
    | name other => simpa [Rpn.contributes, eq_comm] using inside
    | _ => simp [Rpn.contributes] at inside
  induction tokens generalizing after with
  | nil => cases member
  | cons token rest ih =>
      rcases List.mem_append.mp member with here | later
      · rw [named after token here]
        exact List.mem_cons_self ..
      · exact List.mem_cons_of_mem token (ih _ later)

theorem named_characters (text : List Char) (pieces : List Lexer.Piece)
    (cut : Lexer.Segments text pieces) (name : String)
    (member : Token.name name ∈ pieces.filterMap Lexer.Piece.token? ++ [.ending]) :
    name.toList ⊆ text := by
  have stands : Token.name name ∈ pieces.filterMap Lexer.Piece.token? := by simpa using member
  obtain ⟨piece, inside, spelled⟩ := List.mem_filterMap.mp stands
  have formed := Lexer.segments_formed text pieces cut piece inside
  rw [← Lexer.segments_flat text pieces cut]
  have chars : piece.chars = name.toList := by
    cases piece with
    | blank c => cases spelled
    | number run => cases spelled
    | name letters =>
        cases spelled
        exact (String.toList_ofList).symm
    | fixed token =>
        cases spelled
        rfl
  rw [← chars]
  exact fun c within => List.mem_flatMap.mpr ⟨piece, inside, within⟩

/-- A fault quotes only what stands in the text, as narrowed. -/
theorem evaluate_quoted (limits : Limits) (text : String) (fault : Fault)
    (failed : evaluate limits text = .error fault) :
    fault.quoted ⊆ (Text.narrowed text).toList := by
  cases lexed : Lexer.tokenize text with
  | error other =>
      simp only [evaluate, lexed] at failed
      cases failed
      obtain ⟨before, rest, whole, stops⟩ := Lexer.tokenize_error text fault lexed
      rw [whole]
      have quoted := stuck_quoted _ rest fault stops.stuck
      exact List.Subset.trans quoted (List.subset_append_right before rest)
  | ok tokens =>
      obtain ⟨pieces, cut, -, rfl⟩ := Lexer.tokenize_ok text tokens lexed
      cases converted : Rpn.ofTokens (pieces.filterMap Lexer.Piece.token? ++ [.ending]) with
      | error other =>
          simp only [evaluate, lexed, converted, bind, Except.bind] at failed
          cases failed
          obtain ⟨rfl, -⟩ := Rpn.ofTokens_fault _ (segments_written _ pieces cut) fault converted
          exact List.nil_subset _
      | ok program =>
          simp only [evaluate, lexed, converted, bind, Except.bind] at failed
          have instructions := Rpn.converted_instructions _ program converted
          rcases Rpn.evaluate_causes limits program fault failed with
            ⟨token, member, caused⟩ | ⟨depth, rfl⟩
          · cases caused with
            | operands fault wrong =>
                rw [operandFaults_quoted fault wrong]
                exact List.nil_subset _
            | missing => exact List.nil_subset _
            | name name same =>
                subst same
                have kept := (Rpn.converted_perm _ program converted).mem_iff.mp member
                exact named_characters _ pieces cut name (explicit_named false _ name kept)
            | stray unlike => cases unlike.symm.trans (instructions token member)
          · exact List.nil_subset _

theorem narrow_feed (c : Char) (feed : Text.narrow c = '\n') : c = '\n' := by
  unfold Text.narrow at feed
  split at feed
  all_goals first | exact feed | exact absurd feed (by decide)

theorem evaluate_message_line (limits : Limits) (text : String) (fault : Fault)
    (line : Text.OneLine text) (failed : evaluate limits text = .error fault) :
    Text.OneLine fault.message := by
  apply fault.message_line
  intro member
  have inside := evaluate_quoted limits text fault failed member
  rw [Text.narrowed, String.toList_ofList] at inside
  obtain ⟨c, stands, feed⟩ := List.mem_map.mp inside
  exact line (narrow_feed c feed ▸ stands)

theorem decimal_line (value : Rat) (places : Nat) : Text.OneLine (Display.decimal value places) := by
  have ascii := (Display.plain_numeral (Display.scaled value places) places).inside
  rw [Display.decimal_text]
  apply Text.oneLine_ofList
  have digits : '\n' ∉ Display.plain (Display.scaled value places) places := fun member =>
    absurd (ascii '\n' member) (by decide)
  rw [signedText]
  split
  · exact List.not_mem_cons_of_ne_of_not_mem (by decide) digits
  · exact digits

end RationalCalc
