import Mathlib.Control.Monad.Basic
import Mathlib.Data.List.Forall2
import RationalCalc.Proofs.Lexing

/-!
What is wrong with a text that has no tokens. A violation is a character of no class, or a maximal run
of digits and points that is no number; it is looked for in the text itself and not by cutting pieces
off. A text has tokens if nothing violates it, and else the lexer reports the leftmost violation. The
tokens are what the pieces write, but for numbers with too many places to count in 32 bits.
-/

namespace RationalCalc.Lexer

/-- All of the digits and points that stand together, with what is before them and after them. -/
structure MaximalRun (before run after : List Char) : Prop where
  filled : run ≠ []
  inside : ∀ c ∈ run, inNumber c = true
  starts : ∀ c ∈ before.getLast?, inNumber c = false
  ends : ∀ c ∈ after.head?, inNumber c = false

inductive Violation (text : List Char) : Fault → Prop where
  | literal (before run after : List Char) (whole : text = before ++ (run ++ after))
      (maximal : MaximalRun before run after) (bad : ¬ Literal.WellWritten run) :
      Violation text (.badLiteral (String.ofList run) before.length)
  | character (before : List Char) (c : Char) (after : List Char)
      (whole : text = before ++ c :: after) (unknown : known c = false) :
      Violation text (.unknownCharacter c before.length)

/-! Nothing violates a legible text -/

theorem legible_known (text : List Char) (legible : Legible text) :
    ∀ c ∈ text, known c = true := by
  intro c member
  obtain ⟨pieces, cut, -⟩ := legible
  rw [← segments_flat text pieces cut] at member
  obtain ⟨piece, inside, spelled⟩ := List.mem_flatMap.mp member
  have formed := segments_formed text pieces cut piece inside
  exact (known_iff c).mpr ⟨piece.kind, Piece.chars_kind formed c spelled⟩

theorem takeWhile_exact (p : Char → Bool) (run after : List Char) (inside : ∀ c ∈ run, p c = true)
    (ends : ∀ c ∈ after.head?, p c = false) : (run ++ after).takeWhile p = run := by
  rw [List.takeWhile_append_of_pos inside]
  cases after with
  | nil => simp
  | cons c after => simp [ends c rfl]

theorem maximal_leads (before run after : List Char) (maximal : MaximalRun before run after) :
    Leads (.number run) (run ++ after) := by
  have formed : (Piece.number run).WellFormed := ⟨maximal.filled, maximal.inside⟩
  obtain ⟨c, more, rfl⟩ := List.exists_cons_of_ne_nil maximal.filled
  have inside : ∀ d ∈ more, inNumber d = true := fun d member =>
    maximal.inside d (List.mem_cons_of_mem c member)
  apply run_leads .digit c (more ++ after) (maximal.inside c (List.mem_cons_self ..)) _ formed
  exact congrArg (List.cons c) (takeWhile_exact inNumber more after inside maximal.ends).symm

theorem maximal_later (front before run after : List Char)
    (maximal : MaximalRun (front ++ before) run after) : MaximalRun before run after := by
  refine ⟨maximal.filled, maximal.inside, ?_, maximal.ends⟩
  intro c last
  apply maximal.starts c
  rw [List.getLast?_append, Option.mem_def.mp last]
  rfl

/-- A maximal run begins outside of the first piece, unless it is that piece. -/
theorem maximal_first (piece : Piece) (rest before run after : List Char)
    (leads : Leads piece (piece.chars ++ rest)) (maximal : MaximalRun before run after)
    (whole : piece.chars ++ rest = before ++ (run ++ after)) :
    piece = .number run ∨
      ∃ later, before = piece.chars ++ later ∧ rest = later ++ (run ++ after) := by
  rcases List.append_eq_append_iff.mp whole with outside | ⟨inner, same, behind⟩
  · exact .inr outside
  · cases inner with
    | nil => exact .inr ⟨[], by simpa using same.symm, by simpa using behind.symm⟩
    | cons d inner =>
        obtain ⟨e, more, shape⟩ := List.exists_cons_of_ne_nil maximal.filled
        have first : d = e := by
          rw [shape, List.cons_append, List.cons_append] at behind
          exact (List.cons.inj behind).1.symm
        have digit : inNumber d = true := maximal.inside d (by simp [shape, first])
        obtain ⟨taken, rfl⟩ := digit_piece piece leads.formed d (by simp [same]) digit
        cases before with
        | nil =>
            rw [whole] at leads
            exact .inl (leads_unique _ _ _ leads (maximal_leads [] run after maximal))
        | cons c before =>
            -- the character before the run would be in the same piece
            have last := List.getLast?_eq_some_getLast (List.cons_ne_nil c before)
            have outside := maximal.starts _ last
            have inside := leads.formed.2 ((c :: before).getLast (List.cons_ne_nil c before)) (by
              rw [show taken = _ from same]
              exact List.mem_append_left _ (List.getLast_mem _))
            rw [outside] at inside
            cases inside

theorem legible_run (text : List Char) (legible : Legible text) (before run after : List Char)
    (whole : text = before ++ (run ++ after)) (maximal : MaximalRun before run after) :
    Literal.WellWritten run := by
  obtain ⟨pieces, cut, readable⟩ := legible
  induction cut generalizing before with
  | nil =>
      have none := (List.append_eq_nil_iff.mp (List.append_eq_nil_iff.mp whole.symm).2).1
      exact absurd none maximal.filled
  | cons piece rest pieces leads more ih =>
      rcases maximal_first piece rest before run after leads maximal whole with
        rfl | ⟨later, rfl, behind⟩
      · exact readable (.number run) (List.mem_cons_self ..)
      · exact ih later behind (maximal_later piece.chars later run after maximal)
          fun other member => readable other (List.mem_cons_of_mem piece member)

theorem legible_clear (text : List Char) (legible : Legible text) (fault : Fault) :
    ¬ Violation text fault := by
  intro violation
  cases violation with
  | literal before run after whole maximal bad =>
      exact bad (legible_run text legible before run after whole maximal)
  | character before c after whole unknown =>
      have may := legible_known text legible c (by simp [whole])
      rw [unknown] at may
      cases may

/-! The lexer stops at the leftmost violation -/

theorem stops_violation (before rest : List Char) (fault : Fault)
    (stops : Stops 0 before rest fault) : Violation (before ++ rest) fault := by
  obtain ⟨-, stuck, seam⟩ := stops
  rw [Nat.zero_add] at stuck
  cases stuck with
  | literal run after leads bad =>
      obtain ⟨filled, inside⟩ := leads.formed
      refine .literal before run after rfl ⟨filled, inside, ?_, ?_⟩ bad
      · intro c last
        rw [Bool.eq_false_iff]
        intro digit
        have first : (run ++ after).head? = some (run.head filled) := by
          rw [List.head?_append, List.head?_eq_some_head filled]
          rfl
        exact seam c last _ first ⟨digit, inside _ (List.head_mem filled)⟩
      · intro c first
        rw [Bool.eq_false_iff]
        intro digit
        have last := List.getLast?_eq_some_getLast filled
        exact leads_cut (.number run) after leads _ last c first
          ⟨inside _ (List.getLast_mem filled), digit⟩
  | character c after unknown => exact .character before c after rfl unknown

theorem split_front (front rest before after : List Char)
    (whole : front ++ rest = before ++ after) (early : before.length < front.length) :
    ∃ inner, inner ≠ [] ∧ front = before ++ inner ∧ after = inner ++ rest := by
  rcases List.append_eq_append_iff.mp whole with ⟨later, rfl, -⟩ | ⟨inner, same, behind⟩
  · simp only [List.length_append] at early
    omega
  · refine ⟨inner, ?_, same, behind⟩
    rintro rfl
    simp [same] at early

/-- A maximal run that begins before the stop ends there at the latest, since no run goes over it. -/
theorem maximal_before (front rest before run after : List Char) (seam : Cut front rest)
    (maximal : MaximalRun before run after) (whole : front ++ rest = before ++ (run ++ after))
    (early : before.length < front.length) :
    ∃ inner, front = before ++ (run ++ inner) ∧ MaximalRun before run inner := by
  obtain ⟨inner, filled, rfl, behind⟩ := split_front front rest before (run ++ after) whole early
  rcases List.append_eq_append_iff.mp behind with ⟨more, rfl, rfl⟩ | ⟨beyond, rfl, rfl⟩
  · refine ⟨more, rfl, maximal.filled, maximal.inside, maximal.starts, ?_⟩
    intro c first
    apply maximal.ends c
    rw [List.head?_append, Option.mem_def.mp first]
    rfl
  · cases beyond with
    | nil =>
        refine ⟨[], by simp, maximal.filled, maximal.inside, maximal.starts, by simp⟩
    | cons e beyond =>
        have last : (before ++ inner).getLast? = some (inner.getLast filled) := by
          rw [List.getLast?_append, List.getLast?_eq_some_getLast filled]
          rfl
        have digits : inNumber (inner.getLast filled) = true ∧ inNumber e = true :=
          ⟨maximal.inside _ (List.mem_append_left _ (List.getLast_mem filled)),
            maximal.inside e (by simp)⟩
        exact absurd digits (seam _ last e rfl)

theorem stops_leftmost (before rest : List Char) (fault other : Fault) (start : Nat)
    (stops : Stops 0 before rest fault) (violation : Violation (before ++ rest) other)
    (position : other.position? = some start) : before.length ≤ start := by
  rcases Nat.lt_or_ge start before.length with early | late
  · -- it would violate the part that was read
    exfalso
    cases violation with
    | literal front run after whole maximal bad =>
        cases position
        obtain ⟨inner, within, inside⟩ :=
          maximal_before before rest front run after stops.seam maximal whole early
        exact legible_clear before stops.legible _ (.literal front run inner within inside bad)
    | character front c after whole unknown =>
        cases position
        obtain ⟨inner, filled, within, behind⟩ := split_front before rest front _ whole early
        obtain ⟨d, more, rfl⟩ := List.exists_cons_of_ne_nil filled
        obtain ⟨rfl, -⟩ := List.cons.inj behind
        exact legible_clear before stops.legible _ (.character front c more within unknown)
  · exact late

/-! Tokens of a text -/

theorem tokenize_segments (text : String) (pieces : List Piece)
    (cut : Segments (Text.narrowed text).toList pieces)
    (readable : ∀ piece ∈ pieces, piece.Readable) :
    tokenize text = .ok (pieces.filterMap Piece.token? ++ [.ending]) := by
  simp only [tokenize, lex, Lexed.outcome, scan_segments 0 _ pieces cut readable]

theorem tokenize_fault (text : String) (fault : Fault)
    (stopped : (scan 0 (Text.narrowed text).toList).fault = some fault) :
    tokenize text = .error fault := by
  simp only [tokenize, lex, Lexed.outcome, stopped]

theorem tokenize_ok (text : String) (tokens : List Token) (lexed : tokenize text = .ok tokens) :
    ∃ pieces, Segments (Text.narrowed text).toList pieces ∧ (∀ piece ∈ pieces, piece.Readable) ∧
      tokens = pieces.filterMap Piece.token? ++ [.ending] := by
  rcases scan_cases 0 (Text.narrowed text).toList with
    ⟨pieces, cut, readable⟩ | ⟨before, rest, fault, whole, stops, stopped⟩
  · have found := tokenize_segments text pieces cut readable
    rw [lexed] at found
    exact ⟨pieces, cut, readable, Except.ok.inj found⟩
  · rw [tokenize_fault text fault stopped] at lexed
    cases lexed

theorem tokenize_error (text : String) (fault : Fault) (failed : tokenize text = .error fault) :
    ∃ before rest, (Text.narrowed text).toList = before ++ rest ∧ Stops 0 before rest fault := by
  rcases scan_cases 0 (Text.narrowed text).toList with
    ⟨pieces, cut, readable⟩ | ⟨before, rest, other, whole, stops, stopped⟩
  · rw [tokenize_segments text pieces cut readable] at failed
    cases failed
  · rw [tokenize_fault text other stopped] at failed
    cases failed
    exact ⟨before, rest, whole, stops⟩

theorem narrowed_length (text : String) : (Text.narrowed text).toList.length = text.length := by
  rw [Text.narrowed, String.toList_ofList, List.length_map, String.length_toList]

theorem narrowed_append (front back : String) :
    (Text.narrowed (front ++ back)).toList =
      (Text.narrowed front).toList ++ (Text.narrowed back).toList := by
  simp [Text.narrowed]

theorem narrowed_take (text : String) (count : Nat) :
    (Text.narrowed (String.ofList (text.toList.take count))).toList =
      (Text.narrowed text).toList.take count := by
  simp [Text.narrowed, List.map_take]

theorem fault_position (before rest : List Char) (fault : Fault) (stops : Stops 0 before rest fault) :
    fault.position? = some before.length := by
  have stuck := stops.stuck
  rw [Nat.zero_add] at stuck
  cases stuck with
  | literal run after leads bad => rfl
  | character c after unknown => rfl

theorem token_stands (piece : Piece) (formed : piece.WellFormed) (readable : piece.Readable)
    (token : Token) (stands : piece.token? = some token) : piece.StandsFor token := by
  cases piece with
  | blank c => cases stands
  | name letters => exact .inl stands
  | fixed symbol => exact .inl stands
  | number run =>
      cases stands
      rcases Nat.lt_or_ge (Literal.places run) UInt32.size with few | many
      · have literal : (Literal.split run).wellFormed = true :=
          (Literal.wellFormed_iff run).mpr
            ⟨fun c member => (inNumber_iff c).mp (formed.2 c member), readable⟩
        rw [Literal.value_split run literal few]
        exact .inl rfl
      · exact .inr ⟨run, _, rfl, many, rfl⟩

theorem tokens_stand (pieces : List Piece) (formed : ∀ piece ∈ pieces, piece.WellFormed)
    (readable : ∀ piece ∈ pieces, piece.Readable) :
    List.Forall₂ Piece.StandsFor (pieces.filter Piece.visible) (pieces.filterMap Piece.token?) := by
  induction pieces with
  | nil => exact .nil
  | cons piece rest ih =>
      obtain ⟨form, forms⟩ := List.forall_mem_cons.mp formed
      obtain ⟨read, reads⟩ := List.forall_mem_cons.mp readable
      have seen : piece.visible = piece.token?.isSome := by cases piece <;> rfl
      cases stands : piece.token? with
      | none =>
          rw [stands] at seen
          rw [List.filter_cons_of_neg (by simp [seen]), List.filterMap_cons_none stands]
          exact ih forms reads
      | some token =>
          rw [stands] at seen
          rw [List.filter_cons_of_pos seen, List.filterMap_cons_some stands]
          exact .cons (token_stands piece form read token stands) (ih forms reads)

/-- The lexer on any text, said on its narrowed characters. It has tokens exactly if all characters
are known and every maximal run of digits and points is a number; they are then the tokens of the one
segmentation by maximal munch, and the ending; of a number with 2^32 places or more, its value is left
open. Else the fault is the leftmost violation, its position counts the characters of the text as
written, and what stands before that position has tokens. -/
theorem tokenize_by_maximal_munch (text : String) :
    ((∃ tokens, tokenize text = .ok tokens) ↔
      (∀ c ∈ (Text.narrowed text).toList, known c = true) ∧
      ∀ before run after, (Text.narrowed text).toList = before ++ (run ++ after) →
        MaximalRun before run after → Literal.WellWritten run) ∧
    (∀ tokens, tokenize text = .ok tokens →
      ∃ pieces read, Segments (Text.narrowed text).toList pieces ∧
        (∀ others, Segments (Text.narrowed text).toList others → others = pieces) ∧
        tokens = read ++ [.ending] ∧
        List.Forall₂ Piece.StandsFor (pieces.filter Piece.visible) read) ∧
    (∀ fault, tokenize text = .error fault →
      Violation (Text.narrowed text).toList fault ∧
      ∃ position, fault.position? = some position ∧
        (∀ other start, Violation (Text.narrowed text).toList other →
          other.position? = some start → position ≤ start) ∧
        ∃ tokens, tokenize (String.ofList (text.toList.take position)) = .ok tokens) := by
  refine ⟨⟨?_, ?_⟩, ?_, ?_⟩
  · rintro ⟨tokens, lexed⟩
    obtain ⟨pieces, cut, readable, -⟩ := tokenize_ok text tokens lexed
    exact ⟨legible_known _ ⟨pieces, cut, readable⟩, legible_run _ ⟨pieces, cut, readable⟩⟩
  · rintro ⟨may, written⟩
    cases outcome : tokenize text with
    | ok tokens => exact ⟨tokens, rfl⟩
    | error fault =>
        obtain ⟨before, rest, whole, stops⟩ := tokenize_error text fault outcome
        have violation := stops_violation before rest fault stops
        rw [← whole] at violation
        cases violation with
        | literal front run after same maximal bad =>
            exact absurd (written front run after same maximal) bad
        | character front c after same unknown =>
            have ok := may c (by simp [same])
            rw [unknown] at ok
            cases ok
  · intro tokens lexed
    obtain ⟨pieces, cut, readable, same⟩ := tokenize_ok text tokens lexed
    exact ⟨pieces, _, cut, fun others also => segments_unique _ others pieces also cut, same,
      tokens_stand pieces (segments_formed _ pieces cut) readable⟩
  · intro fault failed
    obtain ⟨before, rest, whole, stops⟩ := tokenize_error text fault failed
    rw [whole]
    refine ⟨stops_violation before rest fault stops, before.length,
      fault_position before rest fault stops, ?_, ?_⟩
    · intro other start violation position
      exact stops_leftmost before rest fault other start stops violation position
    · obtain ⟨pieces, cut, readable⟩ := stops.legible
      have front : (Text.narrowed (String.ofList (text.toList.take before.length))).toList = before := by
        rw [narrowed_take, whole, List.take_left]
      rw [← front] at cut
      exact ⟨_, tokenize_segments _ pieces cut readable⟩

theorem tokenize_by_maximal_munch_texts :
    tokenize "（1.5）**pi" =
      .ok [.opening, .number (3 / 2), .closing, .operator (.power .stars), .name "pi", .ending] ∧
    (∃ pieces read, Segments (Text.narrowed "（1.5）**pi").toList pieces ∧
      List.Forall₂ Piece.StandsFor (pieces.filter Piece.visible) read ∧ read ++ [.ending] =
        [.opening, .number (3 / 2), .closing, .operator (.power .stars), .name "pi", .ending]) ∧
    tokenize "7×1.2.3 $" = .error (.badLiteral "1.2.3" 2) ∧
    (∀ other start, Violation (Text.narrowed "7×1.2.3 $").toList other →
      other.position? = some start → 2 ≤ start) ∧
    ∃ tokens, tokenize (String.ofList ("7×1.2.3 $".toList.take 2)) = .ok tokens := by
  have read : tokenize "（1.5）**pi" =
      .ok [.opening, .number (3 / 2), .closing, .operator (.power .stars), .name "pi", .ending] := by
    decide +kernel
  have refused : tokenize "7×1.2.3 $" = .error (.badLiteral "1.2.3" 2) := by decide +kernel
  obtain ⟨pieces, tokens, cut, -, same, stand⟩ := (tokenize_by_maximal_munch "（1.5）**pi").2.1 _ read
  obtain ⟨-, position, at_, leftmost, front⟩ := (tokenize_by_maximal_munch "7×1.2.3 $").2.2 _ refused
  cases at_
  exact ⟨read, ⟨pieces, tokens, cut, stand, same.symm⟩, refused, leftmost, front⟩

/-! Places that are too many to count -/

def oneBehind (zeros : Nat) : List Char :=
  '.' :: (List.replicate zeros '0' ++ ['1'])

section OneBehind

variable (zeros : Nat)

theorem oneBehind_inside : ∀ c ∈ oneBehind zeros, inNumber c = true := by
  intro c member
  simp only [oneBehind, List.mem_cons, List.mem_append, List.mem_replicate, List.not_mem_nil,
    or_false] at member
  rcases member with rfl | ⟨-, rfl⟩ | rfl
  all_goals rfl

theorem oneBehind_written : Literal.WellWritten (oneBehind zeros) := by
  refine ⟨?_, '1', by simp [oneBehind], rfl⟩
  simp [oneBehind, List.count_replicate]

theorem oneBehind_narrowed :
    (Text.narrowed (String.ofList (oneBehind zeros))).toList = oneBehind zeros := by
  have point : Text.narrow '.' = '.' := rfl
  have zero : Text.narrow '0' = '0' := rfl
  have one : Text.narrow '1' = '1' := rfl
  simp [Text.narrowed, oneBehind, point, zero, one]

theorem oneBehind_segments :
    Segments (Text.narrowed (String.ofList (oneBehind zeros))).toList [.number (oneBehind zeros)] := by
  rw [oneBehind_narrowed]
  exact segments_single (.number _) ⟨List.cons_ne_nil _ _, oneBehind_inside zeros⟩

theorem oneBehind_digits : Nat.ofDigitChars 10 (List.replicate zeros '0' ++ ['1']) 0 = 1 := by
  rw [Nat.ofDigitChars_append, Nat.ofDigitChars_replicate_zero, Nat.mul_zero]
  rfl

theorem oneBehind_decimal : Literal.decimal (oneBehind zeros) ≠ 1 := by
  have digits : (oneBehind zeros).filter (· != '.') = List.replicate zeros '0' ++ ['1'] := by
    simp [oneBehind]
  have places : Literal.places (oneBehind zeros) = zeros + 1 := by
    simp [Literal.places, oneBehind]
  have scale : 1 < Nat.pow 10 (zeros + 1) := Nat.one_lt_pow (Nat.succ_ne_zero zeros) (by decide)
  rw [Literal.decimal, digits, places, oneBehind_digits]
  intro same
  have units := (Rat.mkRat_eq_iff (by omega) (by decide)).mp (same.trans (Rat.mkRat_one 1).symm)
  omega

theorem oneBehind_value (all : zeros + 1 = UInt32.size) :
    (Literal.split (oneBehind zeros)).value = 1 := by
  have parts : Literal.split (oneBehind zeros) = ⟨[], List.replicate zeros '0' ++ ['1']⟩ := rfl
  have length : (List.replicate zeros '0' ++ ['1']).length = UInt32.size := by
    simpa using all
  have long : Literal.Parts.isShort ⟨[], List.replicate zeros '0' ++ ['1']⟩ = false := by
    rw [Literal.Parts.isShort, length]
    rfl
  rw [parts, Literal.Parts.value, long, if_neg (by decide), Literal.Parts.longValue, length,
    powerOfTen_size, oneBehind_digits]
  exact Rat.mkRat_one 1

end OneBehind

/-- With 2^32 places behind the point, one unit of the last place is read as a whole one. -/
theorem tokenize_wraps :
    tokenize (String.ofList (oneBehind (UInt32.size - 1))) = .ok [.number 1, .ending] ∧
      ¬ ∃ pieces, Segments (Text.narrowed (String.ofList (oneBehind (UInt32.size - 1)))).toList pieces ∧
        [.number 1, .ending] = pieces.filterMap Piece.written? ++ [.ending] := by
  have cut := oneBehind_segments (UInt32.size - 1)
  have value := oneBehind_value (UInt32.size - 1) rfl
  constructor
  · rw [tokenize_segments _ _ cut (List.forall_mem_singleton.mpr (oneBehind_written _))]
    simp only [List.filterMap_cons, Piece.token?, value]
    rfl
  · rintro ⟨pieces, other, same⟩
    rw [segments_unique _ _ _ other cut] at same
    have worth : (1 : Rat) = Literal.decimal (oneBehind (UInt32.size - 1)) := by
      simpa [Piece.written?] using same
    exact oneBehind_decimal _ worth.symm

end RationalCalc.Lexer
