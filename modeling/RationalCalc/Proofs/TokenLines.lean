import RationalCalc.Proofs.ExactReading
import RationalCalc.Proofs.Separation

/-!
Tokens shown on a line and read again. Each token is shown as a text that the lexer reads as just this
token, and the spaces between them keep neighbours apart that would be one piece without them. So a
line has the tokens that it was made of, and the tokens of any text, if their numbers are whole, have
a line that is the line of its own tokens.
-/

namespace RationalCalc

open Character (isAlphabetic)

/-- The tokens that are shown as a text which the lexer reads as the token. Fractions are shown as
quotients, and so are no such tokens; names have narrow letters and are not the lone letter of an
operator. -/
inductive Writable : Token → Prop where
  | number (n : Nat) : Writable (.number n)
  | name (text : String) (filled : text ≠ "") (letters : ∀ c ∈ text.toList, isAlphabetic c = true)
      (narrow : Text.narrowed text = text)
      (other : ∀ token ∈ Lexer.letterTokens, token.spelling ≠ text) : Writable (.name text)
  | fixed (token : Token) (member : token ∈ Lexer.symbolTokens ++ Lexer.letterTokens) : Writable token

namespace Lexer

/-! One token -/

structure Shows (piece : Piece) (token : Token) : Prop where
  formed : piece.WellFormed
  readable : piece.Readable
  chars : piece.chars = (Text.narrowed token.spelling).toList
  stands : piece.token? = some token

theorem natural_spelling (n : Nat) :
    (Token.number n).spelling = String.ofList (Nat.toDigits 10 n) := by
  have whole : (n : Rat).den = 1 := rfl
  rw [Token.spelling, Display.exact, if_pos whole]
  rfl

theorem writable_shown (token : Token) (writable : Writable token) : ∃ piece, Shows piece token := by
  cases writable with
  | number n =>
      have numeral := Literal.toDigits_numeral n
      refine ⟨.number (Nat.toDigits 10 n), numeral.formed, numeral.written, ?_, ?_⟩
      · rw [natural_spelling, Text.narrowed_ascii _ numeral.ascii]
        rfl
      · rw [Piece.token?, Literal.value_toDigits]
  | name text filled letters narrow other =>
      have formed : (Piece.name text.toList).WellFormed :=
        ⟨fun empty => filled (String.toList_eq_nil_iff.mp empty), letters,
          fun token member same => other token member (String.toList_inj.mp same)⟩
      refine ⟨.name text.toList, formed, trivial, congrArg String.toList narrow.symm, ?_⟩
      rw [Piece.token?, String.ofList_toList]
  | fixed _ member => exact ⟨.fixed token, member, trivial, (narrowed_spelling token member).symm, rfl⟩

theorem spelling_read (token : Token) (writable : Writable token) :
    tokenize token.spelling = .ok [token, .ending] := by
  obtain ⟨piece, shows⟩ := writable_shown token writable
  have cut := segments_single piece shows.formed
  rw [shows.chars] at cut
  have read := tokenize_segments token.spelling [piece] cut
    (List.forall_mem_singleton.mpr shows.readable)
  simpa [shows.stands] using read

/-! Lines -/

theorem extend_spelling (line : String) (token : Token) (shown : token ≠ .ending) :
    Token.extend line token = (if line.isEmpty then line else line ++ " ") ++ token.spelling := by
  cases token with
  | ending => exact absurd rfl shown
  | _ => rfl

theorem writable_not_ending (token : Token) (writable : Writable token) : token ≠ .ending := by
  cases writable with
  | number n => rintro ⟨⟩
  | name text => rintro ⟨⟩
  | fixed _ member =>
      rintro rfl
      exact absurd member (by decide)

theorem extend_read (line : String) (front : List Token) (token : Token)
    (read : tokenize line = .ok (front ++ [.ending])) (writable : Writable token) :
    tokenize (Token.extend line token) = .ok (front ++ [token] ++ [.ending]) := by
  have last := spelling_read token writable
  rw [extend_spelling line token (writable_not_ending token writable)]
  -- only the first token of a line has no space before it
  by_cases empty : line = ""
  · subst empty
    have none : tokenize "" = .ok [.ending] := by decide +kernel
    have blank : front = [] := by simpa using read.symm.trans none
    simpa [blank] using last
  · have space : Character.isWhiteSpace ' ' = true := by decide
    have behind := tokenize_spaced_behind space line token.spelling front read
    rw [last] at behind
    have joined : tokenize (line ++ " " ++ token.spelling) =
        .ok (front ++ [token, .ending]) := behind
    simpa [empty] using joined

theorem foldl_extend_read (tokens : List Token) (writable : ∀ token ∈ tokens, Writable token)
    (line : String) (front : List Token) (read : tokenize line = .ok (front ++ [.ending])) :
    tokenize (tokens.foldl Token.extend line) = .ok (front ++ tokens ++ [.ending]) := by
  induction tokens generalizing line front with
  | nil => simpa using read
  | cons token rest ih =>
      obtain ⟨first, others⟩ := List.forall_mem_cons.mp writable
      have longer := extend_read line front token read first
      simpa using ih others _ _ longer

theorem line_read (tokens : List Token) (writable : ∀ token ∈ tokens, Writable token) :
    tokenize (Token.line (tokens ++ [.ending])) = .ok (tokens ++ [.ending]) := by
  have empty : tokenize "" = .ok ([] ++ [.ending]) := by decide +kernel
  have read := foldl_extend_read tokens writable "" [] empty
  rw [Token.line, List.foldl_append]
  exact read

/-! Tokens of texts -/

theorem mkRat_nonneg (n d : Nat) : 0 ≤ (mkRat n d).num := by
  rw [Rat.num_mkRat]
  split
  · exact Int.le_refl 0
  · exact Int.ediv_nonneg (Int.natCast_nonneg _) (Int.natCast_nonneg _)

theorem value_nonneg (parts : Literal.Parts) : 0 ≤ parts.value.num := by
  unfold Literal.Parts.value
  split
  · exact mkRat_nonneg _ _
  · exact mkRat_nonneg _ _

theorem natural_of_whole (value : Rat) (positive : 0 ≤ value.num) (whole : value.den = 1) :
    value = (value.num.toNat : Rat) := by
  calc
    value = mkRat value.num value.den := (Rat.mkRat_self value).symm
    _ = (value.num : Rat) := by rw [whole, Rat.mkRat_one]
    _ = (value.num.toNat : Rat) := by rw [← Rat.intCast_natCast, Int.toNat_of_nonneg positive]

theorem narrowed_part (text : String) (part : List Char)
    (inside : ∀ c ∈ part, c ∈ (Text.narrowed text).toList) :
    Text.narrowed (String.ofList part) = String.ofList part := by
  have fixed : ∀ c ∈ part, Text.narrow c = c := by
    intro c member
    have narrow := inside c member
    rw [Text.narrowed, String.toList_ofList] at narrow
    obtain ⟨wide, _, rfl⟩ := List.mem_map.mp narrow
    exact Text.narrow_narrow wide
  rw [Text.narrowed, String.toList_ofList, List.map_congr_left fixed, List.map_id']

theorem lexed_writable (text : String) (pieces : List Piece)
    (cut : Segments (Text.narrowed text).toList pieces)
    (whole : ∀ value, .number value ∈ pieces.filterMap Piece.token? → value.den = 1) :
    ∀ token ∈ pieces.filterMap Piece.token?, Writable token := by
  intro token member
  obtain ⟨piece, inside, stands⟩ := List.mem_filterMap.mp member
  have formed := segments_formed _ pieces cut piece inside
  cases piece with
  | blank c => cases stands
  | number run =>
      cases stands
      -- a literal has no sign, so a whole one is a natural number
      rw [natural_of_whole _ (value_nonneg _) (whole _ member)]
      exact .number _
  | name letters =>
      cases stands
      have within : ∀ c ∈ letters, c ∈ (Text.narrowed text).toList := by
        intro c spelled
        rw [← segments_flat _ pieces cut]
        exact List.mem_flatMap.mpr ⟨_, inside, spelled⟩
      refine .name _ ?_ ?_ (narrowed_part text letters within) ?_
      · intro empty
        exact formed.1 (by simpa using congrArg String.toList empty)
      · simpa using formed.2.1
      · intro token lone same
        exact formed.2.2 token lone (by simp [same])
  | fixed _ =>
      cases stands
      exact .fixed token formed

def Normal (text : String) : Prop :=
  ∃ tokens, tokenize text = .ok tokens ∧ Token.line tokens = text

/-- Writable tokens are read back from their line, which has one ending at the end. The tokens of a
text without fractions are of this kind, so that their line has the same tokens and is its own line. -/
theorem line_read_back :
    (∀ tokens : List Token, (∀ token ∈ tokens, Writable token) →
      tokenize (Token.line (tokens ++ [.ending])) = .ok (tokens ++ [.ending])) ∧
    ∀ text tokens, tokenize text = .ok tokens → (∀ value, .number value ∈ tokens → value.den = 1) →
      tokenize (Token.line tokens) = .ok tokens ∧ Normal (Token.line tokens) := by
  constructor
  · exact line_read
  · intro text tokens lexed whole
    obtain ⟨pieces, cut, _, rfl⟩ := tokenize_ok text tokens lexed
    have writable := lexed_writable text pieces cut fun value member =>
      whole value (List.mem_append_left _ member)
    have read := line_read _ writable
    exact ⟨read, _, read, rfl⟩

theorem line_read_back_texts :
    (∀ token ∈ [.operator .times, .operator .times, .number 12, .name "pi"], Writable token) ∧
    tokenize "* * 12 pi" =
      .ok [.operator .times, .operator .times, .number 12, .name "pi", .ending] ∧
    tokenize "（5.0×2）c1！" = .ok [.opening, .number 5, .operator .times, .number 2, .closing,
      .operator (.choose 'c'), .number 1, .bang, .ending] ∧
    tokenize "( 5 * 2 ) c 1 !" = .ok [.opening, .number 5, .operator .times, .number 2, .closing,
      .operator (.choose 'c'), .number 1, .bang, .ending] ∧ Normal "( 5 * 2 ) c 1 !" := by
  have name : Writable (.name "pi") := .name "pi" (by decide) (List.all_eq_true.mp (by decide)) (by decide)
    (by decide)
  have writable : ∀ token ∈ [.operator .times, .operator .times, .number 12, .name "pi"],
      Writable token := by
    simp only [List.forall_mem_cons]
    exact ⟨.fixed _ (by decide), .fixed _ (by decide), .number 12, name, by simp⟩
  have stars := line_read_back.1 _ writable
  have shown : Token.line ([.operator .times, .operator .times, .number 12, .name "pi"] ++
      [.ending]) = "* * 12 pi" := by decide +kernel
  have lexed : tokenize "（5.0×2）c1！" = .ok [.opening, .number 5, .operator .times, .number 2,
      .closing, .operator (.choose 'c'), .number 1, .bang, .ending] := by decide +kernel
  obtain ⟨read, normal⟩ := line_read_back.2 _ _ lexed (by simp)
  have line : Token.line [.opening, .number 5, .operator .times, .number 2, .closing,
      .operator (.choose 'c'), .number 1, .bang, .ending] = "( 5 * 2 ) c 1 !" := by decide +kernel
  rw [shown] at stars
  rw [line] at read normal
  exact ⟨writable, stars, lexed, read, normal⟩

end Lexer

end RationalCalc
