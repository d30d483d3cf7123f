import RationalCalc.Proofs.Characters

/-!
Texts as sequences of pieces. A piece is a blank, a run of digits and points, a name, or a token that
has a spelling of its own. Segmentation is by maximal munch: of all pieces that a text begins with,
the longest is taken. A text has at most one segmentation, and those of two texts join unless some
piece reaches over the seam.
-/

namespace RationalCalc.Lexer

open Character

def symbolTokens : List Token :=
  [.operator .plus, .operator .minus, .operator .times, .operator .divide, .operator .remainder,
    .operator (.power .caret), .operator (.power .stars), .operator .floorDivide, .bang, .opening,
    .closing]

def letterTokens : List Token :=
  [.operator (.arrange 'a'), .operator (.arrange 'A'), .operator (.arrange 'p'),
    .operator (.arrange 'P'), .operator (.choose 'c'), .operator (.choose 'C')]

inductive Piece where
  | blank (c : Char)
  | number (run : List Char)
  | name (letters : List Char)
  | fixed (token : Token)

namespace Piece

def chars : Piece → List Char
  | blank c => [c]
  | number run => run
  | name letters => letters
  | fixed token => token.spelling.toList

/-- A run of digits and points is a piece even if it is no number. -/
def WellFormed : Piece → Prop
  | blank c => isWhiteSpace c = true
  | number run => run ≠ [] ∧ ∀ c ∈ run, inNumber c = true
  | name letters => letters ≠ [] ∧ (∀ c ∈ letters, isAlphabetic c = true) ∧
      ∀ token ∈ letterTokens, token.spelling.toList ≠ letters
  | fixed token => token ∈ symbolTokens ++ letterTokens

/-- Whether the piece stands for something: all do but the runs that are no numbers. -/
def Readable : Piece → Prop
  | number run => Literal.WellWritten run
  | _ => True

def token? : Piece → Option Token
  | blank _ => none
  | number run => some (.number (Literal.split run).value)
  | name letters => some (.name (String.ofList letters))
  | fixed token => some token

def visible : Piece → Bool
  | blank _ => false
  | _ => true

/-- The token that the characters write: a number is worth what its digits say. -/
def written? : Piece → Option Token
  | number run => some (.number (Literal.decimal run))
  | piece => piece.token?

/-- The written token; but of a number whose places cannot be counted in 32 bits, any number. -/
def StandsFor (piece : Piece) (token : Token) : Prop :=
  piece.written? = some token ∨
    ∃ run value, piece = number run ∧ UInt32.size ≤ Literal.places run ∧ token = .number value

end Piece

/-! The characters of a piece -/

namespace Piece

def kind : Piece → Kind
  | blank _ => .space
  | number _ => .digit
  | name _ => .letter
  | fixed token => if token ∈ symbolTokens then .symbol else .letter

theorem fixed_spelling : ∀ token ∈ symbolTokens ++ letterTokens,
    token.spelling.toList ≠ [] ∧ token.spelling.toList.all (fixed token).kind.has = true := by
  decide +kernel

theorem spelling_injective : ∀ one ∈ symbolTokens ++ letterTokens,
    ∀ two ∈ symbolTokens ++ letterTokens,
      one.spelling.toList = two.spelling.toList → one = two := by
  decide +kernel

variable {piece : Piece}

theorem chars_filled (formed : piece.WellFormed) : piece.chars ≠ [] := by
  cases piece with
  | blank c => exact List.cons_ne_nil c []
  | number run => exact formed.1
  | name letters => exact formed.1
  | fixed token => exact (fixed_spelling token formed).1

theorem chars_kind (formed : piece.WellFormed) : ∀ c ∈ piece.chars, piece.kind.has c = true := by
  cases piece with
  | blank c =>
      intro d member
      rw [List.mem_singleton.mp member]
      exact formed
  | number run => exact formed.2
  | name letters => exact formed.2.1
  | fixed token => exact List.all_eq_true.mp (fixed_spelling token formed).2

theorem kind_of_char (formed : piece.WellFormed) (c : Char) (member : c ∈ piece.chars)
    (kind : Kind) (has : kind.has c = true) : piece.kind = kind :=
  kind_unique _ _ c (chars_kind formed c member) has

theorem fixed_kind : ∀ token ∈ symbolTokens ++ letterTokens,
    (fixed token).kind = .symbol ∨ (fixed token).kind = .letter ∧ token ∈ letterTokens := by
  decide

theorem fixed_visible {token : Token} (formed : (fixed token).WellFormed) :
    (fixed token).kind ≠ .space ∧ (fixed token).kind ≠ .digit := by
  rcases fixed_kind token formed with symbol | ⟨letter, -⟩
  · rw [symbol]
    exact ⟨nofun, nofun⟩
  · rw [letter]
    exact ⟨nofun, nofun⟩

theorem fixed_alone {token : Token} {other : Piece} (left : (fixed token).WellFormed)
    (right : other.WellFormed) (same : (fixed token).chars = other.chars) :
    ∃ twin, other = fixed twin := by
  obtain ⟨c, member⟩ := List.exists_mem_of_ne_nil _ (chars_filled right)
  have kinds : (fixed token).kind = other.kind :=
    kind_of_char left c (same ▸ member) other.kind (chars_kind right c member)
  cases other with
  | fixed twin => exact ⟨twin, rfl⟩
  | name letters =>
      rcases fixed_kind token left with symbol | ⟨-, letter⟩
      · rw [symbol] at kinds
        cases kinds
      · exact absurd same (right.2.2 token letter)
  | blank d => exact absurd kinds (fixed_visible left).1
  | number run => exact absurd kinds (fixed_visible left).2

theorem chars_injective {one two : Piece} (left : one.WellFormed) (right : two.WellFormed)
    (same : one.chars = two.chars) : one = two := by
  obtain ⟨c, member⟩ := List.exists_mem_of_ne_nil _ (chars_filled left)
  have kinds : two.kind = one.kind :=
    kind_of_char right c (same ▸ member) one.kind (chars_kind left c member)
  cases one with
  | fixed token =>
      obtain ⟨twin, rfl⟩ := fixed_alone left right same
      exact congrArg fixed (spelling_injective token left twin right same)
  | blank c =>
      cases two with
      | blank d => simpa [chars] using same
      | fixed token => cases (fixed_alone right left same.symm).choose_spec
      | _ => cases kinds
  | number run =>
      cases two with
      | number other => exact congrArg number same
      | fixed token => cases (fixed_alone right left same.symm).choose_spec
      | _ => cases kinds
  | name letters =>
      cases two with
      | name other => exact congrArg name same
      | fixed token => cases (fixed_alone right left same.symm).choose_spec
      | _ => cases kinds

/-- No piece but itself holds such a character: all but digits, letters and the doubled symbols. -/
def Solitary (c : Char) : Prop :=
  ∀ piece : Piece, piece.WellFormed → c ∈ piece.chars → piece.chars = [c]

theorem space_solitary (c : Char) (space : isWhiteSpace c = true) : Solitary c := by
  intro piece formed member
  have kind := kind_of_char formed c member .space space
  cases piece with
  | blank d => rw [List.mem_singleton.mp member, chars]
  | fixed token => exact absurd kind (fixed_visible formed).1
  | _ => cases kind

theorem symbol_solitary (c : Char) (symbol : Kind.symbol.has c = true)
    (alone : ∀ token ∈ symbolTokens ++ letterTokens,
      c ∈ token.spelling.toList → token.spelling.toList = [c]) : Solitary c := by
  intro piece formed member
  have kind := kind_of_char formed c member .symbol symbol
  cases piece with
  | fixed token => exact alone token formed member
  | _ => cases kind

theorem opening_solitary : Solitary '(' :=
  symbol_solitary '(' (by decide) (by decide +kernel)

theorem closing_solitary : Solitary ')' :=
  symbol_solitary ')' (by decide) (by decide +kernel)

end Piece

/-! Maximal munch -/

/-- The longest piece that a text begins with. -/
structure Leads (piece : Piece) (text : List Char) : Prop where
  formed : piece.WellFormed
  begins : piece.chars <+: text
  longest : ∀ other : Piece, other.WellFormed → other.chars <+: text →
    other.chars.length ≤ piece.chars.length

theorem leads_unique (one two : Piece) (text : List Char) (left : Leads one text)
    (right : Leads two text) : one = two := by
  have shorter := right.longest one left.formed left.begins
  have longer := left.longest two right.formed right.begins
  have within := List.prefix_of_prefix_length_le left.begins right.begins shorter
  exact Piece.chars_injective left.formed right.formed
    (within.eq_of_length (Nat.le_antisymm shorter longer))

inductive Segments : List Char → List Piece → Prop where
  | nil : Segments [] []
  | cons (piece : Piece) (rest : List Char) (pieces : List Piece)
      (leads : Leads piece (piece.chars ++ rest)) (more : Segments rest pieces) :
      Segments (piece.chars ++ rest) (piece :: pieces)

theorem segments_unique (text : List Char) (one two : List Piece) (left : Segments text one)
    (right : Segments text two) : one = two := by
  induction left generalizing two with
  | nil =>
      generalize empty : ([] : List Char) = text at right
      cases right with
      | nil => rfl
      | cons piece rest pieces leads more =>
          exact absurd (List.append_eq_nil_iff.mp empty.symm).1 (Piece.chars_filled leads.formed)
  | cons piece rest pieces leads more ih =>
      generalize same : piece.chars ++ rest = text at right
      cases right with
      | nil => exact absurd (List.append_eq_nil_iff.mp same).1 (Piece.chars_filled leads.formed)
      | cons other behind others first later =>
          have first : Leads other (piece.chars ++ rest) := same ▸ first
          have twin := leads_unique piece other _ leads first
          subst twin
          have tail := List.append_cancel_left same
          subst tail
          exact congrArg (List.cons piece) (ih others later)

theorem segments_flat (text : List Char) (pieces : List Piece) (cut : Segments text pieces) :
    pieces.flatMap Piece.chars = text := by
  induction cut with
  | nil => rfl
  | cons piece rest pieces leads more ih => rw [List.flatMap_cons, ih]

theorem segments_formed (text : List Char) (pieces : List Piece) (cut : Segments text pieces) :
    ∀ piece ∈ pieces, piece.WellFormed := by
  induction cut with
  | nil => simp
  | cons piece rest pieces leads more ih =>
      intro other member
      rcases List.mem_cons.mp member with rfl | later
      · exact leads.formed
      · exact ih other later

/-! Seams -/

/-- No piece reaches from the end of one text into the other. -/
def Parted (left right : List Char) : Prop :=
  ∀ piece : Piece, piece.WellFormed → ∀ before after, before ≠ [] → after ≠ [] →
    piece.chars = before ++ after → before <:+ left → ¬ after <+: right

theorem solitary_whole (c : Char) (alone : Piece.Solitary c) (piece : Piece)
    (formed : piece.WellFormed) (before after : List Char) (left : before ≠ []) (right : after ≠ [])
    (same : piece.chars = before ++ after) : c ∉ piece.chars := by
  intro member
  have single := congrArg List.length (same.symm.trans (alone piece formed member))
  have some := List.length_pos_iff.mpr left
  have more := List.length_pos_iff.mpr right
  simp only [List.length_append, List.length_cons, List.length_nil] at single
  omega

theorem parted_last (left right : List Char) (c : Char) (alone : Piece.Solitary c) :
    Parted (left ++ [c]) right := by
  intro piece formed before after filled ahead same ends _
  apply solitary_whole c alone piece formed before after filled ahead same
  have last := ends.getLast filled
  rw [List.getLast_concat] at last
  have member := List.getLast_mem filled
  rw [last] at member
  exact same ▸ List.mem_append_left after member

theorem parted_first (left right : List Char) (c : Char) (alone : Piece.Solitary c) :
    Parted left (c :: right) := by
  intro piece formed before after filled ahead same _ begins
  apply solitary_whole c alone piece formed before after filled ahead same
  cases after with
  | nil => exact absurd rfl ahead
  | cons d more =>
      have first := (List.cons_prefix_cons.mp begins).1
      subst first
      simp [same]

theorem parted_behind (front left right : List Char) (parted : Parted (front ++ left) right) :
    Parted left right := by
  intro piece formed before after filled ahead same ends
  exact parted piece formed before after filled ahead same (ends.trans (List.suffix_append front left))

theorem leads_parted (piece : Piece) (rest right : List Char) (leads : Leads piece (piece.chars ++ rest))
    (parted : Parted (piece.chars ++ rest) right) : Leads piece (piece.chars ++ (rest ++ right)) := by
  refine ⟨leads.formed, List.prefix_append _ _, ?_⟩
  intro other formed begins
  rw [← List.append_assoc] at begins
  have whole := List.prefix_append (piece.chars ++ rest) right
  rcases Nat.le_total other.chars.length (piece.chars ++ rest).length with short | long
  · exact leads.longest other formed (List.prefix_of_prefix_length_le begins whole short)
  · -- it would reach over the seam
    obtain ⟨after, same⟩ := List.prefix_of_prefix_length_le whole begins long
    cases after with
    | nil =>
        rw [List.append_nil] at same
        exact leads.longest other formed (same ▸ List.prefix_refl _)
    | cons c after =>
        have filled : piece.chars ++ rest ≠ [] := fun empty =>
          Piece.chars_filled leads.formed (List.append_eq_nil_iff.mp empty).1
        rw [← same] at begins
        exact absurd ((List.prefix_append_right_inj _).mp begins)
          (parted other formed _ _ filled (List.cons_ne_nil c after) same.symm (List.suffix_refl _))

theorem segments_append (left right : List Char) (one two : List Piece) (parted : Parted left right)
    (first : Segments left one) (second : Segments right two) :
    Segments (left ++ right) (one ++ two) := by
  induction first with
  | nil => exact second
  | cons piece rest pieces leads more ih =>
      have whole := leads_parted piece rest right leads parted
      have tail := ih (parted_behind piece.chars rest right parted)
      rw [List.append_assoc]
      exact .cons piece (rest ++ right) (pieces ++ two) whole tail

theorem segments_single (piece : Piece) (formed : piece.WellFormed) :
    Segments piece.chars [piece] := by
  have leads : Leads piece (piece.chars ++ []) := by
    refine ⟨formed, List.prefix_append _ _, ?_⟩
    intro other _ begins
    simpa using begins.length_le
  simpa using Segments.cons piece [] [] leads .nil

end RationalCalc.Lexer
