import RationalCalc.Proofs.Denotation

/-!
Parentheses of a text and of its tokens. Whether they balance is a matter of counting, character by
character or token by token. Both counts agree, because a parenthesis is a piece of its own and no
other piece holds one.
-/

namespace RationalCalc

/-- No more items close than are open at any point, and in the end all are closed; `depth` are open
at the start. -/
structure Nested [BEq α] (opening closing : α) (depth : Nat) (items : List α) : Prop where
  opened : ∀ front, front <+: items → front.count closing ≤ depth + front.count opening
  closed : items.count closing = depth + items.count opening

section Nesting

variable {α : Type} [BEq α] {opening closing : α} {depth : Nat} {rest : List α}

theorem nested_append (front : List α) (deeper : Nat)
    (within : ∀ part, part <+: front → part.count closing ≤ depth + part.count opening)
    (turn : deeper + front.count closing = depth + front.count opening) :
    Nested opening closing depth (front ++ rest) ↔ Nested opening closing deeper rest := by
  constructor
  · intro nested
    constructor
    · intro part begins
      have whole := nested.opened (front ++ part) ((List.prefix_append_right_inj front).mpr begins)
      simp only [List.count_append] at whole
      omega
    · have whole := nested.closed
      simp only [List.count_append] at whole
      omega
  · intro nested
    constructor
    · intro part begins
      rcases List.prefix_or_prefix_of_prefix begins (List.prefix_append front rest) with
        short | ⟨later, rfl⟩
      · exact within part short
      · have behind := nested.opened later ((List.prefix_append_right_inj front).mp begins)
        simp only [List.count_append]
        omega
    · have behind := nested.closed
      simp only [List.count_append]
      omega

variable [LawfulBEq α]

theorem nested_plain (front : List α) (opens : opening ∉ front) (closes : closing ∉ front) :
    Nested opening closing depth (front ++ rest) ↔ Nested opening closing depth rest := by
  apply nested_append
  · intro part begins
    rw [List.count_eq_zero.mpr fun member => closes (begins.subset member)]
    exact Nat.zero_le _
  · rw [List.count_eq_zero.mpr opens, List.count_eq_zero.mpr closes]

theorem nested_opening (differ : opening ≠ closing) (depth : Nat) (rest : List α) :
    Nested opening closing depth (opening :: rest) ↔ Nested opening closing (depth + 1) rest := by
  have alone : [opening].count closing = 0 := by simp [differ]
  apply nested_append [opening]
  · intro part begins
    have none := begins.sublist.count_le closing
    omega
  · simp [alone]

theorem nested_closing (differ : opening ≠ closing) (depth : Nat) (rest : List α) :
    Nested opening closing (depth + 1) (closing :: rest) ↔ Nested opening closing depth rest := by
  apply nested_append [closing]
  · intro part begins
    have one := begins.sublist.count_le closing
    simp at one
    omega
  · simp [differ.symm]

theorem not_nested_closing (differ : opening ≠ closing) :
    ¬ Nested opening closing 0 (closing :: rest) := by
  intro nested
  have first := nested.opened [closing] (by simp)
  simp [differ.symm] at first

end Nesting

theorem balanced_iff (depth : Nat) (tokens : List Token) :
    Rpn.Balanced depth tokens ↔ Nested .opening .closing depth tokens :=
  ⟨fun balanced => ⟨balanced.opened, balanced.closed⟩,
    fun nested => ⟨nested.opened, nested.closed⟩⟩

namespace Lexer

theorem opening_formed : (Piece.fixed .opening).WellFormed :=
  (by decide : Token.opening ∈ symbolTokens ++ letterTokens)

theorem closing_formed : (Piece.fixed .closing).WellFormed :=
  (by decide : Token.closing ∈ symbolTokens ++ letterTokens)

theorem parenthesis_cases (piece : Piece) (formed : piece.WellFormed) :
    piece = .fixed .opening ∨ piece = .fixed .closing ∨
      ('(' ∉ piece.chars ∧ ')' ∉ piece.chars) ∧
        Token.opening ∉ piece.token?.toList ∧ Token.closing ∉ piece.token?.toList := by
  by_cases opens : '(' ∈ piece.chars
  · have alone := Piece.opening_solitary piece formed opens
    exact .inl (Piece.chars_injective formed opening_formed alone)
  by_cases closes : ')' ∈ piece.chars
  · have alone := Piece.closing_solitary piece formed closes
    exact .inr (.inl (Piece.chars_injective formed closing_formed alone))
  have spelled (token : Token) (stands : token ∈ piece.token?.toList) (c : Char)
      (holds : c ∈ token.spelling.toList) (parenthesis : token = .opening ∨ token = .closing) :
      c ∈ piece.chars := by
    cases piece with
    | blank d => cases stands
    | fixed other =>
        cases List.mem_singleton.mp stands
        exact holds
    | _ =>
        cases List.mem_singleton.mp stands
        rcases parenthesis with same | same <;> cases same
  refine .inr (.inr ⟨⟨opens, closes⟩, ?_, ?_⟩)
  · intro stands
    exact opens (spelled .opening stands '(' (by decide) (.inl rfl))
  · intro stands
    exact closes (spelled .closing stands ')' (by decide) (.inr rfl))

theorem tokens_cons (piece : Piece) (pieces : List Piece) :
    (piece :: pieces).filterMap Piece.token? =
      piece.token?.toList ++ pieces.filterMap Piece.token? := by
  cases stands : piece.token? <;> simp [stands]

theorem segments_nested (text : List Char) (pieces : List Piece) (cut : Segments text pieces)
    (depth : Nat) : Nested '(' ')' depth text ↔
      Nested .opening .closing depth (pieces.filterMap Piece.token?) := by
  induction cut generalizing depth with
  | nil =>
      constructor
      · intro nested
        exact ⟨by simp, nested.closed⟩
      · intro nested
        exact ⟨by simp, nested.closed⟩
  | cons piece rest pieces leads more ih =>
      rw [tokens_cons]
      rcases parenthesis_cases piece leads.formed with
        rfl | rfl | ⟨⟨opens, closes⟩, opening, closing⟩
      · have chars := nested_opening (by decide : '(' ≠ ')') depth rest
        have tokens := nested_opening (by decide : Token.opening ≠ .closing) depth
          (pieces.filterMap Piece.token?)
        exact chars.trans ((ih (depth + 1)).trans tokens.symm)
      · cases depth with
        | zero => exact iff_of_false (not_nested_closing (by decide)) (not_nested_closing (by decide))
        | succ outer =>
            have chars := nested_closing (by decide : '(' ≠ ')') outer rest
            have tokens := nested_closing (by decide : Token.opening ≠ .closing) outer
              (pieces.filterMap Piece.token?)
            exact chars.trans ((ih outer).trans tokens.symm)
      · rw [nested_plain _ opens closes, nested_plain _ opening closing]
        exact ih depth

end Lexer

end RationalCalc
