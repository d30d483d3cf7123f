import RationalCalc.Chat.Filter
import RationalCalc.Proofs.Denotation

/-!
The filter never hides what can be computed. A text with a value is made of white space, digits,
points, symbols and letters. The letters spell an operator or the name of a constant, for a name that
stands for nothing cannot be computed. So the filter admits every character of the text, in the wide
forms too, and admitted characters that are numeric are digits.
-/

namespace RationalCalc

open Character (isWhiteSpace isNumeric isAscii within)
open RationalCalc.Filter (admitted)

/-! Names stand for constants -/

namespace Rpn

theorem explicit_name (after : Bool) (tokens : List Token) (text : String)
    (member : .name text ∈ tokens) : .name text ∈ explicit after tokens := by
  induction tokens generalizing after with
  | nil => cases member
  | cons token rest ih =>
      rcases List.mem_cons.mp member with rfl | later
      · exact List.mem_cons_self ..
      · exact List.mem_append_right _ (ih (endsOperand after token) later)

theorem program_resolved (limits : Limits) (tree : Expression) (value : Rat)
    (computed : tree.value limits = .ok value) (text : String)
    (member : .name text ∈ tree.program) : ∃ constant, resolve text = .ok constant := by
  induction tree generalizing value with
  | number _ => simp [Expression.program] at member
  | name other =>
      have same : text = other := by simpa [Expression.program] using member
      exact ⟨value, same ▸ computed⟩
  | bang operand ih =>
      obtain ⟨n, inner, -⟩ := (bind_ok ..).mp computed
      have below : .name text ∈ operand.program := by simpa [Expression.program] using member
      exact ih n inner below
  | binary op left right ihLeft ihRight =>
      obtain ⟨a, first, rest⟩ := (bind_ok ..).mp computed
      obtain ⟨b, second, -⟩ := (bind_ok ..).mp rest
      have below : .name text ∈ left.program ∨ .name text ∈ right.program := by
        simpa [Expression.program] using member
      rcases below with before | behind
      · exact ihLeft a first before
      · exact ihRight b second behind

theorem resolved_admitted (text : String) (constant : Rat) (resolved : resolve text = .ok constant) :
    ∀ c ∈ text.toList, admitted c = true := by
  have letter : ∀ c : Char, c.toLower ∈ Filter.letters → admitted c = true := by
    intro c lower
    simp [admitted, lower]
  have lowered_letters (name : List Char) (spells : lowered text = name)
      (letters : ∀ d ∈ name, d ∈ Filter.letters) : ∀ c ∈ text.toList, admitted c = true := by
    intro c member
    apply letter c
    apply letters
    rw [← spells]
    exact List.mem_map_of_mem member
  simp only [resolve] at resolved
  split at resolved
  · rename_i circle
    rcases (Bool.or_eq_true ..).mp circle with roman | greek
    · exact lowered_letters _ (of_decide_eq_true roman) (by simp [Filter.letters])
    · intro c member
      rw [of_decide_eq_true greek, List.mem_singleton] at member
      subst member
      decide +kernel
  · split at resolved
    · rename_i base
      exact lowered_letters _ base (by simp [Filter.letters])
    · cases resolved

end Rpn

/-! Pieces are admitted -/

theorem spelling_admitted : ∀ token ∈ Lexer.symbolTokens ++ Lexer.letterTokens,
    token.spelling.toList.all admitted = true := by
  decide +kernel

theorem piece_admitted (piece : Lexer.Piece) (formed : piece.WellFormed)
    (stands : ∀ text, piece.token? = some (.name text) →
      ∃ constant, Rpn.resolve text = .ok constant) :
    ∀ c ∈ piece.chars, admitted c = true := by
  intro c member
  cases piece with
  | blank d =>
      rw [List.mem_singleton.mp member]
      have space : isWhiteSpace d = true := formed
      simp [admitted, space]
  | number run =>
      rcases (Lexer.inNumber_iff c).mp (formed.2 c member) with digit | rfl
      · simp [admitted, digit]
      · decide
  | name letters =>
      obtain ⟨constant, resolved⟩ := stands (String.ofList letters) rfl
      apply Rpn.resolved_admitted (String.ofList letters) constant resolved
      rw [String.toList_ofList]
      exact member
  | fixed token => exact List.all_eq_true.mp (spelling_admitted token formed) c member

theorem narrow_admitted (c : Char) : admitted (Text.narrow c) = admitted c := by
  unfold Text.narrow
  split
  all_goals rfl

theorem evaluated_admitted (limits : Limits) (text : String) (value : Rat)
    (computed : evaluate limits text = .ok value) : ∀ c ∈ text.toList, admitted c = true := by
  obtain ⟨pieces, tree, denotes, found⟩ := evaluate_denotes limits text value computed
  have named (name : String) (member : .name name ∈ pieces.filterMap Lexer.Piece.token?) :
      ∃ constant, Rpn.resolve name = .ok constant := by
    have kept := Rpn.converted_perm _ _ denotes.converted
    have inside := Rpn.explicit_name false _ name (List.mem_append_left [.ending] member)
    exact Rpn.program_resolved limits tree value found name (kept.mem_iff.mpr inside)
  intro c member
  rw [← narrow_admitted c]
  have narrow : Text.narrow c ∈ (Text.narrowed text).toList := by
    simpa [Text.narrowed] using ⟨c, member, rfl⟩
  rw [← Lexer.segments_flat _ pieces denotes.cut] at narrow
  obtain ⟨piece, within, spelled⟩ := List.mem_flatMap.mp narrow
  apply piece_admitted piece (Lexer.segments_formed _ pieces denotes.cut piece within) _ _ spelled
  intro name stands
  exact named name (List.mem_filterMap.mpr ⟨piece, within, stands⟩)

/-! Numeric characters -/

theorem toLower_ascii (c : Char) (lower : isAscii c.toLower = true) : isAscii c = true := by
  by_cases upper : c.val ≥ 'A'.val ∧ c.val ≤ 'Z'.val
  · have high : c.toNat ≤ 90 := upper.2
    simp only [isAscii, decide_eq_true_eq]
    omega
  · have same : c.toLower = c := dif_neg upper
    rw [same] at lower
    exact lower

theorem admitted_numeric (c : Char) (may : admitted c = true) (numeric : isNumeric c = true) :
    c.isDigit = true := by
  by_cases ascii : isAscii c = true
  · simpa [isNumeric, ascii] using numeric
  · have beyond : within Character.numericRanges c = true := by
      simpa [isNumeric, ascii] using numeric
    have marks : ((Filter.symbols ++ Filter.wideLetters).all fun d =>
        !within Character.numericRanges d) = true := by
      decide +kernel
    have letters : Filter.letters.all isAscii = true := by decide
    simp only [admitted, Bool.or_eq_true, List.contains_iff_mem] at may
    rcases may with (((digit | space) | symbol) | wide) | letter
    · exact digit
    · have wide : within Character.whiteSpaceRanges c = true := by
        simpa [isWhiteSpace, ascii] using space
      rw [Character.within_apart _ _ c Character.whiteSpace_apart_numeric wide] at beyond
      cases beyond
    · have plain := List.all_eq_true.mp marks c (List.mem_append_left _ symbol)
      simp [beyond] at plain
    · have plain := List.all_eq_true.mp marks c (List.mem_append_right _ wide)
      simp [beyond] at plain
    · exact absurd (toLower_ascii c (List.all_eq_true.mp letters _ letter)) ascii

/-- A text with a value passes the filter, unless it is made of digits only. -/
theorem evaluated_candidate (limits : Limits) (text : String) (value : Rat)
    (computed : evaluate limits text = .ok value) :
    Filter.isCandidate text = true ∨ ∀ c ∈ text.toList, c.isDigit = true := by
  have all := evaluated_admitted limits text value computed
  by_cases numeric : text.toList.all isNumeric = true
  · right
    intro c member
    exact admitted_numeric c (all c member) (List.all_eq_true.mp numeric c member)
  · left
    simp [Filter.isCandidate, numeric, List.all_eq_true.mpr all]

/-- Wide forms are let through; a number on its own is not. -/
theorem evaluated_candidate_texts :
    evaluate .standard "（1＋2）×3" = .ok 9 ∧
      (Filter.isCandidate "（1＋2）×3" = true ∨ ∀ c ∈ "（1＋2）×3".toList, c.isDigit = true) ∧
      evaluate .standard "42" = .ok 42 ∧ Filter.isCandidate "42" = false ∧
      (Filter.isCandidate "42" = true ∨ ∀ c ∈ "42".toList, c.isDigit = true) := by
  have nine : evaluate .standard "（1＋2）×3" = .ok 9 := by decide +kernel
  have number : evaluate .standard "42" = .ok 42 := by decide +kernel
  exact ⟨nine, evaluated_candidate _ _ _ nine, number, by decide,
    evaluated_candidate _ _ _ number⟩

end RationalCalc
