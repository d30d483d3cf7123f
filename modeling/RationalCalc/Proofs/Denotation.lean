import RationalCalc.Evaluation
import RationalCalc.Proofs.Conservation
import RationalCalc.Proofs.Violations

/-!
What a text denotes. The stages of an evaluation are brought together here: a text denotes a tree if
its pieces are tokens that are converted to the program of the tree. Its value is then that of the
tree, and every text with a value denotes a tree.
-/

namespace RationalCalc

open Lexer (Piece Segments)

namespace Expression

theorem program_executable (tree : Expression) : Rpn.executable tree.program = tree.program := by
  have append (front rest : List Token) :
      Rpn.executable (front ++ rest) = Rpn.executable front ++ Rpn.executable rest :=
    List.filter_append ..
  induction tree with
  | number value => rfl
  | name text => rfl
  | bang operand ih =>
      rw [program, append, ih]
      rfl
  | binary op left right ihLeft ihRight =>
      rw [program, append, append, ihLeft, ihRight]
      rfl

end Expression

structure Denotes (text : String) (pieces : List Piece) (tree : Expression) : Prop where
  cut : Segments (Text.narrowed text).toList pieces
  readable : ∀ piece ∈ pieces, piece.Readable
  converted : Rpn.ofTokens (pieces.filterMap Piece.token? ++ [.ending]) = .ok tree.program

theorem Denotes.tokenized {text : String} {pieces : List Piece} {tree : Expression}
    (denotes : Denotes text pieces tree) :
    Lexer.tokenize text = .ok (pieces.filterMap Piece.token? ++ [.ending]) :=
  Lexer.tokenize_segments text pieces denotes.cut denotes.readable

theorem Denotes.evaluate {text : String} {pieces : List Piece} {tree : Expression}
    (denotes : Denotes text pieces tree) (limits : Limits) :
    evaluate limits text = tree.value limits := by
  simp only [RationalCalc.evaluate, denotes.tokenized, denotes.converted, bind, Except.bind]
  exact Rpn.evaluate_tree limits tree.program tree tree.program_executable.symm

theorem evaluate_denotes (limits : Limits) (text : String) (value : Rat)
    (computed : evaluate limits text = .ok value) :
    ∃ pieces tree, Denotes text pieces tree ∧ tree.value limits = .ok value := by
  cases lexed : Lexer.tokenize text with
  | error fault =>
      rw [evaluate, lexed] at computed
      cases computed
  | ok tokens =>
      cases converted : Rpn.ofTokens tokens with
      | error fault =>
          simp only [evaluate, lexed, converted, bind, Except.bind] at computed
          cases computed
      | ok program =>
          simp only [evaluate, lexed, converted, bind, Except.bind] at computed
          obtain ⟨tree, spelled, found⟩ := (Rpn.evaluate_ok limits program value).mp computed
          rw [Rpn.converted_executable tokens program converted] at spelled
          obtain ⟨pieces, cut, readable, rfl⟩ := Lexer.tokenize_ok text tokens lexed
          exact ⟨pieces, tree, ⟨cut, readable, by rw [converted, spelled]⟩, found⟩

end RationalCalc
