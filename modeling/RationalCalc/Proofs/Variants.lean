import RationalCalc.Evaluation
import RationalCalc.Proofs.Causes
import RationalCalc.Proofs.Folding

/-!
Variants of a text are computed alike. The converter looks at no letter, and the machine reads names
in lower case and takes both letters of an operator for the same. So each of their steps on a folded
token does what it does on the token itself, and an evaluation of the folded text answers the same
value, or a fault that differs only in what it quotes. Two texts whose characters are the same up to
width and case are folded to one.
-/

namespace RationalCalc

theorem operandFaults_folded : ∀ fault ∈ Arithmetic.operandFaults, fault.folded = fault := by
  decide

theorem refold_operands (outcome : Except Fault α)
    (raises : Raises (· ∈ Arithmetic.operandFaults) outcome) : refold id outcome = outcome := by
  cases outcome with
  | error fault => exact congrArg Except.error (operandFaults_folded fault (raises fault rfl))
  | ok value => rfl

namespace Rpn

/-! Runs -/

/-- If every step does on folded tokens what it does on the tokens themselves, so does a run. -/
theorem run_folded (change : σ → σ) (step : σ → Token → Except (Stop σ) σ)
    (steps : ∀ state token,
      faulting (step (change state) token.folded) = refold change (faulting (step state token)))
    (tokens : List Token) (state : σ) :
    faulting ((tokens.map Token.folded).foldlM step (change state)) =
      refold change (faulting (tokens.foldlM step state)) := by
  induction tokens generalizing state with
  | nil => rfl
  | cons token rest ih =>
      rw [List.map_cons, List.foldlM_cons, List.foldlM_cons, faulting_bind, faulting_bind, steps]
      exact refold_bind ih

/-! The converter -/

theorem strength_folded (token : Token) : strength token.folded = strength token := by
  cases token with
  | operator op => cases op <;> rfl
  | _ => rfl

theorem groupsRight_folded (token : Token) : groupsRight token.folded = groupsRight token := by
  cases token with
  | operator op => cases op <;> rfl
  | _ => rfl

theorem opening_folded (token : Token) : (token.folded != .opening) = (token != .opening) := by
  cases token <;> rfl

theorem bang_folded (token : Token) : (token.folded == .bang) = (token == .bang) := by
  cases token <;> rfl

theorem released_folded (token : Token) : released token.folded = (released token).folded := by
  cases token with
  | sign mark =>
      simp only [Token.folded, released]
      split <;> rfl
  | _ => rfl

theorem yields_folded (arriving top : Token) :
    yields arriving.folded top.folded = yields arriving top := by
  simp only [yields, opening_folded, strength_folded, groupsRight_folded]

theorem release_folded (leaves leaves' : Token → Bool)
    (same : ∀ token, leaves' token.folded = leaves token) (output pending : List Token) :
    release leaves' (output.map Token.folded) (pending.map Token.folded) =
      ((release leaves output pending).1.map Token.folded,
        (release leaves output pending).2.map Token.folded) := by
  induction pending generalizing output with
  | nil => rfl
  | cons top pending ih =>
      by_cases leaving : leaves top = true
      · simp only [List.map_cons, release, same, leaving, ↓reduceIte, released_folded]
        exact ih (released top :: output)
      · simp [release, same, leaving]

theorem release_group (output pending : List Token) :
    release (· != .opening) (output.map Token.folded) (pending.map Token.folded) =
      ((release (· != .opening) output pending).1.map Token.folded,
        (release (· != .opening) output pending).2.map Token.folded) :=
  release_folded _ _ opening_folded output pending

namespace Draft

def folded (draft : Draft) : Draft :=
  { draft with
    output := draft.output.map Token.folded
    pending := draft.pending.map Token.folded }

theorem operation_folded (draft : Draft) (token : Token) :
    draft.folded.operation token.folded = (draft.operation token).folded := by
  simp only [operation, folded, bang_folded, List.map_cons,
    release_folded (yields token) (yields token.folded) (yields_folded token)]

theorem closed_folded (draft : Draft) :
    faulting draft.folded.closed = refold folded (faulting draft.closed) := by
  simp only [closed, folded, release_group]
  generalize release (· != .opening) draft.output draft.pending = result
  obtain ⟨output, pending⟩ := result
  cases pending <;> rfl

theorem finish_folded (draft : Draft) :
    faulting draft.folded.finish = refold (List.map Token.folded) (faulting draft.finish) := by
  simp only [finish, folded, release_group]
  generalize release (· != .opening) draft.output draft.pending = result
  obtain ⟨output, pending⟩ := result
  cases pending <;> rfl

theorem step_folded (draft : Draft) (token : Token) :
    faulting (draft.folded.step token.folded) = refold folded (faulting (draft.step token)) := by
  have ending : draft.folded.ended = draft.ended := rfl
  have value : draft.folded.afterValue = draft.afterValue := rfl
  simp only [step, ending]
  by_cases ended : draft.ended = true
  · rw [if_pos ended, if_pos ended]
    rfl
  · rw [if_neg ended, if_neg ended]
    cases token with
    | bang => exact congrArg Except.ok (operation_folded draft .bang)
    | closing => exact closed_folded draft
    | operator op =>
        have operates := operation_folded draft (.operator op)
        simp only [Token.folded, value]
        by_cases behind : draft.afterValue = true
        · rw [if_pos behind, if_pos behind]
          exact congrArg Except.ok operates
        · rw [if_neg behind, if_neg behind]
          cases op with
          | plus => rfl
          | minus => rfl
          | _ => exact congrArg Except.ok operates
    | _ => rfl

end Draft

theorem ofTokens_folded (tokens : List Token) :
    ofTokens (tokens.map Token.folded) = refold (List.map Token.folded) (ofTokens tokens) := by
  have course (tokens : List Token) : ofTokens tokens =
      (faulting (tokens.foldlM Draft.step .start) >>= fun draft => faulting draft.finish).map
        List.reverse := by
    rw [ofTokens_outcome, ← faulting_bind]
    rfl
  have run := run_folded Draft.folded Draft.step Draft.step_folded tokens .start
  -- nothing is put out or waits at the start, and so the folded run starts there as well
  have finish : (refold Draft.folded (faulting (tokens.foldlM Draft.step .start)) >>=
        fun draft => faulting draft.finish) =
      refold (List.map Token.folded)
        (faulting (tokens.foldlM Draft.step .start) >>= fun draft => faulting draft.finish) :=
    refold_bind Draft.finish_folded
  rw [← run] at finish
  rw [course, course, ← refold_map fun output => List.map_reverse.symm, ← finish]
  rfl

/-! The machine -/

theorem pi_lowered (text : String) : lowered text = ['π'] ↔ text.toList = ['π'] := by
  constructor
  · intro lower
    obtain ⟨c, alone, small⟩ := List.map_eq_singleton_iff.mp lower
    rcases lowered_cases c with same | capital
    · rw [alone, ← small, same]
    · have plain : (capitals.all fun c => c.toLower != 'π') = true := by decide
      have other := List.all_eq_true.mp plain c capital
      exact absurd small (bne_iff_ne.mp other)
  · intro greek
    rw [lowered, greek]
    rfl

theorem lowered_lowered (text : String) :
    lowered (String.ofList (lowered text)) = lowered text := by
  simp [lowered]

theorem resolve_folded (text : String) :
    resolve (String.ofList (lowered text)) = refold id (resolve text) := by
  -- the one comparison that is not made in lower case comes to the same there
  have greek := pi_lowered text
  simp only [resolve, lowered_lowered, String.toList_ofList, greek]
  split
  · rw [refold, id_eq]
  · split
    · rw [refold, id_eq]
    · rfl

theorem apply_folded (op : Operator) (a b : Rat) (limits : Limits) :
    apply op.folded a b limits = apply op a b limits := by
  cases op <;> rfl

theorem pushed_operands (stack : List Rat) (result : Except Fault Rat)
    (raises : Raises (· ∈ Arithmetic.operandFaults) result) :
    faulting (pushed stack result) = refold id (faulting (pushed stack result)) :=
  (refold_operands _ (pushed_raises stack result raises)).symm

theorem execute_folded (limits : Limits) (stack : List Rat) (token : Token) :
    faulting (execute limits stack token.folded) = refold id (faulting (execute limits stack token)) := by
  cases token with
  | name text =>
      simp only [execute, Token.folded, resolve_folded, faulting_pushed]
      exact refold_map fun value => rfl
  | bang =>
      cases stack with
      | nil => rfl
      | cons value rest => exact pushed_operands rest _ (Arithmetic.factorial_raises limits value)
  | operator op =>
      cases stack with
      | nil => rfl
      | cons b below =>
          cases below with
          | nil => rfl
          | cons a rest =>
              simp only [execute, Token.folded, apply_folded]
              exact pushed_operands rest _ (apply_raises op a b limits)
  | _ => rfl

theorem onlyValue_folded (stack : List Rat) :
    faulting (onlyValue stack) = refold id (faulting (onlyValue stack)) := by
  match stack with
  | [] => rfl
  | [_] => rfl
  | _ :: _ :: _ => rfl

theorem evaluate_folded (limits : Limits) (program : List Token) :
    evaluate (program.map Token.folded) limits = refold id (evaluate program limits) := by
  have run := run_folded id (execute limits) (execute_folded limits) program []
  rw [evaluate_outcome, evaluate_outcome, faulting_bind, faulting_bind]
  change faulting ((program.map Token.folded).foldlM (execute limits) (id [])) >>= _ = _
  rw [run]
  exact refold_bind onlyValue_folded

end Rpn

/-! Evaluations -/

theorem evaluated_folded (limits : Limits) (text : String) :
    evaluate limits (Text.folded text) = refold id (evaluate limits text) := by
  simp only [evaluate, Lexer.tokenize_folded]
  apply refold_bind
  intro tokens
  rw [Rpn.ofTokens_folded]
  exact refold_bind (Rpn.evaluate_folded limits)

namespace Text

inductive Variant : Char → Char → Prop where
  | narrow (c : Char) : Variant c (narrow c)
  | lower (c : Char) : Variant c c.toLower

def Alike : Char → Char → Prop :=
  Relation.EqvGen Variant

theorem fold_lower (c : Char) : fold c.toLower = fold c := by
  rcases lowered_cases c with same | capital
  · rw [same]
  · have narrow : (capitals.all fun c => fold c.toLower == fold c) = true := by decide
    simpa using List.all_eq_true.mp narrow c capital

theorem alike_fold (c : Char) : Alike c (fold c) :=
  .trans c (narrow c) (fold c) (.rel _ _ (.narrow c)) (.rel _ _ (.lower (narrow c)))

theorem alike_iff (c d : Char) : Alike c d ↔ fold c = fold d := by
  constructor
  · intro alike
    induction alike with
    | rel c d variant =>
        cases variant with
        | narrow => rw [fold, fold, narrow_narrow]
        | lower => exact (fold_lower c).symm
    | refl c => rfl
    | symm c d _ ih => exact ih.symm
    | trans c d e _ _ first second => exact first.trans second
  · intro same
    -- both characters are alike to the one that they are folded to
    have back : Alike (fold c) d := same ▸ (alike_fold d).symm
    exact (alike_fold c).trans _ _ _ back

theorem alike_folded (one two : String) :
    List.Forall₂ Alike one.toList two.toList ↔ folded one = folded two := by
  have relation : Alike = fun c d => fold c = fold d :=
    funext fun c => funext fun d => propext (alike_iff c d)
  have characters : List.Forall₂ Alike one.toList two.toList ↔
      one.toList.map fold = two.toList.map fold := by
    rw [relation, ← List.forall₂_eq_eq_eq, List.forall₂_map_left_iff, List.forall₂_map_right_iff]
  exact characters.trans String.ofList_inj.symm

end Text

end RationalCalc
