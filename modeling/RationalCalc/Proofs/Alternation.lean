import RationalCalc.Proofs.Denotation

/-!
Order of the tokens. In an infix sentence operands and operators take turns. The converter does not
look at their order, and so computes some texts that are no sentences, as `2 3 +`. What it computes
has one operand more than binary operators: every place where two operands adjoin is made up for by
one where an operand lacks, and without such places the tokens are a sentence.
-/

namespace RationalCalc

namespace Rpn

/-- Operands that begin right behind the end of another. -/
def adjoins (after : Bool) : Token → Bool
  | .number _ => after
  | .name _ => after
  | .opening => after
  | _ => false

/-- Tokens that stand where an operand should end. Plus and minus are signs there. -/
def lacks (after : Bool) : Token → Bool
  | .operator .plus => false
  | .operator .minus => false
  | .operator _ => !after
  | .bang => !after
  | .closing => !after
  | _ => false

def adjoining : Bool → List Token → Nat
  | _, [] => 0
  | after, token :: rest => (adjoins after token).toNat + adjoining (endsOperand after token) rest

def lacking : Bool → List Token → Nat
  | after, [] => (!after).toNat
  | after, token :: rest => (lacks after token).toNat + lacking (endsOperand after token) rest

/-! Operands and operators -/

def isOperand : Token → Bool
  | .number _ => true
  | .name _ => true
  | _ => false

def isBinary : Token → Bool
  | .operator _ => true
  | _ => false

theorem program_balance (tree : Expression) :
    tree.program.countP isOperand = tree.program.countP isBinary + 1 := by
  induction tree with
  | number value => rfl
  | name text => rfl
  | bang operand ih => simp [Expression.program, ih, isOperand, isBinary]
  | binary op left right ihLeft ihRight =>
      simp only [Expression.program, List.countP_append, ihLeft, ihRight, List.countP_singleton,
        isOperand, isBinary]
      simp
      omega

/-- One token shifts the balance of operands over operators just as far as it changes what the next
token finds, adjoining and lacking operands apart. -/
theorem contributes_balance (after : Bool) (token : Token) :
    (contributes after token).countP isOperand + (lacks after token).toNat + after.toNat =
      (contributes after token).countP isBinary + (adjoins after token).toNat +
        (endsOperand after token).toNat := by
  cases token with
  | operator op => cases op <;> cases after <;> rfl
  | _ => cases after <;> rfl

theorem explicit_balance (after : Bool) (tokens : List Token) :
    (explicit after tokens).countP isOperand + lacking after tokens + after.toNat =
      (explicit after tokens).countP isBinary + adjoining after tokens + 1 := by
  induction tokens generalizing after with
  | nil => cases after <;> rfl
  | cons token rest ih =>
      have now := contributes_balance after token
      have later := ih (endsOperand after token)
      simp only [explicit, lacking, adjoining, List.countP_append]
      omega

theorem converted_alternation (tokens : List Token) (tree : Expression)
    (converted : ofTokens tokens = .ok tree.program) :
    adjoining false tokens = lacking false tokens := by
  have kept := converted_perm tokens tree.program converted
  have whole := program_balance tree
  rw [kept.countP_eq, kept.countP_eq] at whole
  have balance := explicit_balance false tokens
  simp only [Bool.toNat_false] at balance
  omega

/-! Order makes a sentence -/

def isWritten : Token → Bool
  | .ending => false
  | .sign _ => false
  | _ => true

theorem balanced_rest (depth deeper : Nat) (token : Token) (rest : List Token)
    (balanced : Balanced depth (token :: rest))
    (turn : deeper + [token].count .closing = depth + [token].count .opening) :
    Balanced deeper rest := by
  obtain ⟨opened, closed⟩ := balanced
  have split (list : List Token) (other : Token) :
      (token :: list).count other = [token].count other + list.count other := by
    rw [← List.singleton_append, List.count_append]
  constructor
  · intro front begins
    have whole := opened (token :: front) (List.cons_prefix_cons.mpr ⟨rfl, begins⟩)
    simp only [split front] at whole
    omega
  · simp only [split rest] at closed
    omega

open Sentence (completes)

theorem completes_ordered (tokens : List Token) (after : Bool) (depth : Nat)
    (written : ∀ token ∈ tokens, isWritten token = true) (balanced : Balanced depth tokens)
    (apart : adjoining after tokens = 0) (full : lacking after tokens = 0) :
    completes after depth tokens := by
  induction tokens generalizing after depth with
  | nil =>
      have closed : depth = 0 := by simpa using balanced.closed.symm
      subst closed
      cases after with
      | false => cases full
      | true => trivial
  | cons token rest ih =>
      obtain ⟨now, later⟩ := Nat.add_eq_zero_iff.mp apart
      obtain ⟨here, behind⟩ := Nat.add_eq_zero_iff.mp full
      have may := written token (List.mem_cons_self ..)
      have goes (deeper : Nat)
          (turn : deeper + [token].count .closing = depth + [token].count .opening) :
          completes (endsOperand after token) deeper rest :=
        ih _ deeper (fun other member => written other (List.mem_cons_of_mem token member))
          (balanced_rest depth deeper token rest balanced turn) later behind
      cases token with
      | ending => cases may
      | sign mark => cases may
      | number value =>
          cases after with
          | false => exact goes depth rfl
          | true => cases now
      | name text =>
          cases after with
          | false => exact goes depth rfl
          | true => cases now
      | opening =>
          cases after with
          | false => exact goes (depth + 1) rfl
          | true => cases now
      | bang =>
          cases after with
          | false => cases here
          | true => exact goes depth rfl
      | operator op =>
          cases after with
          | true => exact goes depth rfl
          | false =>
              cases op with
              | plus => exact ⟨.inl rfl, goes depth rfl⟩
              | minus => exact ⟨.inr rfl, goes depth rfl⟩
              | _ => cases here
      | closing =>
          have deep : 1 ≤ depth := by simpa using balanced.opened [.closing] (by simp)
          obtain ⟨outer, rfl⟩ := Nat.exists_eq_add_of_le' deep
          cases after with
          | false => cases here
          | true => exact goes outer rfl

theorem completes_apart (tokens : List Token) (after : Bool) (depth : Nat)
    (follows : completes after depth tokens) : adjoining after tokens = 0 := by
  induction tokens generalizing after depth with
  | nil => rfl
  | cons token rest ih =>
      have goes (deeper : Nat) (alone : adjoins after token = false)
          (later : completes (endsOperand after token) deeper rest) :
          adjoining after (token :: rest) = 0 := by
        rw [adjoining, alone, ih _ deeper later]
        rfl
      cases after with
      | false =>
          cases token with
          | number value => exact goes depth rfl follows
          | name text => exact goes depth rfl follows
          | opening => exact goes (depth + 1) rfl follows
          | operator op => exact goes depth rfl follows.2
          | _ => exact follows.elim
      | true =>
          cases token with
          | operator op => exact goes depth rfl follows
          | bang => exact goes depth rfl follows
          | closing =>
              cases depth with
              | zero => exact follows.elim
              | succ outer => exact goes outer rfl follows
          | _ => exact follows.elim

theorem ordered_sentence (tokens : List Token) (written : ∀ token ∈ tokens, isWritten token = true)
    (balanced : Balanced 0 tokens) (full : adjoining false tokens = lacking false tokens) :
    Sentence tokens ↔ adjoining false tokens = 0 := by
  rw [Sentence.sentence_iff]
  constructor
  · exact completes_apart tokens false 0
  · intro apart
    exact completes_ordered tokens false 0 written balanced apart (full ▸ apart)

/-! The ending -/

theorem adjoining_ending (after : Bool) (tokens : List Token) :
    adjoining after (tokens ++ [.ending]) = adjoining after tokens := by
  induction tokens generalizing after with
  | nil => rfl
  | cons token rest ih =>
      exact congrArg ((adjoins after token).toNat + ·) (ih (endsOperand after token))

theorem lacking_ending (after : Bool) (tokens : List Token) :
    lacking after (tokens ++ [.ending]) = lacking after tokens := by
  induction tokens generalizing after with
  | nil => cases after <;> rfl
  | cons token rest ih =>
      exact congrArg ((lacks after token).toNat + ·) (ih (endsOperand after token))

theorem balanced_ending (depth : Nat) (tokens : List Token)
    (balanced : Balanced depth (tokens ++ [.ending])) : Balanced depth tokens := by
  constructor
  · intro front begins
    exact balanced.opened front (begins.trans (List.prefix_append tokens [.ending]))
  · simpa using balanced.closed

end Rpn

theorem token_written (piece : Lexer.Piece) (formed : piece.WellFormed) (token : Token)
    (stands : piece.token? = some token) : Rpn.isWritten token = true := by
  cases piece with
  | blank c => cases stands
  | number run =>
      cases stands
      rfl
  | name letters =>
      cases stands
      rfl
  | fixed symbol =>
      cases stands
      have known : ∀ token ∈ Lexer.symbolTokens ++ Lexer.letterTokens,
          Rpn.isWritten token = true := by
        decide
      exact known token formed

theorem segments_written (text : List Char) (pieces : List Lexer.Piece)
    (cut : Lexer.Segments text pieces) :
    ∀ token ∈ pieces.filterMap Lexer.Piece.token?, Rpn.isWritten token = true := by
  intro token member
  obtain ⟨piece, inside, stands⟩ := List.mem_filterMap.mp member
  exact token_written piece (Lexer.segments_formed text pieces cut piece inside) token stands

/-- What the tokens of a text with a value are like. Their parentheses balance. As many operands
adjoin as are lacking, and the tokens are a sentence exactly if none do. -/
theorem evaluated_order (limits : Limits) (text : String) (value : Rat)
    (computed : evaluate limits text = .ok value) :
    ∃ tokens, Lexer.tokenize text = .ok (tokens ++ [.ending]) ∧ Rpn.Balanced 0 tokens ∧
      Rpn.adjoining false tokens = Rpn.lacking false tokens ∧
      (Sentence tokens ↔ Rpn.adjoining false tokens = 0) := by
  obtain ⟨pieces, tree, denotes, -⟩ := evaluate_denotes limits text value computed
  have written := segments_written _ pieces denotes.cut
  have balanced := Rpn.balanced_ending 0 _ (Rpn.converted_balanced _ _ denotes.converted)
  have full := Rpn.converted_alternation _ tree denotes.converted
  rw [Rpn.adjoining_ending, Rpn.lacking_ending] at full
  exact ⟨_, denotes.tokenized, balanced, full, Rpn.ordered_sentence _ written balanced full⟩

theorem evaluated_order_product :
    evaluate .standard "2*(3+1)" = .ok 8 ∧
      ∃ tokens, Lexer.tokenize "2*(3+1)" = .ok (tokens ++ [.ending]) ∧ Rpn.Balanced 0 tokens ∧
        Rpn.adjoining false tokens = Rpn.lacking false tokens ∧
        (Sentence tokens ↔ Rpn.adjoining false tokens = 0) := by
  have value : evaluate .standard "2*(3+1)" = .ok 8 := by decide +kernel
  exact ⟨value, evaluated_order .standard "2*(3+1)" 8 value⟩

/-- An operator behind its operands, one before them, and empty parentheses: no sentences, but the
operand that lacks stands elsewhere. -/
theorem misordered_computed :
    (evaluate .standard "2 3 +" = .ok 5 ∧
      Lexer.tokenize "2 3 +" = .ok ([.number 2, .number 3, .operator .plus] ++ [.ending]) ∧
      ¬ Sentence [.number 2, .number 3, .operator .plus]) ∧
    (evaluate .standard "* 2 3" = .ok 6 ∧
      Lexer.tokenize "* 2 3" = .ok ([.operator .times, .number 2, .number 3] ++ [.ending]) ∧
      ¬ Sentence [.operator .times, .number 2, .number 3]) ∧
    evaluate .standard "()2" = .ok 2 ∧
      Lexer.tokenize "()2" = .ok ([.opening, .closing, .number 2] ++ [.ending]) ∧
      ¬ Sentence [.opening, .closing, .number 2] := by
  refine ⟨⟨by decide +kernel, by decide +kernel, ?_⟩, ⟨by decide +kernel, by decide +kernel, ?_⟩,
    by decide +kernel, by decide +kernel, ?_⟩
  all_goals
    intro sentence
    simpa [Sentence.completes, Operator.isSign] using (Sentence.sentence_iff _).mp sentence

end RationalCalc
