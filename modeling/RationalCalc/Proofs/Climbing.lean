import RationalCalc.Proofs.Expression
import RationalCalc.Proofs.Sentence

/-!
Precedence climbing: the tree that an infix sentence stands for. An operand is read, then every
operator that binds tightly enough takes it as its left operand. The right operand of an operator
holds only operators that bind tighter, or as tightly if the operator groups to the right. A sign
reads an operand of its own, whatever the operator before it asked for.
-/

namespace RationalCalc.Climbing

/-- How tightly an operator binds, from one to five; three is left to the sign. -/
def binding : Operator → Nat
  | .plus => 1
  | .minus => 1
  | .times => 2
  | .divide => 2
  | .floorDivide => 2
  | .remainder => 2
  | .power _ => 4
  | .arrange _ => 5
  | .choose _ => 5

def signBinding : Nat := 3
def bangBinding : Nat := 5

def rightLeast : Operator → Nat
  | .power mark => binding (.power mark)
  | op => binding op + 1

/-- Whether a token takes what stands before it as an operand, where only bindings from `least` on
count. -/
def joins (least : Nat) : Token → Bool
  | .operator op => least ≤ binding op
  | .bang => least ≤ bangBinding
  | _ => false

abbrev Reading := Option (Expression × List Token)

/-- A sign in front of an operand stands for the operator between zero and that operand. -/
def signed (op : Operator) : Expression × List Token → Expression × List Token
  | (operand, rest) => (.binary op (.number 0) operand, rest)

def operand (climb : Nat → List Token → Reading) : List Token → Reading
  | .number value :: rest => some (.number value, rest)
  | .name text :: rest => some (.name text, rest)
  | .operator .plus :: rest => (climb (signBinding + 1) rest).map (signed .plus)
  | .operator .minus :: rest => (climb (signBinding + 1) rest).map (signed .minus)
  | .opening :: rest =>
      match climb 0 rest with
      | some (inner, .closing :: rest) => some (inner, rest)
      | _ => none
  | _ => none

mutual

/-- An operand with the operators behind it that bind at least as tightly as `least`. Every call
has read a token before the next one, so that their number bounds the depth. -/
def climb : Nat → Nat → List Token → Reading
  | 0, _, _ => none
  | bound + 1, least, tokens =>
      match operand (climb bound) tokens with
      | some (left, rest) => extend bound least left rest
      | none => none

def extend : Nat → Nat → Expression → List Token → Reading
  | 0, _, _, _ => none
  | bound + 1, least, left, tokens =>
      match tokens with
      | .bang :: rest =>
          if joins least .bang then extend bound least (.bang left) rest else some (left, tokens)
      | .operator op :: rest =>
          if joins least (.operator op) then
            match climb bound (rightLeast op) rest with
            | some (right, rest) => extend bound least (.binary op left right) rest
            | none => none
          else some (left, tokens)
      | _ => some (left, tokens)

end

def parse (tokens : List Token) : Option Expression :=
  match climb (tokens.length + 1) 0 tokens with
  | some (tree, []) => some tree
  | _ => none

def stops (least : Nat) (tokens : List Token) : Prop :=
  ∀ token ∈ tokens.head?, joins least token = false

theorem stops_nil (least : Nat) : stops least [] := by
  simp [stops]

theorem stops_cons (least : Nat) (first : Token) (rest : List Token) :
    stops least (first :: rest) ↔ joins least first = false := by
  simp [stops]

theorem extend_stops (bound least : Nat) (left tree : Expression) (tokens rest : List Token)
    (read : extend bound least left tokens = some (tree, rest)) : stops least rest := by
  induction bound generalizing left tokens with
  | zero => simp [extend] at read
  | succ bound ih =>
      cases tokens with
      | nil =>
          cases read
          exact stops_nil least
      | cons first more =>
          cases first with
          | bang =>
              simp only [extend] at read
              split at read
              · exact ih _ _ read
              · cases read
                exact (stops_cons least .bang more).mpr (Bool.eq_false_iff.mpr ‹_›)
          | operator op =>
              simp only [extend] at read
              split at read
              · split at read
                · exact ih _ _ read
                · cases read
              · cases read
                exact (stops_cons least (.operator op) more).mpr (Bool.eq_false_iff.mpr ‹_›)
          | _ =>
              cases read
              exact (stops_cons least _ more).mpr rfl

theorem climb_stops (bound least : Nat) (tree : Expression) (tokens rest : List Token)
    (read : climb bound least tokens = some (tree, rest)) : stops least rest := by
  cases bound with
  | zero => simp [climb] at read
  | succ bound =>
      simp only [climb] at read
      split at read
      · exact extend_stops bound least _ tree _ rest read
      · cases read

/-! A sentence is read to its end -/

open Sentence (completes)

theorem stopped_at_end (tokens : List Token) (follows : completes true 0 tokens)
    (stopped : stops 0 tokens) : tokens = [] := by
  cases tokens with
  | nil => rfl
  | cons first rest =>
      have unjoined := (stops_cons 0 first rest).mp stopped
      cases first <;> simp [completes, joins] at follows unjoined

theorem stopped_at_closing (depth : Nat) (tokens : List Token)
    (follows : completes true (depth + 1) tokens) (stopped : stops 0 tokens) :
    ∃ rest, tokens = .closing :: rest ∧ completes true depth rest := by
  cases tokens with
  | nil => simp [completes] at follows
  | cons first rest =>
      have unjoined := (stops_cons 0 first rest).mp stopped
      cases first with
      | closing => exact ⟨rest, rfl, by simpa [completes] using follows⟩
      | _ => simp [completes, joins] at follows unjoined

/-- What a reader of expressions does on tokens that complete a sentence: it gets past a tree, and
what is left completes the sentence behind an operand. -/
def Reads (read : List Token → Reading) (tokens : List Token) : Prop :=
  ∀ depth, completes false depth tokens → ∃ tree rest,
    read tokens = some (tree, rest) ∧ completes true depth rest ∧ rest.length < tokens.length

theorem operand_reads (climb : Nat → List Token → Reading) (tokens : List Token)
    (shorter : ∀ least (more : List Token), more.length < tokens.length → Reads (climb least) more)
    (stopping : ∀ least more tree rest, climb least more = some (tree, rest) → stops least rest) :
    Reads (operand climb) tokens := by
  intro depth awaits
  cases tokens with
  | nil => simp [completes] at awaits
  | cons first more =>
      cases first with
      | number value => exact ⟨.number value, more, rfl, awaits, Nat.lt_succ_self _⟩
      | name text => exact ⟨.name text, more, rfl, awaits, Nat.lt_succ_self _⟩
      | operator op =>
          obtain ⟨mark, awaits⟩ := awaits
          obtain ⟨tree, rest, read, follows, short⟩ :=
            shorter (signBinding + 1) more (Nat.lt_succ_self _) depth awaits
          refine ⟨.binary op (.number 0) tree, rest, ?_, follows, Nat.lt_succ_of_lt short⟩
          rcases mark with rfl | rfl <;> simp [operand, read, signed]
      | opening =>
          -- the inner sentence stops where nothing joins, which can only be its parenthesis
          obtain ⟨tree, behind, read, follows, short⟩ :=
            shorter 0 more (Nat.lt_succ_self _) (depth + 1) awaits
          obtain ⟨rest, rfl, follows⟩ :=
            stopped_at_closing depth behind follows (stopping 0 more tree behind read)
          refine ⟨tree, rest, by simp [operand, read], follows, ?_⟩
          simp only [List.length_cons] at short ⊢
          omega
      | _ => simp [completes] at awaits

theorem climb_reads (bound : Nat) :
    (∀ least (tokens : List Token), tokens.length < bound → Reads (climb bound least) tokens) ∧
    (∀ least depth left (tokens : List Token), tokens.length < bound →
      completes true depth tokens → ∃ tree rest, extend bound least left tokens = some (tree, rest) ∧
        completes true depth rest ∧ rest.length ≤ tokens.length) := by
  -- both at once, because they call each other, and each call has one less to spend
  induction bound with
  | zero => simp
  | succ bound ih =>
      obtain ⟨climbs, extends_⟩ := ih
      constructor
      · intro least tokens room depth awaits
        obtain ⟨left, behind, first, follows, short⟩ :=
          operand_reads (climb bound) tokens (fun least more fewer => climbs least more (by omega))
            (fun least more tree rest => climb_stops bound least tree more rest) depth awaits
        obtain ⟨tree, rest, read, follows, fewer⟩ :=
          extends_ least depth left behind (by omega) follows
        exact ⟨tree, rest, by simp [climb, first, read], follows, by omega⟩
      · intro least depth left tokens room follows
        cases tokens with
        | nil => exact ⟨left, [], rfl, follows, Nat.le_refl _⟩
        | cons first more =>
            have fewer : more.length < bound := by simpa using room
            by_cases joined : joins least first = true
            · cases first with
              | bang =>
                  obtain ⟨tree, rest, read, follows, short⟩ :=
                    extends_ least depth (.bang left) more fewer follows
                  exact ⟨tree, rest, by simp [extend, joined, read], follows, Nat.le_succ_of_le short⟩
              | operator op =>
                  obtain ⟨right, behind, second, follows, short⟩ :=
                    climbs (rightLeast op) more fewer depth follows
                  obtain ⟨tree, rest, read, follows, shorter⟩ :=
                    extends_ least depth (.binary op left right) behind (by omega) follows
                  refine ⟨tree, rest, by simp [extend, joined, second, read], follows, ?_⟩
                  simp only [List.length_cons]
                  omega
              | _ => simp [joins] at joined
            · refine ⟨left, first :: more, ?_, follows, Nat.le_refl _⟩
              cases first <;> simp_all [extend]

theorem parse_sentence (tokens : List Token) (sentence : Sentence tokens) :
    ∃ tree, parse tokens = some tree ∧
      climb (tokens.length + 1) 0 tokens = some (tree, []) := by
  have awaits : completes false 0 (tokens ++ []) :=
    Sentence.completes_sentence sentence 0 [] (by simp [completes])
  rw [List.append_nil] at awaits
  obtain ⟨tree, rest, read, follows, -⟩ :=
    (climb_reads (tokens.length + 1)).1 0 tokens (Nat.lt_succ_self _) 0 awaits
  have done := stopped_at_end rest follows (climb_stops _ 0 tree tokens rest read)
  subst done
  exact ⟨tree, by simp [parse, read], read⟩

end RationalCalc.Climbing
