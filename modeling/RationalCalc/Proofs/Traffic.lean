import Mathlib.Logic.Relation
import RationalCalc.Proofs.Borrowing

/-!
Calls that share an evaluator. They follow one another, or several threads call at once and take turns
at the pools: either way a turn takes a buffer out of a pool, or puts one that is out back into its
own. Whatever the turns, the buffers that are out and the free ones all differ, so that a call borrows
and gives back what it would on its own, whoever else is under way.
-/

namespace RationalCalc.Evaluator

open Relation

def least : Shelf → Nat
  | .tokens => 0
  | .rpn => 0
  | .values => Work.stackCapacity

inductive Place.Own : {α : Type} → Place α → Prop
  | tokens : Own tokenPlace
  | rpn : Own rpnPlace
  | values : Own valuePlace

theorem Place.Own.followed {place : Place α} (own : place.Own) : place.Followed := by
  cases own with
  | tokens => exact tokenPlace_followed
  | rpn => exact rpnPlace_followed
  | values => exact valuePlace_followed

/-- An evaluator, and the buffers that the calls under way have out. -/
structure Traffic where
  evaluator : Evaluator
  lent : List Loan

/-- One of the calls under way borrows a buffer, or gives back one that is out. Of the buffer that comes
back no more is known than that it is large enough for its shelf. -/
inductive Turns : Traffic → Traffic → Prop
  | borrow {α : Type} {place : Place α} (own : place.Own) (capacity : Nat)
      (asked : least place.shelf ≤ capacity) (evaluator : Evaluator) (lent : List Loan) :
      Turns ⟨evaluator, lent⟩
        ⟨(Work.borrow place capacity ⟨evaluator, []⟩).2.evaluator,
          ((place.pool evaluator).acquire capacity evaluator.made).loan place.shelf :: lent⟩
  | giveBack {α : Type} {place : Place α} (own : place.Own) (buffer : Buffer α)
      (wide : least place.shelf ≤ buffer.capacity) (loan : Loan) (shelf : loan.shelf = place.shelf)
      (same : loan.serial = buffer.serial) (evaluator : Evaluator) (lent rest : List Loan)
      (out : (loan :: rest).Perm lent) :
      Turns ⟨evaluator, lent⟩ ⟨(Work.giveBack place buffer ⟨evaluator, []⟩).2.evaluator, rest⟩

/-- The evaluators that calls lead to, one after another or several at once. -/
def Attained (limits : Limits) (evaluator : Evaluator) : Prop :=
  ∃ lent, ReflTransGen Turns ⟨new limits, []⟩ ⟨evaluator, lent⟩

/-! Whoever is under way, the pools can be followed -/

variable {limits : Limits} {lent lent' back : List Loan} {evaluator : Evaluator}

theorem new_lending (limits : Limits) : Lending limits (fun _ => 0) [] [] (new limits) :=
  ⟨rfl, Pool.empty_lending _ _ _, Pool.empty_lending _ _ _, Pool.empty_lending _ _ _⟩

theorem Lending.perm {before : Shelf → Nat} (lending : Lending limits before lent back evaluator)
    (same : lent'.Perm lent) : Lending limits before lent' back evaluator where
  own := lending.own
  tokens := Pool.Lending.perm lending.tokens (same.filter _)
  rpn := Pool.Lending.perm lending.rpn (same.filter _)
  values := Pool.Lending.perm lending.values (same.filter _)

theorem Lending.forgotten (lending : Lending limits (fun _ => 0) lent back evaluator) :
    Lending limits (fun _ => 0) lent [] evaluator where
  own := lending.own
  tokens := { lending.tokens with enough := .inr (Nat.zero_le _) }
  rpn := { lending.rpn with enough := .inr (Nat.zero_le _) }
  values := { lending.values with enough := .inr (Nat.zero_le _) }

theorem turns_lending {one two : Traffic} (turns : Turns one two)
    (lending : Lending limits (fun _ => 0) one.lent [] one.evaluator) :
    Lending limits (fun _ => 0) two.lent [] two.evaluator := by
  cases turns with
  | borrow own capacity asked evaluator lent =>
      exact (borrow_lending own.followed capacity [] lending).2
  | giveBack own buffer wide loan shelf same evaluator lent rest out =>
      exact (giveBack_lending own.followed buffer loan shelf same [] (lending.perm out)).forgotten

theorem attained_rested (attained : Attained limits evaluator) : Rested limits evaluator := by
  obtain ⟨lent, turns⟩ := attained
  have lending {traffic : Traffic} (turns : ReflTransGen Turns ⟨new limits, []⟩ traffic) :
      Lending limits (fun _ => 0) traffic.lent [] traffic.evaluator := by
    induction turns with
    | refl => exact new_lending limits
    | tail _ last ih => exact turns_lending last ih
  exact (lending turns).rested

/-! A call is a sequence of turns -/

namespace Work

def Arrives (start : Traffic) (lent : List Loan) (work : Work) : Prop :=
  ReflTransGen Turns start ⟨work.evaluator, lent⟩

variable {start : Traffic} {work : Work}

theorem note_arrives (event : Event) (arrives : Arrives start lent work) :
    Leads work (note event) fun _ after => Arrives start lent after :=
  arrives

theorem borrow_arrives {place : Place α} (own : place.Own) (capacity : Nat)
    (asked : least place.shelf ≤ capacity) (arrives : Arrives start lent work) :
    Leads work (borrow place capacity) fun buffer after => capacity ≤ buffer.capacity ∧
      ∃ loan : Loan, loan.shelf = place.shelf ∧ loan.serial = buffer.serial ∧
        Arrives start (loan :: lent) after :=
  ⟨Pool.acquire_enough .., _, rfl, rfl, arrives.tail (.borrow own capacity asked _ _)⟩

theorem giveBack_arrives {place : Place α} (own : place.Own) (buffer : Buffer α)
    (wide : least place.shelf ≤ buffer.capacity) (loan : Loan) (shelf : loan.shelf = place.shelf)
    (same : loan.serial = buffer.serial) (arrives : Arrives start (loan :: lent) work) :
    Leads work (giveBack place buffer) fun _ after => Arrives start lent after :=
  arrives.tail (.giveBack own buffer wide loan shelf same _ _ _ (.refl _))

theorem run_arrives (program : List Token) (arrives : Arrives start lent work) :
    Leads work (run limits program) fun _ after => Arrives start lent after := by
  refine leads_bind (borrow_arrives .values stackCapacity (Nat.le_refl _) arrives) ?_
  rintro stack opened ⟨enough, loan, shelf, same, arrives⟩
  have wide (most : Nat) (items : List Rat) :
      least valuePlace.shelf ≤ (stack.leaving most items).capacity :=
    Nat.le_trans enough (Buffer.capacity_le_grown ..)
  dsimp only
  cases (Rpn.runFrom limits stack.items program).outcome with
  | error stop => exact giveBack_arrives .values _ (wide ..) loan shelf same arrives
  | ok value => exact giveBack_arrives .values _ (wide ..) loan shelf same arrives

theorem convert_arrives (tokens : List Token) (arrives : Arrives start lent work) :
    Leads work (convert limits tokens) fun _ after => Arrives start lent after := by
  refine leads_bind (borrow_arrives .rpn tokens.length (Nat.zero_le _) arrives) ?_
  rintro output _ ⟨-, first, firstShelf, firstSame, arrives⟩
  refine leads_bind (borrow_arrives .rpn stackCapacity (Nat.zero_le _) arrives) ?_
  rintro pending _ ⟨-, second, secondShelf, secondSame, arrives⟩
  -- the second buffer goes back, and then the first, whatever they hold
  have returned {work : Work} (above below : Buffer Token) (answer : Except Fault Rat)
      (aboveSame : second.serial = above.serial) (belowSame : first.serial = below.serial)
      (arrives : Arrives start (second :: first :: lent) work) :
      Leads work (do giveBack rpnPlace above; giveBack rpnPlace below; return answer)
        fun _ after => Arrives start lent after :=
    leads_bind (giveBack_arrives .rpn above (Nat.zero_le _) second secondShelf aboveSame arrives)
      fun _ _ arrives => giveBack_arrives .rpn below (Nat.zero_le _) first firstShelf belowSame arrives
  dsimp only
  cases (Rpn.convertFrom ⟨output.items, pending.items, false, false⟩ tokens).outcome with
  | error stop => exact returned _ _ _ secondSame firstSame arrives
  | ok program =>
      refine leads_bind (note_arrives _ arrives) ?_
      rintro - _ arrives
      refine leads_bind (run_arrives program.reverse arrives) ?_
      exact fun outcome _ arrives => returned _ _ outcome secondSame firstSame arrives

theorem compute_arrives (text : String) (arrives : Arrives start lent work) :
    Leads work (compute limits text) fun _ after => Arrives start lent after := by
  refine leads_bind (borrow_arrives .tokens (tokenRoom limits text) (Nat.zero_le _) arrives) ?_
  rintro buffer _ ⟨-, loan, shelf, same, arrives⟩
  dsimp only
  cases (Lexer.lex text).fault with
  | some fault => exact giveBack_arrives .tokens _ (Nat.zero_le _) loan shelf same arrives
  | none =>
      refine leads_bind (note_arrives _ arrives) ?_
      rintro - _ arrives
      refine leads_bind (convert_arrives _ arrives) ?_
      exact fun _ _ arrives => giveBack_arrives .tokens _ (Nat.zero_le _) loan shelf same arrives

end Work

theorem evaluate_attained (text : String) (attained : Attained limits evaluator) :
    Attained limits (evaluator.evaluate text).evaluator := by
  obtain ⟨lent, turns⟩ := attained
  have arrives : Work.Arrives ⟨new limits, []⟩ lent ⟨evaluator, []⟩ := turns
  exact ⟨lent, Work.compute_arrives text arrives⟩

theorem after_attained (history : List String) (attained : Attained limits evaluator) :
    Attained limits (evaluator.after history) := by
  induction history generalizing evaluator with
  | nil => exact attained
  | cons text history ih => exact ih (evaluate_attained text attained)

/-- In any state that calls lead to, a call borrows one buffer for tokens, two of the converter's if the
text can be cut into tokens, and one for values if those can be converted too. Whichever way it ends,
each buffer that was lent is returned, and returned once. A pool has fewer free buffers than before
only if one of them was lent and came back above the ceiling. -/
theorem evaluate_borrows (attained : Attained limits evaluator) (text : String) :
    let call := evaluator.evaluate text
    ((lentOn .tokens call.events).length = 1 ∧
      (lentOn .rpn call.events).length = 2 * (Lexer.tokenize text).isOk.toNat ∧
      (lentOn .values call.events).length = (Lexer.tokenize text >>= Rpn.ofTokens).isOk.toNat) ∧
    (∀ shelf, (lentOn shelf call.events).Nodup ∧
      (returnedOn shelf call.events).Perm (lentOn shelf call.events)) ∧
    ∀ shelf, call.evaluator.freeOn shelf < evaluator.freeOn shelf →
      ∃ serial capacity, .lent shelf serial true ∈ call.events ∧
        .returned shelf serial capacity ∈ call.events ∧ limits.poolCeiling < capacity := by
  intro call
  obtain ⟨loans, computing, told, lending⟩ := evaluate_loans text (attained_rested attained)
  have counted (shelf : Shelf) : (lentOn shelf call.events).length = (Loan.on shelf loans).length :=
    (told.begun shelf).length_eq.trans (List.length_map _)
  refine ⟨⟨?_, ?_, ?_⟩, ?_, ?_⟩
  · exact (counted .tokens).trans computing.tokens
  · exact (counted .rpn).trans computing.rpn
  · exact (counted .values).trans computing.values
  · intro shelf
    have once := (told.begun shelf).nodup_iff.mpr (computing.once shelf)
    exact ⟨once, (told.ended shelf).trans (told.begun shelf).symm⟩
  · intro shelf fewer
    obtain ⟨loan, member, rfl, recycled, large⟩ := lending.shrunk shelf fewer
    have lent := told.loans loan member
    rw [recycled] at lent
    exact ⟨loan.serial, loan.capacity, lent, told.returns loan member, large⟩

/-- Two calls at once have left two buffers for four tokens. One of them has to hold six in the next call
and is not kept again. -/
theorem evaluate_borrows_outgrown :
    let limits := { Limits.standard with poolCeiling := 4 }
    let evaluator := { new limits with tokens := ⟨4, 64, [⟨0, 4, []⟩, ⟨1, 4, []⟩]⟩, made := 2 }
    let call := evaluator.evaluate "1+1+1"
    Attained limits evaluator ∧
    (evaluator.freeOn .tokens = 2 ∧ call.evaluator.freeOn .tokens = 1) ∧
    ((lentOn .rpn call.events).length = 2 ∧
      (returnedOn .rpn call.events).Perm (lentOn .rpn call.events)) ∧
    ∃ serial capacity, .lent .tokens serial true ∈ call.events ∧
      .returned .tokens serial capacity ∈ call.events ∧ 4 < capacity := by
  intro limits evaluator call
  have attained : Attained limits evaluator := by
    let one : Traffic := ⟨{ new limits with made := 1 }, [⟨.tokens, 0, false, 4⟩]⟩
    let both : Traffic :=
      ⟨{ new limits with made := 2 }, [⟨.tokens, 1, false, 4⟩, ⟨.tokens, 0, false, 4⟩]⟩
    let other : Traffic := ⟨{ new limits with tokens := ⟨4, 64, [⟨1, 4, []⟩]⟩, made := 2 },
      [⟨.tokens, 0, false, 4⟩]⟩
    have first : Turns ⟨new limits, []⟩ one := .borrow .tokens 4 (Nat.zero_le _) _ _
    have second : Turns one both := .borrow .tokens 4 (Nat.zero_le _) one.evaluator one.lent
    have third : Turns both other := .giveBack .tokens ⟨1, 4, []⟩ (Nat.zero_le _)
      ⟨.tokens, 1, false, 4⟩ rfl rfl both.evaluator both.lent other.lent (.refl _)
    have last : Turns other ⟨evaluator, []⟩ := .giveBack .tokens ⟨0, 4, []⟩ (Nat.zero_le _)
      ⟨.tokens, 0, false, 4⟩ rfl rfl other.evaluator other.lent [] (.refl _)
    exact ⟨[], .tail (.tail (.tail (.single first) second) third) last⟩
  have two : evaluator.freeOn .tokens = 2 := rfl
  have one : call.evaluator.freeOn .tokens = 1 := by decide +kernel
  obtain ⟨⟨-, both, -⟩, settled, shrunk⟩ := evaluate_borrows attained "1+1+1"
  have cut : (Lexer.tokenize "1+1+1").isOk = true := by decide +kernel
  rw [cut] at both
  have fewer : call.evaluator.freeOn .tokens < evaluator.freeOn .tokens := by
    rw [two, one]
    exact Nat.one_lt_two
  exact ⟨attained, ⟨two, one⟩, ⟨both, (settled .rpn).2⟩, shrunk .tokens fewer⟩

end RationalCalc.Evaluator
