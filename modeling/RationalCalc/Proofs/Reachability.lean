import RationalCalc.Proofs.Traffic

/-!
The states of an evaluator, with the buffers that are out left out of account. What is put into a pool
may then be any buffer that is large enough, so these states include all that calls lead to, one after
another or in turns. In each of them the pools keep to their bounds, and the value pool holds no stack
that is smaller than the machine asks for.
-/

namespace RationalCalc

structure Pool.Supplied (ceiling maxFree least : Nat) (pool : Pool α) : Prop where
  stocked : pool.Stocked ceiling maxFree
  wide : ∀ buffer ∈ pool.free, least ≤ buffer.capacity

namespace Pool

variable {ceiling maxFree least : Nat} {pool : Pool α}

theorem empty_supplied : (empty ceiling maxFree : Pool α).Supplied ceiling maxFree least :=
  ⟨empty_stocked, nofun⟩

theorem acquire_supplied (capacity serial : Nat) (supplied : pool.Supplied ceiling maxFree least) :
    (pool.acquire capacity serial).pool.Supplied ceiling maxFree least := by
  refine ⟨acquire_stocked pool capacity serial supplied.stocked, ?_⟩
  rcases acquire_cases pool capacity serial with ⟨buffer, free, served, same, -⟩ | ⟨served, -⟩
  · rw [served]
    exact fun other member => supplied.wide other (same.subset (List.mem_cons_of_mem buffer member))
  · rw [served]
    exact supplied.wide

theorem release_supplied (buffer : Buffer α) (wide : least ≤ buffer.capacity)
    (supplied : pool.Supplied ceiling maxFree least) :
    (pool.release buffer).Supplied ceiling maxFree least := by
  refine ⟨release_stocked pool buffer supplied.stocked, ?_⟩
  rcases release_cases pool buffer with ⟨-, dropped⟩ | ⟨-, kept⟩
  · rw [dropped]
    exact supplied.wide
  · rw [kept]
    exact List.forall_mem_cons.mpr ⟨wide, supplied.wide⟩

end Pool

namespace Evaluator

open Relation

/-- What a turn does to the pools. The buffer that comes back need not be one that was out. -/
inductive Moves (evaluator : Evaluator) : Evaluator → Prop
  | borrow {α : Type} {place : Place α} (own : place.Own) (capacity : Nat)
      (asked : least place.shelf ≤ capacity) :
      Moves evaluator (Work.borrow place capacity ⟨evaluator, []⟩).2.evaluator
  | giveBack {α : Type} {place : Place α} (own : place.Own) (buffer : Buffer α)
      (wide : least place.shelf ≤ buffer.capacity) :
      Moves evaluator (Work.giveBack place buffer ⟨evaluator, []⟩).2.evaluator

/-- All the evaluators that calls lead to, one after another or several at once (`attained_reachable`). -/
def Reachable (limits : Limits) : Evaluator → Prop :=
  ReflTransGen Moves (new limits)

structure Supplied (limits : Limits) (evaluator : Evaluator) : Prop where
  own : evaluator.limits = limits
  tokens : evaluator.tokens.Supplied limits.poolCeiling limits.maxFree (least .tokens)
  rpn : evaluator.rpn.Supplied limits.poolCeiling limits.maxFree (least .rpn)
  values : evaluator.values.Supplied limits.poolCeiling limits.maxFree (least .values)

theorem Supplied.ready {limits : Limits} {evaluator : Evaluator}
    (supplied : Supplied limits evaluator) : Ready limits evaluator where
  limits := supplied.own
  tokens buffer member := (supplied.tokens.stocked.spare buffer member).1
  rpn buffer member := (supplied.rpn.stocked.spare buffer member).1
  values buffer member := (supplied.values.stocked.spare buffer member).1

theorem new_supplied (limits : Limits) : Supplied limits (new limits) :=
  ⟨rfl, Pool.empty_supplied, Pool.empty_supplied, Pool.empty_supplied⟩

theorem moves_supplied {limits : Limits} {evaluator after : Evaluator}
    (moves : Moves evaluator after) (supplied : Supplied limits evaluator) :
    Supplied limits after := by
  cases moves with
  | borrow own capacity asked =>
      cases own with
      | tokens => exact { supplied with tokens := Pool.acquire_supplied _ _ supplied.tokens }
      | rpn => exact { supplied with rpn := Pool.acquire_supplied _ _ supplied.rpn }
      | values => exact { supplied with values := Pool.acquire_supplied _ _ supplied.values }
  | giveBack own buffer wide =>
      cases own with
      | tokens => exact { supplied with tokens := Pool.release_supplied buffer wide supplied.tokens }
      | rpn => exact { supplied with rpn := Pool.release_supplied buffer wide supplied.rpn }
      | values => exact { supplied with values := Pool.release_supplied buffer wide supplied.values }

theorem reachable_supplied {limits : Limits} {evaluator : Evaluator}
    (reachable : Reachable limits evaluator) : Supplied limits evaluator := by
  induction reachable with
  | refl => exact new_supplied limits
  | tail _ moves ih => exact moves_supplied moves ih

theorem turns_moves {one two : Traffic} (turns : Turns one two) :
    Moves one.evaluator two.evaluator := by
  cases turns with
  | borrow own capacity asked => exact .borrow own capacity asked
  | giveBack own buffer wide => exact .giveBack own buffer wide

theorem attained_reachable {limits : Limits} {evaluator : Evaluator}
    (attained : Attained limits evaluator) : Reachable limits evaluator := by
  obtain ⟨lent, turns⟩ := attained
  exact turns.lift Traffic.evaluator fun _ _ => turns_moves

theorem evaluate_reachable {limits : Limits} {evaluator : Evaluator} (text : String)
    (reachable : Reachable limits evaluator) :
    Reachable limits (evaluator.evaluate text).evaluator :=
  have turns : Work.Arrives ⟨evaluator, []⟩ [] ⟨evaluator, []⟩ := .refl
  reachable.trans ((Work.compute_arrives text turns).lift Traffic.evaluator fun _ _ => turns_moves)

theorem after_reachable {limits : Limits} {evaluator : Evaluator} (history : List String)
    (reachable : Reachable limits evaluator) : Reachable limits (evaluator.after history) := by
  induction history generalizing evaluator with
  | nil => exact reachable
  | cons text history ih => exact ih (evaluate_reachable text reachable)

end Evaluator

end RationalCalc
