import RationalCalc.Pool.Bench
import RationalCalc.Proofs.Pooling

/-!
A pool under any use. Clients acquire buffers, fill them beyond the room they asked for, bring some
from elsewhere, and give them back in any order, or never; a borrow is an acquisition whose buffer is
given back at the end of a scope. Through all of this the free list keeps its bounds and its buffers
stay empty, so that every acquisition is served with an empty buffer of sufficient capacity.
-/

namespace RationalCalc

namespace Pool

theorem exchange_none (capacity : Nat) (spare : Buffer α) (free : List (Buffer α))
    (missing : exchange capacity spare free = none) :
    ∀ buffer ∈ free, buffer.capacity < capacity := by
  induction free with
  | nil => simp
  | cons first rest ih =>
      by_cases enough : capacity ≤ first.capacity
      · simp [exchange, enough] at missing
      · simp only [exchange, enough, ↓reduceIte, Option.map_eq_none_iff] at missing
        exact List.forall_mem_cons.mpr ⟨Nat.lt_of_not_le enough, ih missing⟩

theorem pick_none (capacity : Nat) (free : List (Buffer α)) (missing : pick capacity free = none) :
    ∀ buffer ∈ free, buffer.capacity < capacity := by
  cases free with
  | nil => simp
  | cons newest rest =>
      by_cases enough : capacity ≤ newest.capacity
      · simp [pick, enough] at missing
      · simp only [pick, enough, ↓reduceIte] at missing
        exact List.forall_mem_cons.mpr
          ⟨Nat.lt_of_not_le enough, exchange_none capacity newest rest missing⟩

/-- A request is served from the free list, which the buffer leaves, or, if none of the free buffers
has the capacity, with a fresh one. -/
theorem acquire_cases (pool : Pool α) (capacity serial : Nat) :
    (∃ buffer free, pool.acquire capacity serial = ⟨buffer, true, { pool with free }⟩ ∧
      (buffer :: free).Perm pool.free ∧ capacity ≤ buffer.capacity) ∨
    pool.acquire capacity serial = ⟨.fresh serial capacity, false, pool⟩ ∧
      ∀ buffer ∈ pool.free, buffer.capacity < capacity := by
  unfold acquire
  cases found : pick capacity pool.free with
  | none => exact .inr ⟨rfl, pick_none capacity pool.free found⟩
  | some served =>
      obtain ⟨buffer, free⟩ := served
      exact .inl ⟨buffer, free, rfl, pick_perm capacity buffer pool.free free found,
        pick_enough capacity buffer pool.free free found⟩

theorem release_cases (pool : Pool α) (buffer : Buffer α) :
    (pool.ceiling < buffer.capacity ∨ pool.maxFree ≤ pool.free.length) ∧
      pool.release buffer = pool ∨
    (buffer.capacity ≤ pool.ceiling ∧ pool.free.length < pool.maxFree) ∧
      pool.release buffer = { pool with free := buffer.emptied :: pool.free } := by
  unfold release
  split
  · exact .inl ⟨.inl ‹_›, rfl⟩
  · -- below the ceiling, it is a matter of room in the list
    split
    · exact .inr ⟨⟨Nat.le_of_not_lt ‹_›, ‹_›⟩, rfl⟩
    · exact .inl ⟨.inr (Nat.le_of_not_lt ‹_›), rfl⟩

structure Stocked (ceiling maxFree : Nat) (pool : Pool α) : Prop where
  bounds : pool.ceiling = ceiling ∧ pool.maxFree = maxFree
  few : pool.free.length ≤ maxFree
  spare : ∀ buffer ∈ pool.free, buffer.items = [] ∧ buffer.capacity ≤ ceiling

variable {ceiling maxFree : Nat}

theorem empty_stocked : (empty ceiling maxFree : Pool α).Stocked ceiling maxFree :=
  ⟨⟨rfl, rfl⟩, Nat.zero_le maxFree, by simp [empty]⟩

theorem acquire_stocked (pool : Pool α) (capacity serial : Nat)
    (stocked : pool.Stocked ceiling maxFree) :
    (pool.acquire capacity serial).pool.Stocked ceiling maxFree := by
  rcases acquire_cases pool capacity serial with ⟨buffer, free, served, same, -⟩ | ⟨served, -⟩
  · rw [served]
    have fewer : free.length < pool.free.length := same.length_eq ▸ Nat.lt_succ_self free.length
    refine ⟨stocked.bounds, Nat.le_of_lt (Nat.lt_of_lt_of_le fewer stocked.few), ?_⟩
    intro other member
    exact stocked.spare other (same.subset (List.mem_cons_of_mem buffer member))
  · rw [served]
    exact stocked

theorem release_stocked (pool : Pool α) (buffer : Buffer α)
    (stocked : pool.Stocked ceiling maxFree) :
    (pool.release buffer).Stocked ceiling maxFree := by
  obtain ⟨rfl, rfl⟩ := stocked.bounds
  rcases release_cases pool buffer with ⟨-, same⟩ | ⟨⟨low, room⟩, kept⟩
  · rw [same]
    exact stocked
  · rw [kept]
    exact ⟨⟨rfl, rfl⟩, room, List.forall_mem_cons.mpr ⟨⟨rfl, low⟩, stocked.spare⟩⟩

end Pool

namespace Bench

variable {ceiling maxFree : Nat}

theorem step_stocked (bench : Bench α) (step : Step α)
    (stocked : bench.pool.Stocked ceiling maxFree) :
    (bench.step step).pool.Stocked ceiling maxFree := by
  cases step with
  | bring client capacity => exact stocked
  | acquire client capacity => exact Pool.acquire_stocked bench.pool capacity bench.made stocked
  | push client serial item =>
      simp only [Bench.step, push]
      split <;> exact stocked
  | release client serial =>
      simp only [Bench.step, release]
      split
      · exact stocked
      · exact Pool.release_stocked bench.pool _ stocked

theorem run_stocked (bench : Bench α) (steps : List (Step α))
    (stocked : bench.pool.Stocked ceiling maxFree) :
    (bench.run steps).pool.Stocked ceiling maxFree := by
  induction steps generalizing bench with
  | nil => exact stocked
  | cons step rest ih => exact ih (bench.step step) (step_stocked bench step stocked)

/-- A client was served with an empty buffer that has the room it asked for: with one that left the
free list, or with a fresh one because no free buffer has the room. -/
structure Served (client capacity : Nat) (buffer : Buffer α) (before after : Bench α) : Prop where
  held : after.held = ⟨client, buffer⟩ :: before.held
  empty : buffer.items = []
  room : capacity ≤ buffer.capacity
  source : after.made = before.made ∧ (buffer :: after.pool.free).Perm before.pool.free ∨
    after.made = before.made + 1 ∧ after.pool = before.pool ∧
      buffer = .fresh before.made capacity ∧ ∀ free ∈ before.pool.free, free.capacity < capacity

theorem acquire_served (bench : Bench α) (client capacity : Nat)
    (stocked : bench.pool.Stocked ceiling maxFree) :
    ∃ buffer, Served client capacity buffer bench (bench.step (.acquire client capacity)) := by
  simp only [step, acquire]
  rcases Pool.acquire_cases bench.pool capacity bench.made with
    ⟨buffer, free, served, same, room⟩ | ⟨served, small⟩
  · rw [served]
    have spare := stocked.spare buffer (same.subset (List.mem_cons_self ..))
    exact ⟨buffer, rfl, spare.1, room, .inl ⟨rfl, same⟩⟩
  · rw [served]
    exact ⟨_, rfl, rfl, Nat.le_refl capacity, .inr ⟨rfl, rfl, rfl, small⟩⟩

/-- A pool and its clients, who may hold `foreign` buffers from the start, of any capacity and with
anything in them. Whatever they have done, the free buffers are empty and within the bounds, and
whoever acquires next is served. -/
theorem run_leases (ceiling maxFree made : Nat) (foreign : List (Holding α)) (steps : List (Step α)) :
    let bench := Bench.run ⟨.empty ceiling maxFree, foreign, made⟩ steps
    bench.pool.free.length ≤ maxFree ∧
    (∀ buffer ∈ bench.pool.free, buffer.items = [] ∧ buffer.capacity ≤ ceiling) ∧
    ∀ client capacity, ∃ buffer,
      Served client capacity buffer bench (bench.step (.acquire client capacity)) := by
  intro bench
  have stocked : bench.pool.Stocked ceiling maxFree :=
    run_stocked ⟨.empty ceiling maxFree, foreign, made⟩ steps Pool.empty_stocked
  exact ⟨stocked.few, stocked.spare, fun client capacity =>
    acquire_served bench client capacity stocked⟩

end Bench

end RationalCalc
