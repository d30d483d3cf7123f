import RationalCalc.Pool.Buffer

/-!
A pool of free buffers. Asked for a capacity, it gives the newest free buffer that has it, and the
newest of all takes the place of the one given; without such a buffer a fresh one is made. A buffer
that comes back is emptied and kept, unless it has outgrown the ceiling or the pool is full.
-/

namespace RationalCalc

structure Pool (α : Type) where
  ceiling : Nat
  maxFree : Nat
  /-- Newest first. -/
  free : List (Buffer α)

structure Lease (α : Type) where
  buffer : Buffer α
  recycled : Bool
  pool : Pool α

namespace Pool

def empty (ceiling maxFree : Nat) : Pool α :=
  ⟨ceiling, maxFree, []⟩

/-- The newest buffer of sufficient capacity, and the others with `spare` in its place. -/
def exchange (capacity : Nat) (spare : Buffer α) :
    List (Buffer α) → Option (Buffer α × List (Buffer α))
  | [] => none
  | buffer :: rest =>
      if capacity ≤ buffer.capacity then some (buffer, spare :: rest)
      else (exchange capacity spare rest).map fun (got, others) => (got, buffer :: others)

def pick (capacity : Nat) : List (Buffer α) → Option (Buffer α × List (Buffer α))
  | [] => none
  | newest :: rest =>
      if capacity ≤ newest.capacity then some (newest, rest) else exchange capacity newest rest

/-- A buffer of at least the given capacity; `serial` is for a fresh one. -/
def acquire (pool : Pool α) (capacity serial : Nat) : Lease α :=
  match pick capacity pool.free with
  | some (buffer, free) => ⟨buffer, true, { pool with free }⟩
  | none => ⟨.fresh serial capacity, false, pool⟩

def release (pool : Pool α) (buffer : Buffer α) : Pool α :=
  if pool.ceiling < buffer.capacity then pool
  else if pool.free.length < pool.maxFree then { pool with free := buffer.emptied :: pool.free }
  else pool

theorem exchange_enough (capacity : Nat) (spare got : Buffer α) (free others : List (Buffer α))
    (found : exchange capacity spare free = some (got, others)) : capacity ≤ got.capacity := by
  induction free generalizing others with
  | nil => simp [exchange] at found
  | cons buffer rest ih =>
      simp only [exchange] at found
      split at found
      · simp only [Option.some.injEq, Prod.mk.injEq] at found
        rw [← found.1]
        assumption
      · simp only [Option.map_eq_some_iff, Prod.mk.injEq, Prod.exists] at found
        obtain ⟨_, later, next, same, _⟩ := found
        exact ih later (same ▸ next)

theorem pick_enough (capacity : Nat) (got : Buffer α) (free others : List (Buffer α))
    (found : pick capacity free = some (got, others)) : capacity ≤ got.capacity := by
  cases free with
  | nil => simp [pick] at found
  | cons newest rest =>
      simp only [pick] at found
      split at found
      · simp only [Option.some.injEq, Prod.mk.injEq] at found
        rw [← found.1]
        assumption
      · exact exchange_enough capacity newest got rest others found

theorem acquire_enough (pool : Pool α) (capacity serial : Nat) :
    capacity ≤ (pool.acquire capacity serial).buffer.capacity := by
  unfold acquire
  split
  · rename_i got others found
    exact pick_enough capacity got pool.free others found
  · exact Nat.le_refl _

end Pool

end RationalCalc
