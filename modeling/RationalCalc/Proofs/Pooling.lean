import RationalCalc.Pool.Basic

/-!
What a pool keeps. Lending takes one buffer out of the free list and leaves the others, in an order
that nobody relies on; taking back empties what it keeps. So the free buffers of a pool that was ever
only lent from and given back to are empty.
-/

namespace RationalCalc.Pool

theorem exchange_perm (capacity : Nat) (spare got : Buffer α) (free others : List (Buffer α))
    (found : exchange capacity spare free = some (got, others)) :
    (got :: others).Perm (spare :: free) := by
  induction free generalizing others with
  | nil => cases found
  | cons buffer rest ih =>
      simp only [exchange] at found
      split at found
      · cases found
        exact .swap spare got rest
      · simp only [Option.map_eq_some_iff, Prod.mk.injEq, Prod.exists] at found
        obtain ⟨_, later, next, rfl, rfl⟩ := found
        calc
          (_ :: buffer :: later).Perm (buffer :: _ :: later) := .swap ..
          List.Perm _ (buffer :: spare :: rest) := .cons buffer (ih later next)
          List.Perm _ (spare :: buffer :: rest) := .swap ..

theorem pick_perm (capacity : Nat) (got : Buffer α) (free others : List (Buffer α))
    (found : pick capacity free = some (got, others)) : (got :: others).Perm free := by
  cases free with
  | nil => cases found
  | cons newest rest =>
      simp only [pick] at found
      split at found
      · cases found
        exact .refl _
      · exact exchange_perm capacity newest got rest others found

def Clean (pool : Pool α) : Prop :=
  ∀ buffer ∈ pool.free, buffer.items = []

theorem empty_clean (ceiling maxFree : Nat) : (empty ceiling maxFree : Pool α).Clean := by
  intro buffer member
  cases member

theorem acquire_clean (pool : Pool α) (capacity serial : Nat) (clean : pool.Clean) :
    (pool.acquire capacity serial).buffer.items = [] ∧
      (pool.acquire capacity serial).pool.Clean := by
  unfold acquire
  split
  · rename_i got others found
    have same := pick_perm capacity got pool.free others found
    constructor
    · exact clean got (same.subset (List.mem_cons_self ..))
    · intro buffer member
      exact clean buffer (same.subset (List.mem_cons_of_mem got member))
  · exact ⟨rfl, clean⟩

theorem release_clean (pool : Pool α) (buffer : Buffer α) (clean : pool.Clean) :
    (pool.release buffer).Clean := by
  unfold release
  split
  · exact clean
  · split
    · intro other member
      rcases List.mem_cons.mp member with rfl | old
      · rfl
      · exact clean other old
    · exact clean

end RationalCalc.Pool
