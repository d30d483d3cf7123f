import RationalCalc.Proofs.Leasing

/-!
Who has a buffer. Any number of clients take buffers from one pool and give them back, in any
interleaving; a borrow takes a buffer when it begins and gives it back when it ends. The serial number
tells buffers apart. Each of them is with one client, or waits in the free list once, or was dropped,
and only the one that is asked for or given back changes its place.
-/

namespace RationalCalc

/-! One pool -/

namespace Pool

/-- No buffer is in two places, out or free, and the next number is nobody's. -/
structure Tracked (made : Nat) (out : List Nat) (pool : Pool α) : Prop where
  once : (out ++ pool.free.map (·.serial)).Nodup
  older : ∀ serial ∈ out ++ pool.free.map (·.serial), serial < made

variable {made : Nat} {out out' : List Nat} {pool pool' : Pool α}

theorem empty_tracked (ceiling maxFree made : Nat) :
    (empty ceiling maxFree : Pool α).Tracked made [] :=
  ⟨List.nodup_nil, nofun⟩

theorem Tracked.moved (tracked : pool.Tracked made out) (gone : List Nat)
    (left : (gone ++ (out' ++ pool'.free.map (·.serial))).Perm
      (out ++ pool.free.map (·.serial))) : pool'.Tracked made out' where
  once := (left.nodup_iff.mpr tracked.once).sublist (List.sublist_append_right gone _)
  older serial member := tracked.older serial (left.subset (List.mem_append_right gone member))

theorem Tracked.perm (tracked : pool.Tracked made out) (same : out'.Perm out) :
    pool.Tracked made out' :=
  tracked.moved [] (same.append_right _)

theorem Tracked.later {after : Nat} (tracked : pool.Tracked made out) (le : made ≤ after) :
    pool.Tracked after out :=
  ⟨tracked.once, fun serial member => Nat.lt_of_lt_of_le (tracked.older serial member) le⟩

theorem Tracked.fresh (tracked : pool.Tracked made out) :
    pool.Tracked (made + 1) (made :: out) where
  once := List.nodup_cons.mpr ⟨fun member => Nat.lt_irrefl _ (tracked.older _ member), tracked.once⟩
  older serial member := by
    rcases List.mem_cons.mp member with rfl | old
    · exact Nat.lt_succ_self _
    · exact Nat.lt_succ_of_lt (tracked.older serial old)

theorem acquire_tracked (capacity : Nat) (tracked : pool.Tracked made out) :
    let lease := pool.acquire capacity made
    lease.pool.Tracked (if lease.recycled then made else made + 1) (lease.buffer.serial :: out) := by
  intro lease
  rcases acquire_cases pool capacity made with ⟨buffer, free, served, same, -⟩ | ⟨served, -⟩
  · simp only [lease, served]
    exact tracked.moved [] (List.perm_middle.symm.trans ((same.map Buffer.serial).append_left out))
  · simp only [lease, served]
    exact tracked.fresh

theorem release_tracked (buffer : Buffer α) (tracked : pool.Tracked made (buffer.serial :: out)) :
    (pool.release buffer).Tracked made out := by
  rcases release_cases pool buffer with ⟨-, dropped⟩ | ⟨-, kept⟩
  · rw [dropped]
    exact tracked.moved [buffer.serial] (.refl _)
  · rw [kept]
    exact tracked.moved [] List.perm_middle

end Pool

namespace Bench

def serials (bench : Bench α) : List Nat :=
  bench.held.map (·.buffer.serial) ++ bench.pool.free.map (·.serial)

def Accounted (bench : Bench α) : Prop :=
  bench.pool.Tracked bench.made (bench.held.map (·.buffer.serial))

/-! One step -/

theorem find_held (bench : Bench α) (client serial : Nat) (buffer : Buffer α)
    (found : bench.find? client serial = some buffer) :
    buffer.serial = serial ∧ (⟨client, buffer⟩ :: bench.without client serial).Perm bench.held := by
  obtain ⟨holding, first, rfl⟩ := Option.map_eq_some_iff.mp found
  obtain ⟨own, before, after, whole, others⟩ := List.find?_eq_some_iff_append.mp first
  have mine : holding.client = client ∧ holding.buffer.serial = serial := by
    simpa [isHeld] using own
  obtain ⟨rfl, rfl⟩ := mine
  refine ⟨rfl, ?_⟩
  have rest : bench.without holding.client holding.buffer.serial = before ++ after := by
    rw [without, whole, List.eraseP_append_right _ fun other member => by simpa using others other member,
      List.eraseP_cons_of_pos own]
  rw [rest, whole]
  exact List.perm_middle.symm

theorem find_numbers (bench : Bench α) (client serial : Nat) (buffer : Buffer α)
    (found : bench.find? client serial = some buffer) :
    (buffer.serial :: (bench.without client serial).map (·.buffer.serial)).Perm
      (bench.held.map (·.buffer.serial)) :=
  (find_held bench client serial buffer found).2.map fun holding : Holding α => holding.buffer.serial

theorem step_accounted (bench : Bench α) (step : Step α) (accounted : bench.Accounted) :
    (bench.step step).Accounted := by
  cases step with
  | bring client capacity => exact Pool.Tracked.fresh accounted
  | acquire client capacity => exact Pool.acquire_tracked capacity accounted
  | push client serial item =>
      simp only [Bench.step, push]
      split
      · exact accounted
      · rename_i buffer found
        exact Pool.Tracked.perm accounted (find_numbers bench client serial buffer found)
  | release client serial =>
      simp only [Bench.step, release]
      split
      · exact accounted
      · rename_i buffer found
        exact Pool.release_tracked buffer
          (Pool.Tracked.perm accounted (find_numbers bench client serial buffer found))

theorem run_accounted (bench : Bench α) (steps : List (Step α)) (accounted : bench.Accounted) :
    (bench.run steps).Accounted := by
  induction steps generalizing bench with
  | nil => exact accounted
  | cons step rest ih => exact ih (bench.step step) (step_accounted bench step accounted)

/-! Changing hands -/

/-- A client took a buffer: a free one, which alone left the free list, or one that was nowhere. -/
structure Taken (client : Nat) (buffer : Buffer α) (before after : Bench α) : Prop where
  held : after.held = ⟨client, buffer⟩ :: before.held
  source : buffer ∈ before.pool.free ∨ buffer.serial ∉ before.serials
  others : ∀ other, other ∈ after.pool.free ↔
    other ∈ before.pool.free ∧ other.serial ≠ buffer.serial

/-- A client gave back what it held. Nothing else changed in the free list, and what was given back
is nowhere any more exactly if it was above the ceiling or the list had no room. -/
structure GivenBack (holding : Holding α) (before after : Bench α) : Prop where
  held : (holding :: after.held).Perm before.held
  free : after.pool.free = before.pool.free ∨
    after.pool.free = holding.buffer.emptied :: before.pool.free
  dropped : holding.buffer.serial ∉ after.serials ↔
    before.pool.ceiling < holding.buffer.capacity ∨ before.pool.free.length = before.pool.maxFree

theorem free_serial (bench : Bench α) (buffer : Buffer α) (free : buffer ∈ bench.pool.free) :
    buffer.serial ∈ bench.serials :=
  List.mem_append_right _ (List.mem_map_of_mem free)

theorem acquire_taken (bench : Bench α) (client capacity : Nat) (accounted : bench.Accounted) :
    ∃ buffer, Taken client buffer bench (bench.step (.acquire client capacity)) := by
  simp only [step, acquire]
  rcases Pool.acquire_cases bench.pool capacity bench.made with
    ⟨buffer, free, served, same, -⟩ | ⟨served, -⟩
  · rw [served]
    refine ⟨buffer, rfl, .inl (same.subset (List.mem_cons_self ..)), fun other => ?_⟩
    have listed := (List.nodup_append.mp accounted.once).2.1
    have apart := (List.nodup_cons.mp ((same.map (·.serial)).nodup_iff.mpr listed)).1
    constructor
    · intro member
      refine ⟨same.subset (List.mem_cons_of_mem buffer member), fun equal => apart ?_⟩
      exact List.mem_map.mpr ⟨other, member, equal⟩
    · rintro ⟨member, differ⟩
      rcases List.mem_cons.mp (same.symm.subset member) with rfl | stays
      · exact absurd rfl differ
      · exact stays
  · rw [served]
    have unused : bench.made ∉ bench.serials :=
      fun member => Nat.lt_irrefl _ (accounted.older _ member)
    refine ⟨_, rfl, .inr unused, fun other => ⟨fun member => ⟨member, ?_⟩, And.left⟩⟩
    intro (equal : other.serial = bench.made)
    exact unused (equal ▸ free_serial bench other member)

theorem find_holding (bench : Bench α) (holding : Holding α) (accounted : bench.Accounted)
    (member : holding ∈ bench.held) :
    bench.find? holding.client holding.buffer.serial = some holding.buffer := by
  have listed := (List.nodup_append.mp accounted.once).1
  cases found : bench.find? holding.client holding.buffer.serial with
  | none =>
      have missed := List.find?_eq_none.mp (Option.map_eq_none_iff.mp found) holding member
      simp [isHeld] at missed
  | some buffer =>
      obtain ⟨serial, same⟩ := find_held bench _ _ buffer found
      have apart := (List.nodup_cons.mp
        ((find_numbers bench _ _ buffer found).nodup_iff.mpr listed)).1
      -- a second holding of the same number would be in the rest
      rcases List.mem_cons.mp (same.symm.subset member) with only | second
      · rw [only]
      · exact absurd (List.mem_map.mpr ⟨holding, second, serial.symm⟩) apart

theorem release_givenBack (bench : Bench α) (holding : Holding α) (accounted : bench.Accounted)
    (few : bench.pool.free.length ≤ bench.pool.maxFree) (member : holding ∈ bench.held) :
    GivenBack holding bench (bench.step (.release holding.client holding.buffer.serial)) := by
  have found := find_holding bench holding accounted member
  obtain ⟨-, same⟩ := find_held bench _ _ _ found
  simp only [step, release, found]
  rcases Pool.release_cases bench.pool holding.buffer with ⟨full, dropped⟩ | ⟨⟨low, room⟩, kept⟩
  · rw [dropped]
    refine ⟨same, .inl rfl, iff_of_true ?_ (full.imp_right (Nat.le_antisymm few))⟩
    exact (List.nodup_cons.mp (accounted.perm (find_numbers bench _ _ _ found)).once).1
  · rw [kept]
    refine ⟨same, .inr rfl, iff_of_false (not_not_intro ?_) (by omega)⟩
    exact List.mem_append_right _ (List.mem_cons_self ..)

/-- Whatever the clients of a pool have done, no buffer is in two places, be it with two clients, with
one and in the free list, or in the list twice. Whoever takes a buffer takes that one from the list
and no other, and whoever gives one back adds to the list that one or nothing. -/
theorem run_custody (ceiling maxFree : Nat) (steps : List (Step α)) :
    let bench := (start (.empty ceiling maxFree)).run steps
    (bench.serials.Nodup ∧ bench.pool.ceiling = ceiling ∧ bench.pool.maxFree = maxFree) ∧
    (∀ client capacity, ∃ buffer,
      Taken client buffer bench (bench.step (.acquire client capacity))) ∧
    ∀ holding ∈ bench.held,
      GivenBack holding bench (bench.step (.release holding.client holding.buffer.serial)) := by
  intro bench
  have accounted : bench.Accounted := run_accounted _ steps (Pool.empty_tracked ceiling maxFree 0)
  have stocked : bench.pool.Stocked ceiling maxFree := run_stocked _ steps Pool.empty_stocked
  refine ⟨⟨accounted.once, stocked.bounds⟩, ?_, ?_⟩
  · intro client capacity
    exact acquire_taken bench client capacity accounted
  · intro holding member
    have few : bench.pool.free.length ≤ bench.pool.maxFree := stocked.bounds.2 ▸ stocked.few
    exact release_givenBack bench holding accounted few member

theorem run_custody_exchange :
    let bench : Bench Nat := (start (.empty 256 1)).run
      [.acquire 0 8, .acquire 1 16, .push 1 1 7, .release 0 0, .acquire 2 4]
    (bench.serials = [0, 1] ∧ bench.serials.Nodup) ∧
    (∃ buffer, Taken 0 buffer bench (bench.step (.acquire 0 32))) ∧
    (⟨1, ⟨1, 16, [7]⟩⟩ : Holding Nat) ∈ bench.held ∧
    GivenBack ⟨1, ⟨1, 16, [7]⟩⟩ bench (bench.step (.release 1 1)) := by
  intro bench
  obtain ⟨⟨once, -⟩, taken, given⟩ := run_custody 256 1
    [.acquire 0 8, .acquire 1 16, .push 1 1 7, .release 0 0, .acquire 2 4]
  have member : (⟨1, ⟨1, 16, [7]⟩⟩ : Holding Nat) ∈ bench.held :=
    List.mem_cons_of_mem _ (List.mem_cons_self ..)
  exact ⟨⟨rfl, once⟩, taken 0 32, member, given _ member⟩

end Bench

end RationalCalc
