import RationalCalc.Proofs.Leasing

/-!
Buffers that are asked for again. What a pool has lent and kept it lends again, for it is the newest
of its free buffers and has not lost room. A pool keeps what comes back if its list has room for the
buffers that had to be made; otherwise the list was full of buffers that were too small, and the new
one is dropped. Of two buffers lent together, the second comes back first, so it is the first that is
dropped.
-/

namespace RationalCalc

/-- A buffer on its way: as it is lent, and as it comes back, with no less room. -/
structure Trip (α : Type) where
  lease : Lease α
  back : Buffer α
  same : back.serial = lease.buffer.serial
  grew : lease.buffer.capacity ≤ back.capacity

def Lease.fresh (lease : Lease α) : Nat :=
  (!lease.recycled).toNat

namespace Pool

variable {ceiling maxFree : Nat} {pool : Pool α}

theorem acquire_newest (buffer : Buffer α) (free : List (Buffer α)) (capacity serial : Nat)
    (enough : capacity ≤ buffer.capacity) :
    (⟨ceiling, maxFree, buffer :: free⟩ : Pool α).acquire capacity serial =
      ⟨buffer, true, ⟨ceiling, maxFree, free⟩⟩ := by
  simp only [acquire, pick, enough, ↓reduceIte]

theorem acquire_missing (capacity serial : Nat)
    (small : ∀ buffer ∈ pool.free, buffer.capacity < capacity) :
    pool.acquire capacity serial = ⟨.fresh serial capacity, false, pool⟩ := by
  rcases acquire_cases pool capacity serial with ⟨buffer, free, -, same, enough⟩ | ⟨served, -⟩
  · have member : buffer ∈ pool.free := same.subset (List.mem_cons_self ..)
    exact absurd enough (Nat.not_le_of_lt (small buffer member))
  · exact served

theorem acquire_recycled (capacity serial : Nat) :
    (pool.acquire capacity serial).recycled = true ↔
      ∃ buffer ∈ pool.free, capacity ≤ buffer.capacity := by
  rcases acquire_cases pool capacity serial with ⟨buffer, free, served, same, enough⟩ | ⟨served, small⟩
  · rw [served]
    exact iff_of_true rfl ⟨buffer, same.subset (List.mem_cons_self ..), enough⟩
  · rw [served]
    refine iff_of_false Bool.false_ne_true ?_
    rintro ⟨buffer, member, enough⟩
    exact Nat.not_le_of_lt (small buffer member) enough

theorem release_room (stocked : pool.Stocked ceiling maxFree) (buffer : Buffer α)
    (low : buffer.capacity ≤ ceiling) (room : pool.free.length < maxFree) :
    pool.release buffer = ⟨ceiling, maxFree, buffer.emptied :: pool.free⟩ := by
  obtain ⟨rfl, rfl⟩ := stocked.bounds
  rcases release_cases pool buffer with ⟨large | full, -⟩ | ⟨-, kept⟩
  · exact absurd low (Nat.not_le_of_lt large)
  · exact absurd room (Nat.not_lt_of_le full)
  · exact kept

theorem release_full (stocked : pool.Stocked ceiling maxFree) (buffer : Buffer α)
    (full : maxFree ≤ pool.free.length) : pool.release buffer = pool := by
  obtain ⟨rfl, rfl⟩ := stocked.bounds
  rcases release_cases pool buffer with ⟨-, dropped⟩ | ⟨⟨-, room⟩, -⟩
  · exact dropped
  · exact absurd room (Nat.not_lt_of_le full)

end Pool

namespace Trip

variable {ceiling maxFree capacity : Nat} {pool : Pool α} {trip : Trip α}

/-- The pool was asked for the capacity, and lent this buffer. -/
def From (trip : Trip α) (pool : Pool α) (capacity : Nat) : Prop :=
  ∃ serial, trip.lease = pool.acquire capacity serial

theorem From.cases (lent : trip.From pool capacity) :
    (∃ buffer free, trip.lease = ⟨buffer, true, { pool with free }⟩ ∧
      (buffer :: free).Perm pool.free ∧ capacity ≤ buffer.capacity) ∨
    (∃ serial, trip.lease = ⟨.fresh serial capacity, false, pool⟩) ∧
      ∀ buffer ∈ pool.free, buffer.capacity < capacity := by
  obtain ⟨serial, took⟩ := lent
  rw [took]
  exact (Pool.acquire_cases pool capacity serial).imp_right fun ⟨made, small⟩ => ⟨⟨serial, made⟩, small⟩

theorem From.stocked (lent : trip.From pool capacity) (stocked : pool.Stocked ceiling maxFree) :
    trip.lease.pool.Stocked ceiling maxFree := by
  obtain ⟨serial, took⟩ := lent
  exact took ▸ Pool.acquire_stocked pool capacity serial stocked

theorem From.wide (lent : trip.From pool capacity) : capacity ≤ trip.back.capacity := by
  obtain ⟨serial, took⟩ := lent
  exact Nat.le_trans (took ▸ Pool.acquire_enough pool capacity serial) trip.grew

theorem From.length (lent : trip.From pool capacity) :
    trip.lease.pool.free.length + 1 = pool.free.length + trip.lease.fresh := by
  rcases lent.cases with ⟨buffer, free, served, same, -⟩ | ⟨⟨serial, served⟩, -⟩
  · rw [served]
    exact same.length_eq
  · rw [served]
    rfl

theorem From.again (lent : trip.From pool capacity) (stocked : pool.Stocked ceiling maxFree)
    (low : trip.back.capacity ≤ ceiling) (room : pool.free.length + trip.lease.fresh ≤ maxFree)
    (later : Nat) :
    (trip.lease.pool.release trip.back).acquire capacity later =
      ⟨trip.back.emptied, true, ⟨ceiling, maxFree, trip.lease.pool.free⟩⟩ := by
  have length := lent.length
  rw [Pool.release_room (lent.stocked stocked) trip.back low (by omega)]
  exact Pool.acquire_newest trip.back.emptied _ capacity later lent.wide

theorem From.recycled_again (lent : trip.From pool capacity)
    (stocked : pool.Stocked ceiling maxFree) (low : trip.back.capacity ≤ ceiling) (later : Nat) :
    ((trip.lease.pool.release trip.back).acquire capacity later).recycled = true ↔
      pool.free.length + trip.lease.fresh ≤ maxFree := by
  constructor
  · intro recycled
    rcases lent.cases with ⟨buffer, free, served, -⟩ | ⟨⟨serial, served⟩, small⟩
    · rw [served]
      exact stocked.few
    · rw [served] at recycled ⊢
      refine Nat.not_lt.mp fun crowded => ?_
      have full : maxFree ≤ pool.free.length := Nat.le_of_lt_succ crowded
      rw [Pool.release_full stocked trip.back full, Pool.acquire_missing capacity later small]
        at recycled
      exact Bool.false_ne_true recycled
  · intro room
    rw [lent.again stocked low room]

end Trip

/-! Two buffers -/

namespace Pool

def wide (capacity : Nat) (buffer : Buffer α) : Bool :=
  capacity ≤ buffer.capacity

def wideFree (capacity : Nat) (pool : Pool α) : Nat :=
  pool.free.countP (wide capacity)

theorem wide_iff {capacity : Nat} {buffer : Buffer α} :
    wide capacity buffer = true ↔ capacity ≤ buffer.capacity :=
  decide_eq_true_iff

def ServesBoth (pool : Pool α) (room least first second : Nat) : Prop :=
  (pool.acquire room first).recycled = true ∧
    ((pool.acquire room first).pool.acquire least second).recycled = true

variable {ceiling maxFree room least : Nat} {pool : Pool α}

theorem servesBoth_wide {first second : Nat} (both : pool.ServesBoth room least first second) :
    ∃ buffer ∈ pool.free, least ≤ buffer.capacity := by
  obtain ⟨buffer, member, enough⟩ := (acquire_recycled least second).mp both.2
  rcases acquire_cases pool room first with ⟨taken, free, served, same, -⟩ | ⟨served, -⟩
  · rw [served] at member
    exact ⟨buffer, same.subset (List.mem_cons_of_mem taken member), enough⟩
  · rw [served] at member
    exact ⟨buffer, member, enough⟩

theorem servesBoth_newest (newest : Buffer α) (free : List (Buffer α)) (first second : Nat)
    (small : ∀ buffer ∈ free, buffer.capacity < max room newest.capacity) :
    (⟨ceiling, maxFree, newest :: free⟩ : Pool α).ServesBoth room least first second ↔
      room ≤ newest.capacity ∧ ∃ buffer ∈ free, least ≤ buffer.capacity := by
  unfold ServesBoth
  by_cases enough : room ≤ newest.capacity
  · rw [acquire_newest newest free room first enough, acquire_recycled]
    exact and_congr_left fun _ => iff_of_true rfl enough
  · refine iff_of_false ?_ fun ⟨large, _⟩ => enough large
    rintro ⟨one, -⟩
    obtain ⟨buffer, member, large⟩ := (acquire_recycled room first).mp one
    rcases List.mem_cons.mp member with rfl | old
    · exact enough large
    · have := small buffer old
      omega

end Pool

/-- Two loans, the second from what the first has left; neither buffer comes back too large. -/
structure Pair (pool : Pool α) (ceiling room least : Nat) (output pending : Trip α) : Prop where
  lent : output.From pool room
  lentNext : pending.From output.lease.pool least
  low : output.back.capacity ≤ ceiling
  lowNext : pending.back.capacity ≤ ceiling

namespace Pair

open Pool

variable {ceiling maxFree room least : Nat} {pool : Pool α} {output pending : Trip α}

def settled (output pending : Trip α) : Pool α :=
  (pending.lease.pool.release pending.back).release output.back

def fresh (output pending : Trip α) : Nat :=
  output.lease.fresh + pending.lease.fresh

theorem left (pair : Pair pool ceiling room least output pending)
    (stocked : pool.Stocked ceiling maxFree) : pending.lease.pool.Stocked ceiling maxFree :=
  pair.lentNext.stocked (pair.lent.stocked stocked)

theorem length (pair : Pair pool ceiling room least output pending) :
    pending.lease.pool.free.length + 2 = pool.free.length + fresh output pending := by
  have one := pair.lent.length
  have two := pair.lentNext.length
  rw [fresh]
  omega

theorem settled_room (pair : Pair pool ceiling room least output pending)
    (stocked : pool.Stocked ceiling maxFree)
    (space : pool.free.length + fresh output pending ≤ maxFree) :
    settled output pending = ⟨ceiling, maxFree,
      output.back.emptied :: pending.back.emptied :: pending.lease.pool.free⟩ := by
  have length := pair.length
  have left := pair.left stocked
  have kept := release_room left pending.back pair.lowNext (by omega)
  rw [settled, release_room (release_stocked _ _ left) output.back pair.low, kept]
  rw [kept, List.length_cons]
  omega

theorem settled_crowded (pair : Pair pool ceiling room least output pending)
    (stocked : pool.Stocked ceiling maxFree)
    (crowded : maxFree < pool.free.length + fresh output pending) :
    maxFree ≤ pending.lease.pool.free.length ∧ settled output pending = pending.lease.pool ∨
      settled output pending =
        ⟨ceiling, maxFree, pending.back.emptied :: pending.lease.pool.free⟩ := by
  have length := pair.length
  have left := pair.left stocked
  by_cases full : maxFree ≤ pending.lease.pool.free.length
  · rw [settled, release_full left _ full, release_full left _ full]
    exact .inl ⟨full, rfl⟩
  · have kept := release_room left pending.back pair.lowNext (Nat.lt_of_not_le full)
    rw [settled, release_full (release_stocked _ _ left), kept]
    · exact .inr rfl
    · rw [kept, List.length_cons]
      omega

theorem again (pair : Pair pool ceiling room least output pending)
    (stocked : pool.Stocked ceiling maxFree)
    (space : pool.free.length + fresh output pending ≤ maxFree) (first second : Nat) :
    (settled output pending).acquire room first = ⟨output.back.emptied, true,
        ⟨ceiling, maxFree, pending.back.emptied :: pending.lease.pool.free⟩⟩ ∧
      ((settled output pending).acquire room first).pool.acquire least second =
        ⟨pending.back.emptied, true, ⟨ceiling, maxFree, pending.lease.pool.free⟩⟩ := by
  rw [pair.settled_room stocked space]
  rw [acquire_newest output.back.emptied _ room first pair.lent.wide]
  exact ⟨rfl, acquire_newest pending.back.emptied _ least second pair.lentNext.wide⟩

/-- If the second buffer had to be made, it is now the only one that is wide enough for it, and the first
request takes it or none. Before that, one free buffer was wide enough at most. -/
theorem crowded_made (pair : Pair pool ceiling room least output pending)
    (stocked : pool.Stocked ceiling maxFree)
    (crowded : maxFree < pool.free.length + fresh output pending)
    (unchanged : pending.lease.pool = output.lease.pool)
    (small : ∀ buffer ∈ output.lease.pool.free, buffer.capacity < least) (first second : Nat) :
    ¬(settled output pending).ServesBoth room least first second ∧ wideFree least pool < 2 := by
  have absent : ¬∃ buffer ∈ output.lease.pool.free, least ≤ buffer.capacity :=
    fun ⟨buffer, member, enough⟩ => Nat.not_le_of_lt (small buffer member) enough
  constructor
  · intro both
    rcases pair.settled_crowded stocked crowded with ⟨-, dropped⟩ | kept
    · rw [dropped, unchanged] at both
      exact absent (servesBoth_wide both)
    · -- the newest buffer is lent first, and no other is wide enough to be second
      rw [kept, unchanged] at both
      refine absent ((servesBoth_newest pending.back.emptied _ first second ?_).mp both).2
      intro buffer member
      exact Nat.lt_of_lt_of_le (small buffer member)
        (Nat.le_trans pair.lentNext.wide (Nat.le_max_right ..))
  · have narrow : output.lease.pool.free.countP (wide least) = 0 :=
      List.countP_eq_zero.mpr fun buffer member enough => absent ⟨buffer, member, wide_iff.mp enough⟩
    rcases pair.lent.cases with ⟨buffer, free, served, same, -⟩ | ⟨⟨serial, served⟩, -⟩
    · rw [served] at narrow
      rw [wideFree, ← same.countP_eq, List.countP_cons, narrow]
      split <;> decide
    · rw [served] at narrow
      rw [wideFree, narrow]
      decide

theorem crowded_found (pair : Pair pool ceiling room least output pending)
    (stocked : pool.Stocked ceiling maxFree)
    (crowded : maxFree < pool.free.length + fresh output pending)
    {buffer : Buffer α} {free : List (Buffer α)}
    (served : pending.lease = ⟨buffer, true, { output.lease.pool with free }⟩)
    (same : (buffer :: free).Perm output.lease.pool.free) (enough : least ≤ buffer.capacity)
    (first second : Nat) :
    (settled output pending).ServesBoth room least first second ↔
      room ≤ pending.back.capacity ∧ 2 ≤ wideFree least pool := by
  have few := stocked.few
  have length := pair.length
  have old : pending.lease.fresh = 0 := by rw [served]; rfl
  have left : pending.lease.pool.free = free := by rw [served]
  rcases pair.lent.cases with ⟨_, _, found, -⟩ | ⟨⟨serial, made⟩, small⟩
  · have older : output.lease.fresh = 0 := by rw [found]; rfl
    rw [fresh] at crowded
    omega
  · have own : output.lease.pool = pool := by rw [made]
    have new : output.lease.fresh = 1 := by rw [made]; rfl
    rw [own] at same
    -- the second buffer left a list that was full at most, and so it comes back to one with room
    rcases pair.settled_crowded stocked crowded with ⟨full, -⟩ | kept
    · rw [fresh] at length
      omega
    · have older : ∀ other ∈ free, other.capacity < max room pending.back.emptied.capacity :=
        fun other member => Nat.lt_of_lt_of_le (small other (same.subset (List.mem_cons_of_mem _ member)))
          (Nat.le_max_left ..)
      have counted : wideFree least pool = free.countP (wide least) + 1 := by
        rw [wideFree, ← same.countP_eq, List.countP_cons_of_pos (wide_iff.mpr enough)]
      rw [kept, left, servesBoth_newest _ free first second older, counted]
      refine and_congr_right fun _ => ?_
      rw [Nat.succ_le_succ_iff, Nat.one_le_iff_ne_zero, ← Nat.pos_iff_ne_zero, List.countP_pos_iff]
      simp only [wide_iff]

/-- Both are lent again exactly if the list had room for what was made for them, or else the second
buffer has grown large enough to replace the first, and an old one can replace the second. -/
theorem recycled_again (pair : Pair pool ceiling room least output pending)
    (stocked : pool.Stocked ceiling maxFree) (first second : Nat) :
    (settled output pending).ServesBoth room least first second ↔
      pool.free.length + fresh output pending ≤ maxFree ∨
        room ≤ pending.back.capacity ∧ 2 ≤ wideFree least pool := by
  by_cases space : pool.free.length + fresh output pending ≤ maxFree
  · obtain ⟨one, two⟩ := pair.again stocked space first second
    exact iff_of_true ⟨by rw [one], by rw [two]⟩ (.inl space)
  · have crowded := Nat.lt_of_not_le space
    rw [or_iff_right space]
    rcases pair.lentNext.cases with ⟨buffer, free, served, same, enough⟩ | ⟨⟨serial, served⟩, small⟩
    · exact pair.crowded_found stocked crowded served same enough first second
    · obtain ⟨neither, few⟩ :=
        pair.crowded_made stocked crowded (by rw [served]) small first second
      exact iff_of_false neither fun ⟨_, two⟩ => Nat.not_le_of_lt few two

end Pair

end RationalCalc
