/-!
Buffers: stores that grow as they are filled and keep the room they have gained. A full buffer that
takes one more item doubles its capacity, to four at least. The serial number is a buffer's
identity; its items are newest first.
-/

namespace RationalCalc

structure Buffer (α : Type) where
  serial : Nat
  capacity : Nat
  items : List α

namespace Buffer

def widened (held capacity : Nat) : Nat :=
  if held < capacity then capacity else max (2 * capacity) 4

/-- The capacity of a buffer that has held `most` items at once, taken in one at a time. -/
def grown (capacity : Nat) : Nat → Nat
  | 0 => capacity
  | most + 1 => widened most (grown capacity most)

def fresh (serial capacity : Nat) : Buffer α :=
  ⟨serial, capacity, []⟩

def leaving (buffer : Buffer α) (most : Nat) (items : List α) : Buffer α :=
  { buffer with items, capacity := grown buffer.capacity most }

def holding (buffer : Buffer α) (items : List α) : Buffer α :=
  buffer.leaving items.length items

def push (buffer : Buffer α) (item : α) : Buffer α :=
  buffer.holding (item :: buffer.items)

def emptied (buffer : Buffer α) : Buffer α :=
  { buffer with items := [] }

theorem grown_of_le (capacity most : Nat) (room : most ≤ capacity) :
    grown capacity most = capacity := by
  induction most with
  | zero => rfl
  | succ held ih =>
      have below : held < capacity := room
      simp [grown, widened, ih (Nat.le_of_lt below), below]

theorem le_grown (capacity most : Nat) : most ≤ grown capacity most := by
  induction most with
  | zero => exact Nat.zero_le _
  | succ held ih =>
      simp only [grown, widened]
      split <;> omega

theorem capacity_le_grown (capacity most : Nat) : capacity ≤ grown capacity most := by
  induction most with
  | zero => exact Nat.le_refl _
  | succ held ih =>
      simp only [grown, widened]
      split <;> omega

theorem holding_items (buffer : Buffer α) (items : List α) :
    (buffer.holding items).items = items := rfl

theorem push_items (buffer : Buffer α) (item : α) :
    (buffer.push item).items = item :: buffer.items := rfl

theorem push_capacity_room (buffer : Buffer α) (item : α)
    (room : buffer.items.length < buffer.capacity) :
    (buffer.push item).capacity = buffer.capacity := by
  simp [push, holding, leaving, grown_of_le, Nat.succ_le_of_lt room]

theorem push_capacity_full (buffer : Buffer α) (item : α)
    (full : buffer.items.length = buffer.capacity) :
    (buffer.push item).capacity = max (2 * buffer.capacity) 4 := by
  simp [push, holding, leaving, grown, widened, grown_of_le, full]

end Buffer

end RationalCalc
