import RationalCalc.Pool.Basic

/-!
A pool at work among clients. Every buffer in use is held by one client, which alone fills it and
gives it back; a client may also bring a buffer made outside the pool. A step on a buffer that its
client does not hold changes nothing.
-/

namespace RationalCalc

structure Holding (α : Type) where
  client : Nat
  buffer : Buffer α

structure Bench (α : Type) where
  pool : Pool α
  held : List (Holding α)
  /-- Buffers made so far, which is the next serial number. -/
  made : Nat

namespace Bench

inductive Step (α : Type) where
  | bring (client capacity : Nat)
  | acquire (client capacity : Nat)
  | push (client serial : Nat) (item : α)
  | release (client serial : Nat)

def start (pool : Pool α) : Bench α :=
  ⟨pool, [], 0⟩

def isHeld (client serial : Nat) (holding : Holding α) : Bool :=
  holding.client = client && holding.buffer.serial = serial

def find? (bench : Bench α) (client serial : Nat) : Option (Buffer α) :=
  (bench.held.find? (isHeld client serial)).map (·.buffer)

def without (bench : Bench α) (client serial : Nat) : List (Holding α) :=
  bench.held.eraseP (isHeld client serial)

def bring (bench : Bench α) (client capacity : Nat) : Bench α :=
  { bench with
    held := ⟨client, .fresh bench.made capacity⟩ :: bench.held
    made := bench.made + 1 }

def acquire (bench : Bench α) (client capacity : Nat) : Bench α :=
  let lease := bench.pool.acquire capacity bench.made
  { pool := lease.pool
    held := ⟨client, lease.buffer⟩ :: bench.held
    made := if lease.recycled then bench.made else bench.made + 1 }

def push (bench : Bench α) (client serial : Nat) (item : α) : Bench α :=
  match bench.find? client serial with
  | none => bench
  | some buffer => { bench with held := ⟨client, buffer.push item⟩ :: bench.without client serial }

def release (bench : Bench α) (client serial : Nat) : Bench α :=
  match bench.find? client serial with
  | none => bench
  | some buffer =>
      { bench with pool := bench.pool.release buffer, held := bench.without client serial }

def step (bench : Bench α) : Step α → Bench α
  | .bring client capacity => bench.bring client capacity
  | .acquire client capacity => bench.acquire client capacity
  | .push client serial item => bench.push client serial item
  | .release client serial => bench.release client serial

def run (bench : Bench α) (steps : List (Step α)) : Bench α :=
  steps.foldl step bench

/-- The buffer that came or was touched last. -/
def latest? (bench : Bench α) : Option (Buffer α) :=
  bench.held.head?.map (·.buffer)

end Bench

end RationalCalc
