import StreamRelay.Bytes

/-!
# The buffer pool

A pool hands out buffers of one size. A buffer that is given back is kept and handed out again
before a new one is allocated, the last one given back first, with whatever it held. The pool
counts allocations, borrows and releases, and numbers its buffers by allocation, so that one
buffer can be told from another.
-/

set_option autoImplicit false
set_option relaxedAutoImplicit false

namespace StreamRelay

/-- A buffer: which allocation of its pool it came from, and what it holds. -/
structure Buffer where
  serial : Nat
  bytes : Bytes
deriving DecidableEq, Repr

def Buffer.size (buffer : Buffer) : Nat := buffer.bytes.length

def Buffer.zeroed (serial size : Nat) : Buffer := ⟨serial, List.replicate size 0⟩

def Buffer.fill (buffer : Buffer) (byte : UInt8) : Buffer :=
  { buffer with bytes := List.replicate buffer.size byte }

def Buffer.write? (buffer : Buffer) (offset : Nat) (data : Bytes) : Option Buffer :=
  if buffer.size < offset + data.length then none
  else some { buffer with
    bytes := buffer.bytes.take offset ++ data ++ buffer.bytes.drop (offset + data.length) }

def Buffer.read? (buffer : Buffer) (offset count : Nat) : Option Bytes :=
  if buffer.size < offset + count then none else some ((buffer.bytes.drop offset).take count)

/-- The largest number of bytes that one buffer can have. -/
def maxAllocation : Nat := 0x7FFFFFFFFFFFFFFF

structure PoolStats where
  allocated : Nat
  borrowed : Nat
  released : Nat
  idle : Nat
deriving DecidableEq, Repr

/-- The number of buffers that are out: never below zero. -/
def PoolStats.inUse (stats : PoolStats) : Nat := stats.borrowed - stats.released

/-- A pool; the buffer to be handed out next stands first. Its counts are taken to stay below
`2 ^ 64`, so that none wraps around. -/
structure Pool where
  size : Nat
  free : List Buffer := []
  allocated : Nat := 0
  borrowed : Nat := 0
  released : Nat := 0
deriving DecidableEq, Repr

def Pool.ofBytes (size : Nat) : Pool := { size }

/-- A pool of buffers of so many kilobytes. A size that is no machine word is clamped. -/
def Pool.ofKilobytes (kilobytes : Nat) : Pool :=
  .ofBytes (min (kilobytes * 1024) 0xFFFFFFFFFFFFFFFF)

def Pool.stats (pool : Pool) : PoolStats where
  allocated := pool.allocated
  borrowed := pool.borrowed
  released := pool.released
  idle := pool.free.length

/-- Borrow a buffer. An allocation is counted before it is found out that it cannot be made. -/
def Pool.borrow (pool : Pool) : Option Buffer × Pool :=
  match pool.free with
  | buffer :: free => (some buffer, { pool with free, borrowed := pool.borrowed + 1 })
  | [] =>
    let counted := { pool with allocated := pool.allocated + 1 }
    if maxAllocation < pool.size then (none, counted)
    else (some (.zeroed pool.allocated pool.size), { counted with borrowed := pool.borrowed + 1 })

def Pool.release (pool : Pool) (buffer : Buffer) : Pool :=
  { pool with free := buffer :: pool.free, released := pool.released + 1 }

end StreamRelay
