import StreamRelay.Buffer.Pool

set_option autoImplicit false
set_option relaxedAutoImplicit false

namespace StreamRelay

/-- A pool and the buffers that are out, each under its borrower's name, the oldest borrow first. -/
structure Lending where
  pool : Pool
  held : List (String × Buffer) := []
deriving DecidableEq, Repr

namespace Lending

inductive Act where
  | borrow (name : String)
  | drop (name : String)
  | dropAll
  | fill (name : String) (byte : UInt8)
  | write (name : String) (offset : Nat) (data : Bytes)
  | read (name : String) (offset count : Nat)
  | share
deriving DecidableEq, Repr

/-- What comes of an act; a name is misused when it is borrowed twice or used without a buffer. -/
inductive Outcome where
  | lent (size : Nat)
  | data (bytes : Bytes)
  | done
  | exhausted
  | outOfRange
  | misused
deriving DecidableEq, Repr

def buffer? (lending : Lending) (name : String) : Option Buffer := lending.held.lookup name

def hold (lending : Lending) (name : String) (buffer : Buffer) : Lending :=
  { lending with
    held := lending.held.map fun entry => if entry.1 = name then (name, buffer) else entry }

def giveBack (lending : Lending) (name : String) (buffer : Buffer) : Lending where
  pool := lending.pool.release buffer
  held := lending.held.filter (·.1 ≠ name)

def giveAllBack (lending : Lending) : Lending where
  pool := lending.held.foldl (fun pool entry => pool.release entry.2) lending.pool
  held := []

def act (lending : Lending) : Act → Lending × Outcome
  | .borrow name =>
    match lending.buffer? name with
    | some _ => (lending, .misused)
    | none =>
      match lending.pool.borrow with
      | (none, pool) => ({ lending with pool }, .exhausted)
      | (some buffer, pool) =>
        (⟨pool, lending.held ++ [(name, buffer)]⟩, .lent buffer.size)
  | .drop name =>
    match lending.buffer? name with
    | none => (lending, .misused)
    | some buffer => (lending.giveBack name buffer, .done)
  | .dropAll => (lending.giveAllBack, .done)
  | .fill name byte =>
    match lending.buffer? name with
    | none => (lending, .misused)
    | some buffer => (lending.hold name (buffer.fill byte), .done)
  | .write name offset data =>
    match lending.buffer? name with
    | none => (lending, .misused)
    | some buffer =>
      match buffer.write? offset data with
      | none => (lending, .outOfRange)
      | some written => (lending.hold name written, .done)
  | .read name offset count =>
    match lending.buffer? name with
    | none => (lending, .misused)
    | some buffer =>
      match buffer.read? offset count with
      | none => (lending, .outOfRange)
      | some bytes => (lending, .data bytes)
  | .share => (lending, .done)

def run (lending : Lending) (acts : List Act) : Lending :=
  acts.foldl (fun lending act => (lending.act act).1) lending

end Lending

end StreamRelay
