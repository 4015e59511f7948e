import StreamRelay.Bytes
import StreamRelay.IoError

/-!
# The links of a session

A link is a connection between the relay and one party, a client or a backend. In each direction
it carries bytes in order. What the party sends is under way until it arrives, and has arrived
until the relay takes it; what the relay writes is delivered as far as there is room.
-/

set_option autoImplicit false
set_option relaxedAutoImplicit false

namespace StreamRelay

/-- A connection between the relay and a party: what the relay takes from it, what it delivers on
it, what puts an end to either, and what the relay has done to its own end. -/
structure Link where
  control : Bool
  taken : Bytes := []
  arrived : Bytes := []
  underway : Bytes := []
  finished : Bool := false
  ended : Bool := false
  readFault : Option IoError := none
  delivered : Bytes := []
  received : Nat := 0
  room : Nat := 0
  writeFault : Option IoError := none
  slowShutdown : Bool := false
  readShut : Bool := false
  writeShut : Bool := false
  farewell : Bool := false
deriving DecidableEq, Repr

namespace Link

def sent (link : Link) : Bytes := link.taken ++ link.arrived ++ link.underway

def unread (link : Link) : Bytes := link.delivered.drop link.received

/-- What befalls a link from outside the relay. -/
inductive Event where
  | send (data : Bytes)
  | finish
  | receive (count : Nat)
  | arrive (count : Nat)
  | arriveEnd
  | makeRoom (count : Nat)
  | breakReads (error : IoError)
  | breakWrites (error : IoError)
  | slow (waits : Bool)
deriving DecidableEq, Repr

/-- A party that has finished sends no more, and the end does not overtake bytes. -/
def after (link : Link) : Event → Link
  | .send data => if link.finished then link else { link with underway := link.underway ++ data }
  | .finish => { link with finished := true }
  | .receive count => { link with received := min (link.received + count) link.delivered.length }
  | .arrive count =>
    { link with
      arrived := link.arrived ++ link.underway.take count
      underway := link.underway.drop count }
  | .arriveEnd => { link with ended := link.ended || (link.finished && link.underway.isEmpty) }
  | .makeRoom count => { link with room := link.room + count }
  | .breakReads error => { link with readFault := some error }
  | .breakWrites error => { link with writeFault := some error }
  | .slow waits => { link with slowShutdown := waits }

def brokenPipe : IoError := .system 32

def notConnected : IoError := .system 107

def read (link : Link) (room : Nat) : Option (Except IoError Bytes) × Link :=
  if link.readShut then (some (.ok []), link)
  else if !link.arrived.isEmpty then
    (some (.ok (link.arrived.take room)),
      { link with
        taken := link.taken ++ link.arrived.take room
        arrived := link.arrived.drop room })
  else
    match link.readFault with
    | some error => (some (.error error), link)
    | none => if link.ended then (some (.ok []), link) else (none, link)

def write (link : Link) (data : Bytes) : Option (Except IoError Nat) × Link :=
  if link.writeShut then (some (.error brokenPipe), link)
  else
    match link.writeFault with
    | some error => (some (.error error), link)
    | none =>
      if link.room = 0 then (none, link)
      else
        let count := min link.room data.length
        (some (.ok count),
          { link with delivered := link.delivered ++ data.take count, room := link.room - count })

def shut (link : Link) (read write : Bool) : Except IoError Unit × Link :=
  if link.control && link.writeFault.isSome then (.error notConnected, link)
  else
    (.ok (),
      { link with readShut := link.readShut || read, writeShut := link.writeShut || write })

def shutdown (link : Link) : Option (Except IoError Unit) × Link :=
  if link.slowShutdown then (none, link)
  else
    match link.shut false true with
    | (.ok (), link) => (some (.ok ()), { link with farewell := true })
    | (.error error, link) => (some (.error error), link)

def forceClosed (link : Link) : Link :=
  if link.control then { link with readShut := true, writeShut := true } else link

end Link

end StreamRelay
