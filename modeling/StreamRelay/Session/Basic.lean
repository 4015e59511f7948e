import StreamRelay.Pump.Poll
import StreamRelay.Session.Link

/-!
# Sessions

A session serves one client: it gets the client's stream ready, dials the backend, and runs one
pump in each direction. It has a scope of its own, which is cancelled from outside or by the first
pump that stops; then a watcher forces both connections shut, and the session is over when both
pumps and the watcher are.

A session is a machine: its own task, its pumps and its watcher are polled in any order, and one
poll is one step.
-/

set_option autoImplicit false
set_option relaxedAutoImplicit false

namespace StreamRelay

namespace Session

inductive State where
  | dialing
  | relaying
  | draining
  | closed
deriving DecidableEq, Repr

def State.word : State → String
  | .dialing => "dialing"
  | .relaying => "relaying"
  | .draining => "draining"
  | .closed => "closed"

/-- The stages follow one another, and a session may also end while it is dialing. -/
def State.precedes : State → State → Bool
  | .dialing, .relaying => true
  | .dialing, .closed => true
  | .relaying, .draining => true
  | .draining, .closed => true
  | _, _ => false

inductive Side where
  | client
  | backend
deriving DecidableEq, Repr

def Side.other : Side → Side
  | .client => .backend
  | .backend => .client

/-- From the client to the backend, and from the backend to the client. -/
inductive Direction where
  | up
  | down
deriving DecidableEq, Repr

def Direction.source : Direction → Side
  | .up => .client
  | .down => .backend

def Direction.destination : Direction → Side
  | .up => .backend
  | .down => .client

inductive Note where
  | advanced (before after : State)
  | notEstablished (error : IoError)
  | notDialed (error : IoError)
  | pumpLost (direction : Direction)
  | pump (direction : Direction) (note : Pump.Note)
  | finished (up down : Nat)
deriving DecidableEq, Repr

def Direction.label (direction : Direction) (peer target : String) : String :=
  match direction with
  | .up => s!"{peer} -> {target}"
  | .down => s!"{target} -> {peer}"

def Note.entry (peer target : String) : Note → Entry
  | .advanced before after =>
    ⟨.session, .debug, s!"Session {peer}: {before.word} -> {after.word}"⟩
  | .notEstablished error =>
    ⟨.session, .warn, s!"Error establishing connection from {peer}: {error.message}"⟩
  | .notDialed error =>
    ⟨.session, .error, s!"Error connecting to backend {target} for {peer}: {error.message}"⟩
  | .pumpLost _ => ⟨.session, .error, "Pump task failed"⟩
  | .pump direction note => note.entry (direction.label peer target)
  | .finished up down =>
    ⟨.session, .info, s!"Connection from {peer} closed ({up} bytes up, {down} bytes down)"⟩

/-- The summary of a session that is over. Both totals are taken to stay below `2 ^ 64`. -/
structure Report where
  state : State
  dialed : Bool
  up : Nat
  down : Nat
deriving DecidableEq, Repr

/-- The task of a pump; it is lost when there was no buffer for it. -/
inductive Task where
  | absent
  | spawned
  | running (pump : Pump)
  | finished (exit : Pump.Exit) (total : Nat)
  | lost
deriving DecidableEq, Repr

def Task.isOver : Task → Bool
  | .finished _ _ => true
  | .lost => true
  | _ => false

def Task.total : Task → Nat
  | .finished _ total => total
  | _ => 0

/-- What the attempts of a session have come to: nothing yet, success or failure. -/
structure Offer where
  establish : Option (Except IoError Unit)
  dial : Option (Except IoError Unit)

end Session

/-- A session of a relay. It has a report once it is over. -/
structure Session where
  peer : String
  target : String
  cancelled : Bool
  client : Link
  backend : Link
  state : Session.State := .dialing
  dialBegun : Bool := false
  up : Session.Task := .absent
  down : Session.Task := .absent
  watched : Bool := false
  report : Option Session.Report := none
deriving DecidableEq, Repr

namespace Session

def link (session : Session) : Side → Link
  | .client => session.client
  | .backend => session.backend

def setLink (session : Session) : Side → Link → Session
  | .client, client => { session with client }
  | .backend, backend => { session with backend }

def task (session : Session) : Direction → Task
  | .up => session.up
  | .down => session.down

def setTask (session : Session) : Direction → Task → Session
  | .up, up => { session with up }
  | .down, down => { session with down }

def cancel (session : Session) : Session := { session with cancelled := true }

def advance (session : Session) (state : State) : Session × List Note :=
  ({ session with state }, [.advanced session.state state])

def conclude (session : Session) (dialed : Bool) : Session × List Note :=
  let (session, notes) := session.advance .closed
  let report : Report := ⟨session.state, dialed, session.up.total, session.down.total⟩
  ({ session with cancelled := true, report := some report }, notes)

def dial (session : Session) : Option (Except IoError Unit) → Session × List Note
  | none => (session, [])
  | some (.error error) =>
    let (session, notes) := session.conclude false
    (session, .notDialed error :: notes)
  | some (.ok ()) =>
    let (session, notes) := session.advance .relaying
    ({ session with up := .spawned, down := .spawned }, notes)

def join (session : Session) : Session × List Note :=
  if session.up.isOver && session.down.isOver && session.watched then
    let lost := (if session.up = .lost then [.pumpLost .up] else []) ++
      (if session.down = .lost then [Note.pumpLost .down] else [])
    let (session, notes) := session.conclude true
    (session, lost ++ notes ++ [.finished session.up.total session.down.total])
  else (session, [])

/-- One poll of the session's own task. Cancellation is looked at before every wait. -/
def poll (session : Session) (offer : Offer) : Session × List Note :=
  match session.state with
  | .dialing =>
    if session.cancelled then session.conclude false
    else if session.dialBegun then session.dial offer.dial
    else
      match offer.establish with
      | none => (session, [])
      | some (.error error) =>
        let (session, notes) := session.conclude false
        (session, .notEstablished error :: notes)
      | some (.ok ()) => { session with dialBegun := true }.dial offer.dial
  | .relaying =>
    if session.cancelled then
      let (session, notes) := session.advance .draining
      let (session, more) := session.join
      (session, notes ++ more)
    else (session, [])
  | .draining => session.join
  | .closed => (session, [])

def shutBy (session : Session) (side : Side) (read write : Bool) :
    Option (Except IoError Unit) × Session :=
  let (result, link) := (session.link side).shut read write
  (some result, session.setLink side link)

def surroundings (direction : Direction) : Pump.Surroundings Session where
  cancelled := Session.cancelled
  cancel := Session.cancel
  respond := fun call session =>
    let source := session.link direction.source
    let destination := session.link direction.destination
    match call with
    | .read room =>
      let (answer, link) := source.read room
      (answer, session.setLink direction.source link)
    | .write data =>
      let (answer, link) := destination.write data
      (answer, session.setLink direction.destination link)
    | .flush => (some (.ok ()), session)
    | .shutdown =>
      let (answer, link) := destination.shutdown
      (answer, session.setLink direction.destination link)
    | .closeWrite => session.shutBy direction.destination false true
    | .closeDestination => session.shutBy direction.destination true true
    | .closeRead => session.shutBy direction.source true false
    | .closeSource => session.shutBy direction.source true true

/-- No poll's answers exceed this number: each byte is read, written and flushed once at most. -/
def workload (session : Session) (direction : Direction) (pump : Pump) : Nat :=
  let chunk := match pump.phase with
    | .writing size accepted => size - accepted
    | _ => 0
  3 * (session.link direction.source).arrived.length + chunk + 8

def drive (session : Session) (direction : Direction) (pool : Pool) (pump : Pump) :
    Session × Pool × List Note :=
  let (pump, notes, session) :=
    pump.poll (surroundings direction) (session.workload direction pump) session
  let notes := notes.map (.pump direction)
  match pump.exit? with
  | some exit =>
    (session.setTask direction (.finished exit pump.total), pool.release pump.buffer, notes)
  | none => (session.setTask direction (.running pump), pool, notes)

def pollPump (session : Session) (direction : Direction) (pool : Pool) :
    Session × Pool × List Note :=
  match session.task direction with
  | .spawned =>
    match Pump.start pool (session.link direction.source).control
        (session.link direction.destination).control with
    | (none, pool) => (session.setTask direction .lost, pool, [])
    | (some pump, pool) => session.drive direction pool pump
  | .running pump => session.drive direction pool pump
  | _ => (session, pool, [])

/-- The watcher forces both connections shut when the scope is cancelled. -/
def pollWatcher (session : Session) : Session :=
  if session.cancelled && !session.watched && session.up ≠ .absent then
    { session with
      client := session.client.forceClosed
      backend := session.backend.forceClosed
      watched := true }
  else session

inductive Move where
  | befall (side : Side) (event : Link.Event)
  | cancel
  | poll (offer : Offer)
  | pump (direction : Direction)
  | watch

def step (session : Session) (pool : Pool) : Move → Session × Pool × List Note
  | .befall side event => (session.setLink side ((session.link side).after event), pool, [])
  | .cancel => (session.cancel, pool, [])
  | .poll offer =>
    let (session, notes) := session.poll offer
    (session, pool, notes)
  | .pump direction => session.pollPump direction pool
  | .watch => (session.pollWatcher, pool, [])

def run (session : Session) (pool : Pool) : List Move → Session × Pool × List Note
  | [] => (session, pool, [])
  | move :: moves =>
    let (session, pool, notes) := session.step pool move
    let (session, pool, more) := session.run pool moves
    (session, pool, notes ++ more)

def hasRelayed (session : Session) : Bool := session.up ≠ .absent

/-- The relay has let go of both links when the session or both of its pumps are over. -/
def hasLetGo (session : Session) : Bool :=
  session.state = .closed || (session.up.isOver && session.down.isOver)

end Session

end StreamRelay
