import StreamRelay.Net.Host
import StreamRelay.Relay.Basic

set_option autoImplicit false
set_option relaxedAutoImplicit false

namespace StreamRelay.Relay

/-- The parties of one session; `establish` is none when the client's stream never gets ready. -/
structure Parties where
  establish : Option (Except IoError Unit) := some (.ok ())
  capacity : Option Nat := none
  wantsFarewell : Bool := false
  clientHere : Bool := true
  backendHere : Bool := true

structure Rehearsal where
  host : Net.Host
  relay : Relay
  parties : List Parties := []
  notes : List Note := []

inductive Ending where
  | eof
  | error
  | pending
deriving DecidableEq, Repr

structure Remains where
  data : Bytes
  ending : Ending
deriving DecidableEq, Repr

/-- What the parties of a session do; what a side writes may be left unread at the other end. -/
inductive Act where
  | write (side : Session.Side) (data : Bytes) (awaited : Bool)
  | clientRead (count : Nat)
  | close (side : Session.Side) (data : Bytes)
  | halfClose (side : Session.Side) (data : Bytes)
  | breakOff (side : Session.Side) (error : IoError)
  | cancel
deriving DecidableEq, Repr

inductive Outcome where
  | done
  | got (data : Bytes)
  | noLink
  | writeFailed
  | readFailed
  | ends (client backend : Option Remains)
deriving DecidableEq, Repr

def socketRoom : Nat := 0x100000000

/-- What a link does by itself: bytes arrive, then the end, and there is room again. -/
def flow (capacity : Option Nat) (link : Link) : List Link.Event :=
  match capacity with
  | none => [.arrive link.underway.length, .arriveEnd, .makeRoom (socketRoom - link.room)]
  | some held =>
    [.arrive (held - link.arrived.length), .arriveEnd,
      .makeRoom (held - link.unread.length - link.room)]

namespace Rehearsal

def move (rehearsal : Rehearsal) (move : Move) : Rehearsal :=
  let (relay, notes) := rehearsal.relay.step move
  { rehearsal with relay, notes := rehearsal.notes ++ notes }

def moveSession (rehearsal : Rehearsal) (index : Nat) (move : Session.Move) : Rehearsal :=
  rehearsal.move (.session index move)

def befall (rehearsal : Rehearsal) (index : Nat) (side : Session.Side) (event : Link.Event) :
    Rehearsal :=
  rehearsal.moveSession index (.befall side event)

def turn (rehearsal : Rehearsal) (index : Nat) : Rehearsal :=
  match rehearsal.relay.sessions[index]?, rehearsal.parties[index]? with
  | some session, some parties =>
    let events := (flow parties.capacity session.client).map (.befall .client) ++
      (flow none session.backend).map (.befall .backend)
    let offer : Session.Offer :=
      ⟨parties.establish, some (rehearsal.host.dialInTime session.target)⟩
    (events ++ [.poll offer, .pump .up, .pump .down, .watch, .poll offer]).foldl
      (·.moveSession index ·) rehearsal
  | _, _ => rehearsal

def round (rehearsal : Rehearsal) : Rehearsal :=
  (List.range rehearsal.relay.sessions.length).foldl Rehearsal.turn
    ((rehearsal.move (.closer true)).move .serve)

/-- A number of rounds that is enough: in each that changes anything a byte or a task moves on. -/
def patience (rehearsal : Rehearsal) : Nat :=
  rehearsal.relay.sessions.foldl (fun sum session =>
    sum + session.client.underway.length + session.client.arrived.length +
      session.backend.underway.length + session.backend.arrived.length +
      2 * rehearsal.relay.pool.size + 16) (rehearsal.relay.listener.backlog.length + 16)

def settleIn : Nat → Rehearsal → Rehearsal
  | 0, rehearsal => rehearsal
  | fuel + 1, rehearsal =>
    let next := rehearsal.round
    if next.relay = rehearsal.relay then next else settleIn fuel next

def settle (rehearsal : Rehearsal) : Rehearsal := settleIn rehearsal.patience rehearsal

def withParties (rehearsal : Rehearsal) (index : Nat) (change : Parties → Parties) : Rehearsal :=
  { rehearsal with parties := rehearsal.parties.modify index change }

def isHere (rehearsal : Rehearsal) (index : Nat) (side : Session.Side) : Bool :=
  match rehearsal.relay.sessions[index]?, rehearsal.parties[index]? with
  | some session, some parties =>
    match side with
    | .client => parties.clientHere
    | .backend => parties.backendHere && session.hasRelayed
  | _, _ => false

def readable (rehearsal : Rehearsal) (index : Nat) (side : Session.Side) (count : Nat) : Bytes :=
  match rehearsal.relay.sessions[index]? with
  | some session => (session.link side).unread.take count
  | none => []

def readIn : Nat → Rehearsal → Nat → Session.Side → Nat → Bytes × Rehearsal
  | 0, rehearsal, _, _, _ => ([], rehearsal)
  | fuel + 1, rehearsal, index, side, count =>
    let data := rehearsal.readable index side count
    if data.isEmpty then ([], rehearsal)
    else
      let next := (rehearsal.befall index side (.receive data.length)).settle
      let (more, next) := readIn fuel next index side (count - data.length)
      (data ++ more, next)

def read (rehearsal : Rehearsal) (index : Nat) (side : Session.Side) (count : Nat) :
    Bytes × Rehearsal :=
  readIn (count + 1) rehearsal index side count

def ending (rehearsal : Rehearsal) (index : Nat) (side : Session.Side) : Ending :=
  match rehearsal.relay.sessions[index]?, rehearsal.parties[index]? with
  | some session, some parties =>
    let link := session.link side
    if !(link.writeShut || session.hasLetGo) then .pending
    else if side = .client && parties.wantsFarewell && !link.farewell then .error
    else .eof
  | _, _ => .pending

def remains (rehearsal : Rehearsal) (index : Nat) (side : Session.Side) :
    Option Remains × Rehearsal :=
  if rehearsal.isHere index side then
    let (data, rehearsal) := rehearsal.read index side socketRoom
    (some ⟨data, rehearsal.ending index side⟩, rehearsal)
  else (none, rehearsal)

def leave (rehearsal : Rehearsal) (index : Nat) : Session.Side → Rehearsal
  | .client => rehearsal.withParties index ({ · with clientHere := false })
  | .backend => rehearsal.withParties index ({ · with backendHere := false })

def finish (rehearsal : Rehearsal) (index : Nat) : Outcome × Rehearsal :=
  let (client, rehearsal) := rehearsal.remains index .client
  let (backend, rehearsal) := rehearsal.remains index .backend
  (.ends client backend, (rehearsal.leave index .client).leave index .backend)

def lastWords (rehearsal : Rehearsal) (index : Nat) (side : Session.Side) (data : Bytes) :
    Rehearsal :=
  if rehearsal.isHere index side then
    ((rehearsal.befall index side (.send data)).befall index side .finish).settle
  else rehearsal

def isDeaf (rehearsal : Rehearsal) (index : Nat) : Bool :=
  match rehearsal.relay.sessions[index]? with
  | some session => session.hasLetGo
  | none => true

def act (rehearsal : Rehearsal) (index : Nat) : Act → Outcome × Rehearsal
  | .write side data awaited =>
    if !rehearsal.isHere index side || (awaited && !rehearsal.isHere index side.other) then
      (.noLink, rehearsal)
    else if rehearsal.isDeaf index then (.writeFailed, rehearsal)
    else
      let rehearsal := (rehearsal.befall index side (.send data)).settle
      if awaited then
        let (got, rehearsal) := rehearsal.read index side.other data.length
        (if got.length < data.length then .readFailed else .got got, rehearsal)
      else (.done, rehearsal)
  | .clientRead count =>
    if !rehearsal.isHere index .client then (.noLink, rehearsal)
    else
      let (got, rehearsal) := rehearsal.read index .client count
      (if got.length < count then .readFailed else .got got, rehearsal)
  | .close side data =>
    ((rehearsal.lastWords index side data).leave index side).settle.finish index
  | .halfClose side data => (rehearsal.lastWords index side data).finish index
  | .breakOff side error =>
    let broken := if rehearsal.isHere index side then
      ((rehearsal.befall index side (.breakReads error)).befall index side
        (.breakWrites error)).leave index side
      else rehearsal
    broken.settle.finish index
  | .cancel => (rehearsal.move .cancel).settle.finish index

/-- What comes of a connection: it is not accepted, not yet relayed, relayed, or over. -/
inductive Welcome where
  | notAccepted
  | waiting
  | relaying
  | over
deriving DecidableEq, Repr

def connect (rehearsal : Rehearsal) (connection : Connection) (parties : Parties) :
    Welcome × Rehearsal :=
  if rehearsal.relay.served || rehearsal.relay.listener.closed then (.notAccepted, rehearsal)
  else
    let index := rehearsal.relay.sessions.length
    let rehearsal := ({ rehearsal with
      parties := rehearsal.parties ++ [parties] }.move
        (.arrive (.connection connection))).settle
    match rehearsal.relay.sessions[index]? with
    | none => (.notAccepted, rehearsal)
    | some session =>
      (if session.state = .closed then .over
        else if session.hasRelayed then .relaying else .waiting, rehearsal)

def live (rehearsal : Rehearsal) : Nat :=
  rehearsal.relay.sessions.countP (·.state ≠ .closed)

def solo (host : Net.Host) (pool : Pool) (session : Session) (parties : Parties) : Rehearsal where
  host := host
  relay :=
    { target := session.target, pool, cancelled := session.cancelled, served := true,
      closerOver := true, sessions := [session] }
  parties := [parties]

end Rehearsal

end StreamRelay.Relay
