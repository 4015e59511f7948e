import StreamRelay.Relay.Basic

/-!
# A relay on a network

A network reports what happens to it, and a relay asks it for things to be done. Every report is
turned into steps of the relay; then each task that the report may concern is polled until it waits
again, and what the relay now needs comes out as requests. Nothing is asked for a second time before
it was answered. Sessions go by keys, because a session that is over is forgotten.
-/

set_option autoImplicit false
set_option relaxedAutoImplicit false

namespace StreamRelay

def Link.emptied (link : Link) : Link :=
  { link with taken := [], delivered := [], received := 0 }

namespace Relay

/-- What a network is asked for once at a time. -/
inductive Errand where
  | dial
  | read (side : Session.Side)
  | finish (side : Session.Side)
deriving DecidableEq, Repr

inductive Request where
  | closeListener
  | errand (key : Nat) (errand : Errand)
  | deliver (key : Nat) (side : Session.Side) (data : Bytes)
  | forget (key : Nat)
deriving DecidableEq, Repr

inductive Event where
  | arrival (arrival : Arrival)
  | stop
  | dialed (key : Nat) (result : Except IoError Unit)
  | received (key : Nat) (side : Session.Side) (result : Except IoError Bytes)
  | delivered (key : Nat) (side : Session.Side) (result : Except IoError Nat)

/-- How a session stands with the network, with the errands that were not answered yet. -/
structure Standing where
  key : Nat
  dialed : Option (Except IoError Unit) := none
  errands : List Errand := []

/-- A relay on a network. What is reported and requested is kept until it is looked at. -/
structure Service where
  relay : Relay
  establish : Except IoError Unit := .ok ()
  standings : List Standing := []
  nextKey : Nat := 0
  listening : Bool := true
  notes : List Note := []
  requests : List Request := []

def window : Nat := 0x10000

def receipt : Except IoError Bytes → List Link.Event
  | .ok [] => [.finish, .arriveEnd]
  | .ok data => [.send data, .arrive data.length]
  | .error error => [.breakReads error]

def clearance : Except IoError Nat → Link.Event
  | .ok count => .makeRoom count
  | .error error => .breakWrites error

def isDry (link : Link) : Bool :=
  !link.readShut && link.arrived.isEmpty && link.underway.isEmpty && !link.finished &&
    link.readFault.isNone

def sideErrands (session : Session) (side : Session.Side) : List Errand :=
  let link := session.link side
  (if link.writeShut || session.hasLetGo then [.finish side] else []) ++
    if isDry link && !session.hasLetGo then [.read side] else []

def errands (session : Session) : List Errand :=
  (if session.dialBegun then [.dial] else []) ++
    if session.hasRelayed then sideErrands session .client ++ sideErrands session .backend else []

def deliveries (key : Nat) (session : Session) : List Request :=
  [Session.Side.client, .backend].filterMap fun side =>
    let data := (session.link side).delivered
    if data.isEmpty then none else some (.deliver key side data)

namespace Service

def move (s : Service) (move : Move) : Service :=
  let (relay, notes) := s.relay.step move
  { s with relay, notes := s.notes ++ notes }

def moveSession (s : Service) (index : Nat) (moves : List Session.Move) : Service :=
  moves.foldl (fun s move => s.move (.session index move)) s

def turn (s : Service) (index : Nat) : Service :=
  match s.standings[index]? with
  | none => s
  | some standing =>
    let offer : Session.Offer := ⟨some s.establish, standing.dialed⟩
    s.moveSession index [.poll offer, .pump .up, .pump .down, .watch, .poll offer]

def collect (s : Service) (index : Nat) : Service :=
  match s.standings[index]?, s.relay.sessions[index]? with
  | some standing, some session =>
    let due := (errands session).filter (!standing.errands.contains ·)
    let requests := deliveries standing.key session ++ due.map (.errand standing.key)
    if session.state = .closed then
      { s with
        relay := { s.relay with sessions := s.relay.sessions.eraseIdx index }
        standings := s.standings.eraseIdx index
        requests := s.requests ++ requests ++ [.forget standing.key] }
    else
      let session := { session with
        client := session.client.emptied, backend := session.backend.emptied }
      { s with
        relay := { s.relay with sessions := s.relay.sessions.set index session }
        standings := s.standings.set index { standing with errands := standing.errands ++ due }
        requests := s.requests ++ requests }
  | _, _ => s

/-- A session goes on until it waits; the second turn heeds what pumps cancel in the first. -/
def settle (s : Service) (index : Nat) : Service := ((s.turn index).turn index).collect index

def settleAll (s : Service) : Service :=
  (List.range s.relay.sessions.length).reverse.foldl Service.settle s

/-- The tasks of the relay are polled. A session that is new gets a standing. -/
def tend (s : Service) : Service :=
  let s := ((s.move (.closer true)).move .serve).move (.closer true)
  let s := if s.standings.length < s.relay.sessions.length then
      { s with standings := s.standings ++ [⟨s.nextKey, none, []⟩], nextKey := s.nextKey + 1 }
    else s
  if s.listening && s.relay.listener.closed then
    { s with listening := false, requests := s.requests ++ [.closeListener] }
  else s

def index? (s : Service) (key : Nat) : Option Nat := s.standings.findIdx? (·.key = key)

def isDialing (s : Service) (key : Nat) : Bool :=
  s.standings.any fun standing => standing.key = key && standing.dialed.isNone

def withStanding (s : Service) (index : Nat) (change : Standing → Standing) : Service :=
  { s with standings := s.standings.modify index change }

def befall (s : Service) (index : Nat) (side : Session.Side) (events : List Link.Event) : Service :=
  s.moveSession index (events.map (.befall side))

def reactAt (s : Service) (index : Nat) : Event → Service
  | .dialed key result =>
    if s.isDialing key then
      ((s.withStanding index ({ · with dialed := some result })).befall index .backend
        [.makeRoom window]).settle index
    else s
  | .received _ side result =>
    ((s.withStanding index fun standing =>
      { standing with errands := standing.errands.erase (.read side) }).befall index side
        (receipt result)).settle index
  | .delivered _ side result => (s.befall index side [clearance result]).settle index
  | _ => s

def Event.key? : Event → Option Nat
  | .dialed key _ => some key
  | .received key _ _ => some key
  | .delivered key _ _ => some key
  | _ => none

def react (s : Service) (event : Event) : Service :=
  match event with
  | .arrival arrival =>
    let s := (s.move (.arrive arrival)).tend
    s.settle (s.standings.length - 1)
  | .stop => (s.move .cancel).tend.settleAll
  | event =>
    match (Event.key? event).bind s.index? with
    | some index => s.reactAt index event
    | none => s

def drain (s : Service) : List Note × List Request × Service :=
  (s.notes, s.requests, { s with notes := [], requests := [] })

end Service

end Relay

end StreamRelay
