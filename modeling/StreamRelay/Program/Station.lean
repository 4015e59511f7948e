import Std.Async.Signal
import Std.Async.Timer
import Std.Sync.Channel
import StreamRelay.Program.Machine
import StreamRelay.Relay.Network

/-!
# The station

The station carries out what a relay asks of the network, and brings the relay what happens there.
Everything that happens goes through one channel, so that the relay takes one step at a time.

There is no engine for the records of TLS: a relay that is to terminate it gets as far as accepting,
and each of its sessions ends there with an error.
-/

set_option autoImplicit false
set_option relaxedAutoImplicit false

namespace StreamRelay.Program

open Std.Async (Async)
open Std.Async.TCP.Socket (Client Server)

inductive Happening where
  | accepted (socket : Client)
  | connected (key : Nat) (socket : Client)
  | signal (signal : Signal)
  | event (event : Relay.Event)

/-- The lines of a message behind the first are indented. -/
def writeLog (filter : Log.Filter) (log : Log) : IO Unit :=
  (log.filter filter.admits).forM fun entry => do
    let time ← Machine.timestamp
    let level := CommandLine.padTo 5 entry.level.mark
    let message := entry.message.replace "\n" "\n    "
    IO.eprintln s!"[{time} {level} {entry.origin.name}] {message}"

structure Station where
  filter : Log.Filter
  server : Server
  target : String
  patience : Nat
  channel : Std.CloseableChannel Happening

abbrev Sockets := List ((Nat × Session.Side) × Client)

namespace Station

variable {α : Type}

def happen (station : Station) (happening : Happening) : BaseIO Unit :=
  discard (station.channel.trySend happening)

def post (station : Station) (action : Async α) (tell : Except IoError α → Happening) :
    IO Unit := do
  let task ← action.toIO
  discard <| BaseIO.mapTask (fun result =>
    station.happen (tell (result.mapError Machine.ioError))) task

def accept (station : Station) : IO Unit :=
  station.post station.server.accept fun
    | .ok socket => .accepted socket
    | .error error => .event (.arrival (.failure error))

def heed (station : Station) (name : Std.Async.Signal) (signal : Signal) : IO Unit := do
  let waiter ← Std.Async.Signal.Waiter.mk name true
  let task ← waiter.wait
  discard <| BaseIO.mapTask (fun _ => station.happen (.signal signal)) task

def dial (station : Station) (key : Nat) : IO Unit := do
  station.post (Machine.dial station.target) fun
    | .ok (.ok socket) => .connected key socket
    | .ok (.error error) => .event (.dialed key (.error error))
    | .error error => .event (.dialed key (.error error))
  station.post (Std.Async.sleep (.ofNat station.patience)) fun _ =>
    .event (.dialed key (.error Net.noReply))

def read (station : Station) (key : Nat) (side : Session.Side) (socket : Client) : IO Unit :=
  station.post (socket.recv? Relay.window.toUInt64) fun result =>
    .event (.received key side (result.map fun data => (data.getD .empty).data.toList))

def deliver (station : Station) (key : Nat) (side : Session.Side) (data : Bytes)
    (socket : Client) : IO Unit :=
  station.post (socket.send ⟨data.toArray⟩) fun result =>
    .event (.delivered key side (result.map fun () => data.length))

def carryOut (station : Station) (sockets : Sockets) : Relay.Request → IO Sockets
  | .closeListener => do
    station.server.acceptSelector.unregisterFn.block
    return sockets
  | .errand key .dial => do
    station.dial key
    return sockets
  | .errand key (.read side) => do
    (sockets.lookup (key, side)).forM (station.read key side)
    return sockets
  | .errand key (.finish side) => do
    (sockets.lookup (key, side)).forM fun socket => discard socket.shutdown.toIO
    return sockets
  | .deliver key side data => do
    (sockets.lookup (key, side)).forM (station.deliver key side data)
    return sockets
  | .forget key => do
    let (gone, kept) := sockets.partition (·.1.1 = key)
    gone.forM fun (_, socket) => (socket.recvSelector 1).unregisterFn.block
    return kept

def feed (station : Station) (service : Relay.Service) (sockets : Sockets) (event : Relay.Event) :
    IO (Relay.Service × Sockets) := do
  let (notes, requests, service) := (service.react event).drain
  writeLog station.filter (notes.map Relay.Note.entry)
  return (service, ← requests.foldlM station.carryOut sockets)

def take (station : Station) (service : Relay.Service) (sockets : Sockets) :
    Happening → IO (Relay.Service × Sockets)
  | .accepted socket => do
    let result ← match ← socket.getPeerName.toBaseIO with
      | .ok peer =>
        let peer := (Machine.socketAddress peer).text
        let link : Link := { control := true, room := Relay.window }
        station.feed service (((service.nextKey, .client), socket) :: sockets)
          (.arrival (.connection ⟨peer, link, { control := true }⟩))
      | .error error =>
        station.feed service sockets (.arrival (.failure (Machine.ioError error)))
    if result.1.listening then station.accept
    return result
  | .connected key socket =>
    if service.isDialing key then
      station.feed service (((key, .backend), socket) :: sockets) (.dialed key (.ok ()))
    else return (service, sockets)
  | .signal signal => do
    if service.relay.cancelled then return (service, sockets)
    writeLog station.filter [signal.entry]
    station.feed service sockets .stop
  | .event event => station.feed service sockets event

/-- Take what happens until no task of the relay is left. -/
partial def attend (station : Station) (service : Relay.Service) (sockets : Sockets) : IO Unit := do
  if service.relay.isOver then return
  match ← IO.wait (← station.channel.recv) with
  | none => return
  | some happening =>
    let (service, sockets) ← station.take service sockets happening
    station.attend service sockets

end Station

def noEngine : IoError := .described .other "no engine for TLS records"

def serve {Acceptor : Type} (filter : Log.Filter) (s : Settings) (transport : Transport Acceptor)
    (server : Server) : IO Unit := do
  let station : Station :=
    { filter, server
      target := Net.dialTarget s.backendAddr
      patience := min (s.connectTimeout * 1000) 0x1000000000000
      channel := ← Std.CloseableChannel.new }
  station.heed .sigint .interrupt
  station.heed .sigterm .terminate
  station.accept
  let establish := if transport.isTls then .error noEngine else .ok ()
  station.attend { relay := Relay.ofSettings s, establish } []

end StreamRelay.Program
