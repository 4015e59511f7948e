import StreamRelay.Relay.Listener
import StreamRelay.Session.Basic

/-!
# The relay

The relay accepts connections and runs one session for each. Its root scope ends it: a closer task
closes the listener, which ends the accept loop, and the scope of every session is cancelled with
the root. A failed accept ends nothing, and neither does a session.

The relay is a machine like a session: its tasks are polled in any order, and one poll is one
step. A step of the accept loop takes one outcome.
-/

set_option autoImplicit false
set_option relaxedAutoImplicit false

namespace StreamRelay

namespace Relay

inductive Note where
  | accepting (peer : String)
  | acceptFailed (error : IoError)
  | listenerClosed
  | closingListener
  | session (peer target : String) (note : Session.Note)
deriving DecidableEq, Repr

def Note.entry : Note → Entry
  | .accepting peer => ⟨.acceptLoop, .info, s!"Accepting connection from {peer}"⟩
  | .acceptFailed error =>
    ⟨.acceptLoop, .error, s!"Error accepting connection: {error.message}"⟩
  | .listenerClosed => ⟨.acceptLoop, .info, "Listener closed, no longer accepting connections"⟩
  | .closingListener => Listener.closing
  | .session peer target note => note.entry peer target

end Relay

/-- A relay, with its sessions in the order in which they were accepted. -/
structure Relay where
  target : String
  pool : Pool
  listener : Listener := {}
  cancelled : Bool := false
  served : Bool := false
  closerOver : Bool := false
  sessions : List Session := []
deriving DecidableEq, Repr

namespace Relay

def cancel (relay : Relay) : Relay :=
  { relay with cancelled := true, sessions := relay.sessions.map Session.cancel }

def welcome (relay : Relay) : Except AcceptError Connection → Relay × List Note
  | .ok connection =>
    let session : Session :=
      { peer := connection.peer, target := relay.target, cancelled := relay.cancelled,
        client := connection.link, backend := connection.backend }
    ({ relay with sessions := relay.sessions ++ [session] }, [.accepting connection.peer])
  | .error .closed => ({ relay with served := true }, [.listenerClosed])
  | .error (.failed error) => (relay, [.acceptFailed error])

def pollLoop (relay : Relay) : Relay × List Note :=
  if relay.served then (relay, [])
  else
    match relay.listener.accept with
    | (none, _) => (relay, [])
    | (some outcome, listener) => { relay with listener }.welcome outcome

/-- A cancelled root scope closes the listener; once the accept loop is over it need not. -/
def pollCloser (relay : Relay) (heedsRoot : Bool) : Relay × List Note :=
  if relay.closerOver then (relay, [])
  else if relay.cancelled && (heedsRoot || !relay.served) then
    let (listener, _) := relay.listener.close
    ({ relay with listener, closerOver := true },
      if relay.listener.closed then [] else [.closingListener])
  else if relay.served then ({ relay with closerOver := true }, [])
  else (relay, [])

def stepSession (relay : Relay) (index : Nat) (move : Session.Move) : Relay × List Note :=
  match relay.sessions[index]? with
  | none => (relay, [])
  | some session =>
    let (session, pool, notes) := session.step relay.pool move
    ({ relay with pool, sessions := relay.sessions.set index session },
      notes.map (.session session.peer session.target))

inductive Move where
  | arrive (arrival : Arrival)
  | closeListener
  | cancel
  | serve
  | closer (heedsRoot : Bool)
  | session (index : Nat) (move : Session.Move)

def step (relay : Relay) : Move → Relay × List Note
  | .arrive arrival => ({ relay with listener := relay.listener.arrive arrival }, [])
  | .closeListener => ({ relay with listener := { relay.listener with closed := true } }, [])
  | .cancel => (relay.cancel, [])
  | .serve => relay.pollLoop
  | .closer heedsRoot => relay.pollCloser heedsRoot
  | .session index move => relay.stepSession index move

def run (relay : Relay) : List Move → Relay × List Note
  | [] => (relay, [])
  | move :: moves =>
    let (relay, notes) := relay.step move
    let (relay, more) := relay.run moves
    (relay, notes ++ more)

def isOver (relay : Relay) : Bool :=
  relay.served && relay.closerOver && relay.sessions.all (·.state = .closed)

end Relay

end StreamRelay
