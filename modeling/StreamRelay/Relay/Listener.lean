import StreamRelay.Error
import StreamRelay.Log
import StreamRelay.Session.Link

set_option autoImplicit false
set_option relaxedAutoImplicit false

namespace StreamRelay

/-- A connection that was accepted, with the link that its session will have to the backend. -/
structure Connection where
  peer : String
  link : Link
  backend : Link
deriving DecidableEq, Repr

inductive Arrival where
  | connection (connection : Connection)
  | failure (error : IoError)
deriving DecidableEq, Repr

/-- A listener: whether it was closed, and what waits, first come first. -/
structure Listener where
  closed : Bool := false
  backlog : List Arrival := []
deriving DecidableEq, Repr

namespace Listener

def arrive (listener : Listener) (arrival : Arrival) : Listener :=
  { listener with backlog := listener.backlog ++ [arrival] }

def accept (listener : Listener) : Option (Except AcceptError Connection) × Listener :=
  if listener.closed then (some (.error .closed), listener)
  else
    match listener.backlog with
    | [] => (none, listener)
    | .connection connection :: backlog => (some (.ok connection), { listener with backlog })
    | .failure error :: backlog => (some (.error (.failed error)), { listener with backlog })

def closing : Entry := ⟨.listener, .debug, "Closing listener"⟩

/-- Close the listener. Only the first time is reported. -/
def close (listener : Listener) : Listener × Log :=
  ({ listener with closed := true }, if listener.closed then [] else [closing])

end Listener

end StreamRelay
