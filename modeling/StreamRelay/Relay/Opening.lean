import StreamRelay.Net.Host
import StreamRelay.Relay.Basic
import StreamRelay.Settings.Record
import StreamRelay.Tls.Credentials

set_option autoImplicit false
set_option relaxedAutoImplicit false

namespace StreamRelay

inductive Transport (Acceptor : Type) where
  | plaintext
  | tls (acceptor : Acceptor)

def Transport.isTls {Acceptor : Type} : Transport Acceptor → Bool
  | .plaintext => false
  | .tls _ => true

namespace Opening

inductive Note where
  | credentials (note : Tls.Credentials.Note)
  | binding (address : Net.SocketAddress)
  | listening (addr : String) (isTls : Bool)
deriving DecidableEq, Repr

def Note.entry? : Note → Option Entry
  | .credentials note => note.entry?
  | .binding _ => none
  | .listening addr isTls =>
    let word := if isTls then "tls" else "plaintext"
    some ⟨.listener, .info, s!"Listening on {addr} ({word})"⟩

structure Bound (Acceptor : Type) where
  transport : Transport Acceptor
  address : Net.SocketAddress

def transport {Acceptor : Type} (library : Tls.Library Acceptor) (files : Files)
    (settings : Settings) : Except Failure (Transport Acceptor) × List Note :=
  if settings.tlsEnabled then
    let (result, notes) :=
      Tls.Credentials.load library files settings.certFilePath settings.keyFilePath
    (result.map .tls, notes.map .credentials)
  else (.ok .plaintext, [])

/-- Bind the first address that `addr` names. -/
def bind (host : Net.Host) (addr : String) :
    Except RelayError Net.SocketAddress × List Note :=
  match Net.resolve host.directory addr with
  | .error fault =>
    let text := (RelayError.config (.unresolved addr fault)).message
    (.error (.bind addr (Net.invalidInput text)), [])
  | .ok address =>
    (match host.listen address with
      | .error error => .error (.bind addr error)
      | .ok () => .ok address, [.binding address])

def listen {Acceptor : Type} (library : Tls.Library Acceptor) (files : Files) (host : Net.Host)
    (settings : Settings) : Except Failure (Bound Acceptor) × List Note :=
  match transport library files settings with
  | (.error failure, notes) => (.error failure, notes)
  | (.ok transport, notes) =>
    match bind host settings.listenAddr with
    | (.error error, more) => (.error (.error error), notes ++ more)
    | (.ok address, more) =>
      (.ok ⟨transport, address⟩,
        notes ++ more ++ [.listening settings.listenAddr transport.isTls])

def log (notes : List Note) : Log := notes.filterMap Note.entry?

end Opening

namespace Relay

/-- The relay that settings describe, before its first connection. -/
def ofSettings (settings : Settings) : Relay where
  target := Net.dialTarget settings.backendAddr
  pool := .ofBytes settings.bufferSizeBytes

def forwarding (settings : Settings) : Entry :=
  ⟨.acceptLoop, .info, s!"Forwarding to {settings.backendAddr}"⟩

end Relay

end StreamRelay
