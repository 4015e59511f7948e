import StreamRelay.Buffer.Pool
import StreamRelay.IoError
import StreamRelay.Log

/-!
# The byte pump

A pump moves bytes from a source to a destination in one direction. It reads into its buffer,
writes what it has read completely, and reads again. When the source has no more to give, the
destination's write half is shut; when the destination takes no more, the source's read half is.

The pump is a machine: in each phase it makes one call, and an answer to that call takes it to the
next phase. Whether the session is cancelled is looked at whenever a poll begins and whenever the
pump starts to wait for a read, for the writing of a chunk or for the destination's shutdown; it
is not looked at between the writes of one chunk.
-/

set_option autoImplicit false
set_option relaxedAutoImplicit false

namespace StreamRelay

namespace Pump

inductive Exit where
  | eof
  | readError
  | writeError
  | cancelled
deriving DecidableEq, Repr

def Exit.word : Exit → String
  | .eof => "Eof"
  | .readError => "ReadError"
  | .writeError => "WriteError"
  | .cancelled => "Cancelled"

/-- What a pump asks of its connections; the last four go to the half-close controls. -/
inductive Call where
  | read (room : Nat)
  | write (data : Bytes)
  | flush
  | shutdown
  | closeWrite
  | closeDestination
  | closeRead
  | closeSource
deriving DecidableEq, Repr

/-- A read brings no bytes at the end of the source, and a write tells how many were taken. -/
abbrev Call.Answer : Call → Type
  | .read _ => Except IoError Bytes
  | .write _ => Except IoError Nat
  | _ => Except IoError Unit

inductive Note where
  | sourceEnded
  | readFailed (level : Level) (error : IoError)
  | writeFailed (level : Level) (error : IoError)
  | stopped (total : Nat) (exit : Exit)
deriving DecidableEq, Repr

def Note.entry (label : String) : Note → Entry
  | .sourceEnded => ⟨.pump, .debug, s!"{label}: source closed connection"⟩
  | .readFailed level error => ⟨.pump, level, s!"{label}: read error: {error.message}"⟩
  | .writeFailed level error => ⟨.pump, level, s!"{label}: write error: {error.message}"⟩
  | .stopped total exit =>
    ⟨.pump, .debug, s!"{label}: transferred {total} bytes total ({exit.word})"⟩

/-- Where a pump stands. A chunk has a size, and a number of its bytes are accepted already. -/
inductive Phase where
  | reading
  | writing (size accepted : Nat)
  | flushing (size : Nat)
  | shutting (exit : Exit)
  | endingDestination (exit : Exit)
  | closingDestination (exit : Exit)
  | endingSource
  | closingSource
  | stopped (exit : Exit)
deriving DecidableEq, Repr

end Pump

/-- A pump. Its total counts the chunks written completely; it is taken to stay below `2 ^ 64`. -/
structure Pump where
  sourceControl : Bool
  destinationControl : Bool
  buffer : Buffer
  total : Nat := 0
  phase : Pump.Phase := .reading
deriving DecidableEq, Repr

namespace Pump

def exit? (pump : Pump) : Option Exit :=
  match pump.phase with
  | .stopped exit => some exit
  | _ => none

def pending (pump : Pump) (size accepted : Nat) : Bytes :=
  (pump.buffer.bytes.take size).drop accepted

/-- The call that the pump waits for. -/
def call? (pump : Pump) : Option Call :=
  match pump.phase with
  | .reading => some (.read pump.buffer.size)
  | .writing size accepted => some (.write (pump.pending size accepted))
  | .flushing _ => some .flush
  | .shutting _ => some .shutdown
  | .endingDestination _ => some .closeWrite
  | .closingDestination _ => some .closeDestination
  | .endingSource => some .closeRead
  | .closingSource => some .closeSource
  | .stopped _ => none

def enter (pump : Pump) (phase : Phase) : Pump := { pump with phase }

/-- Look at the session's cancellation. It stops a pump that reads or writes; one that waits for the
destination's shutdown keeps its exit and leaves the controls alone. -/
def heed (pump : Pump) (cancelled : Bool) : Pump :=
  if cancelled then
    match pump.phase with
    | .reading | .writing _ _ | .flushing _ => pump.enter (.stopped .cancelled)
    | .shutting exit => pump.enter (.stopped exit)
    | _ => pump
  else pump

/-- Once the session is cancelled, failures come from the relay's own closing. Before that, a peer
that breaks a connection off matters more than one that is gone. -/
def failureLevel (error : IoError) (cancelled : Bool) : Level :=
  if cancelled then .trace
  else
    match error.kind with
    | .connectionReset | .connectionAborted => .info
    | .notConnected | .brokenPipe | .unexpectedEof => .debug
    | _ => .warn

def failWrite (pump : Pump) (cancelled : Bool) (error : IoError) :
    Pump × List Note :=
  (pump.enter (if pump.sourceControl then .endingSource else .stopped .writeError),
    [.writeFailed (failureLevel error cancelled) error])

def load (pump : Pump) (data : Bytes) : Pump :=
  { pump with buffer := { pump.buffer with
      bytes := data ++ pump.buffer.bytes.drop data.length } }

/-- Take the answer to the call that the pump waits for; any other answer is passed over. -/
def resume (pump : Pump) (cancelled : Bool) (call : Call) (answer : call.Answer) :
    Pump × List Note :=
  match pump.phase, call, answer with
  | .reading, .read _, .ok [] =>
    ((pump.enter (.shutting .eof)).heed cancelled, [.sourceEnded])
  | .reading, .read _, .ok (byte :: bytes) =>
    let data := byte :: bytes
    (((pump.load data).enter (.writing data.length 0)).heed cancelled, [])
  | .reading, .read _, .error error =>
    ((pump.enter (.shutting .readError)).heed cancelled,
      [.readFailed (failureLevel error cancelled) error])
  | .writing size accepted, .write _, .ok count =>
    if count = 0 then pump.failWrite cancelled (.bare .writeZero)
    else if accepted + count < size then (pump.enter (.writing size (accepted + count)), [])
    else (pump.enter (.flushing size), [])
  | .writing _ _, .write _, .error error => pump.failWrite cancelled error
  | .flushing size, .flush, .ok () =>
    (({ pump with total := pump.total + size }.enter .reading).heed cancelled, [])
  | .flushing _, .flush, .error error => pump.failWrite cancelled error
  | .shutting exit, .shutdown, .ok () => (pump.enter (.stopped exit), [])
  | .shutting exit, .shutdown, .error _ =>
    (pump.enter (if pump.destinationControl then .endingDestination exit else .stopped exit), [])
  | .endingDestination exit, .closeWrite, .ok () => (pump.enter (.stopped exit), [])
  | .endingDestination exit, .closeWrite, .error _ => (pump.enter (.closingDestination exit), [])
  | .closingDestination exit, .closeDestination, _ => (pump.enter (.stopped exit), [])
  | .endingSource, .closeRead, .ok () => (pump.enter (.stopped .writeError), [])
  | .endingSource, .closeRead, .error _ => (pump.enter .closingSource, [])
  | .closingSource, .closeSource, _ => (pump.enter (.stopped .writeError), [])
  | _, _, _ => (pump, [])

/-- A pump that begins to run borrows its buffer, if one can be allocated. -/
def start (pool : Pool) (sourceControl destinationControl : Bool) : Option Pump × Pool :=
  match pool.borrow with
  | (none, pool) => (none, pool)
  | (some buffer, pool) => (some { sourceControl, destinationControl, buffer }, pool)

end Pump

end StreamRelay
