import StreamRelay.Pump.Poll

/-!
# Rehearsals of a pump

A script says what a source and a destination do, poll by poll. A rehearsal runs a pump between
them until it stops, or until it waits for something that the script never brings; then the
rehearsal steps in as the script says.
-/

set_option autoImplicit false
set_option relaxedAutoImplicit false

namespace StreamRelay.Pump

/-- An entry of a script: cancel and go on, have no answer in this poll or ever, or answer. -/
inductive Cue (α : Type) where
  | cancel
  | pause
  | hang
  | answer (result : α)
deriving Repr

inductive Turn (α : Type) where
  | ready (result : α)
  | paused
  | hung

/-- One poll of a scripted stream. One whose cues are used up goes on with `last`. -/
def Cue.next {α : Type} (last : α) : List (Cue α) → Bool × Turn α × List (Cue α)
  | [] => (false, .ready last, [])
  | .cancel :: cues =>
    let (_, turn, cues) := Cue.next last cues
    (true, turn, cues)
  | .pause :: cues => (false, .paused, cues)
  | .hang :: cues => (false, .hung, .hang :: cues)
  | .answer result :: cues => (false, .ready result, cues)

inductive Appetite where
  | upTo (count : Nat)
  | all
deriving DecidableEq, Repr

/-- The root scope that rehearsals share, a child of it, or one of the rehearsal's own. -/
inductive Scope where
  | root
  | child
  | own
deriving DecidableEq, Repr

/-- No control, one that remembers which halves it shut, or one whose connection is gone. -/
inductive Control where
  | absent
  | live (readShut writeShut : Bool)
  | dead
deriving DecidableEq, Repr

def Control.present : Control → Bool
  | .absent => false
  | _ => true

def Control.shut (control : Control) (read write : Bool) : Except IoError Unit × Control :=
  match control with
  | .live readShut writeShut => (.ok (), .live (readShut || read) (writeShut || write))
  | control => (.error (.system 107), control)

inductive Rescue where
  | cancelScope
  | cancelRoot
  | abandon
deriving DecidableEq, Repr

structure Script where
  reader : List (Cue (Except IoError Bytes)) := []
  writer : List (Cue (Except IoError Appetite)) := []
  flushes : List (Cue (Except IoError Unit)) := []
  shutdowns : List (Cue (Except IoError Unit)) := []
  label : String := "t"
  source : Control := .absent
  destination : Control := .absent
  scope : Scope := .own
  cancelled : Bool := false
  rescue : Rescue := .cancelScope
deriving Repr

inductive Deed where
  | read (room : Nat) (count : Option Nat)
  | write (size : Nat) (count : Option Nat)
  | flush (succeeded : Bool)
  | shutdown (succeeded : Bool)
deriving DecidableEq, Repr

/-- A rehearsal in progress; the deeds and the pieces that were taken come newest first. -/
structure Stage where
  script : Script
  rootCancelled : Bool
  ownCancelled : Bool := false
  awake : Bool := false
  deeds : List Deed := []
  pieces : List Bytes := []

def Stage.cancelled (stage : Stage) : Bool :=
  match stage.script.scope with
  | .root => stage.rootCancelled
  | .child => stage.ownCancelled || stage.rootCancelled
  | .own => stage.ownCancelled

def Stage.cancel (stage : Stage) : Stage :=
  match stage.script.scope with
  | .root => { stage with rootCancelled := true }
  | _ => { stage with ownCancelled := true }

def Stage.written (stage : Stage) : Bytes := stage.pieces.reverse.flatten

def Stage.note {α β : Type} (stage : Stage) (cancels : Bool) (turn : Turn α)
    (ready : Stage → α → β × Stage) : Option β × Stage :=
  let stage := if cancels then stage.cancel else stage
  match turn with
  | .ready result => let (answer, stage) := ready stage result; (some answer, stage)
  | .paused => (none, { stage with awake := true })
  | .hung => (none, stage)

def Stage.did (stage : Stage) (deed : Deed) : Stage :=
  { stage with deeds := deed :: stage.deeds }

def Stage.read (stage : Stage) (room : Nat) : Option (Except IoError Bytes) × Stage :=
  let (cancels, turn, cues) := Cue.next (.ok []) stage.script.reader
  let ready (stage : Stage) (result : Except IoError Bytes) :=
    match result with
    | .error error => (.error error, stage.did (.read room none))
    | .ok data =>
      let given := data.take room
      let left := data.drop room
      let script := { stage.script with
        reader := if left.isEmpty then cues else .answer (.ok left) :: cues }
      (.ok given, { stage with script }.did (.read room (some given.length)))
  { stage with script := { stage.script with reader := cues } }.note cancels turn ready

def Stage.write (stage : Stage) (data : Bytes) : Option (Except IoError Nat) × Stage :=
  let (cancels, turn, cues) := Cue.next (.ok .all) stage.script.writer
  let ready (stage : Stage) (result : Except IoError Appetite) :=
    match result with
    | .error error => (.error error, stage.did (.write data.length none))
    | .ok appetite =>
      let count := match appetite with
        | .upTo count => min count data.length
        | .all => data.length
      (.ok count,
        { stage with pieces := data.take count :: stage.pieces }.did
          (.write data.length (some count)))
  { stage with script := { stage.script with writer := cues } }.note cancels turn ready

def Stage.ended (deed : Bool → Deed) (stage : Stage) (result : Except IoError Unit) :
    Except IoError Unit × Stage :=
  (result, stage.did (deed result.isOk))

def Stage.flush (stage : Stage) : Option (Except IoError Unit) × Stage :=
  let (cancels, turn, cues) := Cue.next (.ok ()) stage.script.flushes
  { stage with script := { stage.script with flushes := cues } }.note cancels turn
    (Stage.ended .flush)

def Stage.shutdown (stage : Stage) : Option (Except IoError Unit) × Stage :=
  let (cancels, turn, cues) := Cue.next (.ok ()) stage.script.shutdowns
  { stage with script := { stage.script with shutdowns := cues } }.note cancels turn
    (Stage.ended .shutdown)

def Stage.shutDestination (stage : Stage) (read write : Bool) :
    Option (Except IoError Unit) × Stage :=
  let (result, destination) := stage.script.destination.shut read write
  (some result, { stage with script := { stage.script with destination } })

def Stage.shutSource (stage : Stage) (read write : Bool) :
    Option (Except IoError Unit) × Stage :=
  let (result, source) := stage.script.source.shut read write
  (some result, { stage with script := { stage.script with source } })

def stage : Surroundings Stage where
  cancelled := Stage.cancelled
  cancel := Stage.cancel
  respond := fun call w =>
    match call with
    | .read room => w.read room
    | .write data => w.write data
    | .flush => w.flush
    | .shutdown => w.shutdown
    | .closeWrite => w.shutDestination false true
    | .closeDestination => w.shutDestination true true
    | .closeRead => w.shutSource true false
    | .closeSource => w.shutSource true true

def Script.cues (script : Script) : Nat :=
  script.reader.length + script.writer.length + script.flushes.length + script.shutdowns.length

def Script.bytes (script : Script) : Nat :=
  script.reader.foldl (fun count cue =>
    match cue with
    | .answer (.ok data) => count + data.length
    | _ => count) 0

/-- No poll's answers exceed this number: each byte is read, written and flushed once at most. -/
def Script.budget (script : Script) : Nat := 3 * script.bytes + script.cues + 8

/-- Poll again after a pause, and when the scope was cancelled while the pump waited. -/
def Stage.run (stage : Stage) (budget : Nat) : Nat → Pump → Pump × List Note × Stage
  | 0, pump => (pump, [], stage)
  | fuel + 1, pump =>
    let (pump, notes, stage) := pump.poll Pump.stage budget { stage with awake := false }
    if pump.exit?.isSome || !(stage.awake || stage.cancelled) then (pump, notes, stage)
    else
      let (pump, more, stage) := stage.run budget fuel pump
      (pump, notes ++ more, stage)

structure Stall where
  stats : PoolStats
  written : Bytes

structure Performance where
  pump : Pump
  notes : List Note
  stall : Option Stall
  stage : Stage

def Performance.log (performance : Performance) : Log :=
  performance.notes.map (Note.entry performance.stage.script.label)

def Script.perform (script : Script) (rootCancelled : Bool) (pool : Pool) :
    Option Performance × Pool :=
  let stage : Stage := { script, rootCancelled }
  let stage := if script.cancelled then stage.cancel else stage
  match Pump.start pool script.source.present script.destination.present with
  | (none, pool) => (none, pool)
  | (some pump, pool) =>
    let polls := script.cues + 2
    let (pump, notes, stage) := stage.run script.budget polls pump
    if pump.exit?.isSome then (some ⟨pump, notes, none, stage⟩, pool.release pump.buffer)
    else
      let stall : Stall := ⟨pool.stats, stage.written⟩
      let (pump, more, stage) := match script.rescue with
        | .cancelScope => stage.cancel.run script.budget polls pump
        | .cancelRoot => { stage with rootCancelled := true }.run script.budget polls pump
        | .abandon => (pump, [], stage)
      (some ⟨pump, notes ++ more, some stall, stage⟩, pool.release pump.buffer)

end StreamRelay.Pump
