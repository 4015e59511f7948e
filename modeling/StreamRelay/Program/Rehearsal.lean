import StreamRelay.Program
import StreamRelay.Relay.Rehearsal

/-!
# Rehearsals of the program

A rehearsal plays the program from its arguments to its end on a host where no client comes, and
keeps what it writes. A program that accepts ends when it is asked to stop.
-/

set_option autoImplicit false
set_option relaxedAutoImplicit false

namespace StreamRelay.Program

inductive Line where
  | entry (entry : Entry)
  | text (text : String)
deriving DecidableEq, Repr

/-- What the program writes, and the code that it ends with; one that does not end has none. -/
structure Transcript where
  output : List String := []
  errors : List Line := []
  code : Option Nat
deriving DecidableEq, Repr

/-- The entries that pass a filter, behind the warnings about the filter. -/
def shown (filter : Log.Filter × List String) (log : Log) : List Line :=
  filter.2.map .text ++ (log.filter filter.1.admits).map .entry

def failed (filter : Log.Filter × List String) (log : Log) (error : RelayError) : Transcript where
  errors := shown filter log ++ [.text (failureLine error)]
  code := some 1

def shutdownLog (host : Net.Host) (s : Settings) (signal : Signal) : Log :=
  let rehearsal : Relay.Rehearsal := { host, relay := Relay.ofSettings s }
  signal.entry :: (rehearsal.move .cancel).settle.notes.map Relay.Note.entry ++ [allClosed]

def performWith (files : Files) (host : Net.Host) (env : Settings.Environment) (s : Settings)
    (signal : Option Signal) : Transcript :=
  let filter := filter env s.logLevel.name
  match start files host s with
  | (.error .panic, log) => { errors := shown filter log, code := some panicCode }
  | (.error (.error error), log) => failed filter (log ++ [stopped error, allClosed]) error
  | (.ok _, log) =>
    match signal with
    | none => { errors := shown filter log, code := none }
    | some signal => { errors := shown filter (log ++ shutdownLog host s signal), code := some 0 }

def perform (files : Files) (host : Net.Host) (env : Settings.Environment)
    (texts : List String) (signal : Option Signal) : Transcript :=
  match CommandLine.read texts with
  | .error fault => { errors := fault.lines.map .text, code := some 2 }
  | .ok .help => { output := CommandLine.helpLines, code := some 0 }
  | .ok .version => { output := CommandLine.versionLines, code := some 0 }
  | .ok (.run arguments) =>
    match settings files env arguments with
    | .ok s => performWith files host env s signal
    | .error fault =>
      failed (filter env (startLevel arguments)) [misconfigured fault] (.config (.settings fault))

end StreamRelay.Program
