import StreamRelay.CommandLine.Flag
import StreamRelay.Number.Reading
import StreamRelay.Settings.Overrides

/-!
# Arguments

Reading the arguments of the command line from left to right. The value of a flag may be in its own
argument behind an equals sign, or be the argument after it unless that looks like a flag. A value
in an argument of its own is judged when the next flag comes, or at the end.
-/

set_option autoImplicit false
set_option relaxedAutoImplicit false

namespace StreamRelay.CommandLine

/-- The flags that were given, with their values. A path that is not Unicode has no place here. -/
structure Arguments where
  listen : Option String := none
  backend : Option String := none
  bufferSize : Option Int64 := none
  tlsEnabled : Bool := false
  certFilePath : Option String := none
  keyFilePath : Option String := none
  connectTimeout : Option Int64 := none
  logLevel : Option String := none
  configFile : Option String := none
deriving DecidableEq, Repr

def Arguments.overrides (arguments : Arguments) : Settings.Overrides where
  listenAddr := arguments.listen
  backendAddr := arguments.backend
  bufferSize := arguments.bufferSize
  tlsEnabled := if arguments.tlsEnabled then some true else none
  certFilePath := arguments.certFilePath
  keyFilePath := arguments.keyFilePath
  connectTimeout := arguments.connectTimeout
  logLevel := arguments.logLevel

inductive Request where
  | run (arguments : Arguments)
  | help
  | version
deriving DecidableEq, Repr

/-- Why arguments are refused. Some faults go with the flags that were given before. -/
inductive Fault where
  | unexpected (text : String) (given : List Flag)
  | noValue (flag : Flag)
  | badNumber (flag : Flag) (text : String) (fault : Number.Fault)
  | repeated (flag : Flag)
  | needlessValue (shown value : String) (given : List Flag)
deriving DecidableEq, Repr

/-- What was read so far, with a flag whose value is still to come or still to be judged. -/
structure Reading where
  arguments : Arguments := {}
  given : List Flag := []
  waiting : Option (Flag × Option String) := none
deriving DecidableEq, Repr

def Arguments.put (arguments : Arguments) : (flag : Flag) → flag.shape.Value → Arguments
  | .setting .listenAddr, text => { arguments with listen := some text }
  | .setting .backendAddr, text => { arguments with backend := some text }
  | .setting .bufferSize, value => { arguments with bufferSize := some value }
  | .setting .tlsEnabled, on => { arguments with tlsEnabled := on }
  | .setting .certFilePath, path => { arguments with certFilePath := some path }
  | .setting .keyFilePath, path => { arguments with keyFilePath := some path }
  | .setting .connectTimeout, value => { arguments with connectTimeout := some value }
  | .setting .logLevel, text => { arguments with logLevel := some text }
  | .configFile, path => { arguments with configFile := some path }

def judge (flag : Flag) (text : String) : Except Fault flag.shape.Value :=
  match flag.shape with
  | .text => .ok text
  | .path => if text.isEmpty then .error (.noValue flag) else .ok text
  | .switch => .ok true
  | .number => (Number.readSigned text.toList).mapError (.badNumber flag text)

namespace Reading

/-- A flag is given with a value. One whose value is refused counts as given. -/
def take (reading : Reading) (flag : Flag) (text : String) : Reading × Option Fault :=
  if reading.given.contains flag then (reading, some (.repeated flag))
  else
    let reading := { reading with given := reading.given ++ [flag] }
    match judge flag text with
    | .error fault => (reading, some fault)
    | .ok value => ({ reading with arguments := reading.arguments.put flag value }, none)

def settle (reading : Reading) : Reading × Option Fault :=
  match reading.waiting with
  | none => (reading, none)
  | some (flag, none) => ({ reading with waiting := none }, some (.noValue flag))
  | some (flag, some text) => { reading with waiting := none }.take flag text

def andThen (reading : Reading) (next : Reading → Except Fault Reading) : Except Fault Reading :=
  match reading.settle with
  | (_, some fault) => .error fault
  | (reading, none) => next reading

def takeNow (flag : Flag) (text : String) (reading : Reading) : Except Fault Reading :=
  match reading.take flag text with
  | (_, some fault) => .error fault
  | (reading, none) => .ok reading

def unexpected (text : String) (given : List Flag) : Except Fault Reading :=
  .error (.unexpected text given)

def flag (reading : Reading) (name : String) (value : Option String) : Except Fault Reading :=
  match Flag.named? name with
  | none => unexpected ("--" ++ name) reading.settle.1.given
  | some flag =>
    match flag.shape, value with
    | .switch, none => reading.andThen (takeNow flag "")
    | .switch, some value => .error (.needlessValue flag.shown value reading.given)
    | _, some value => reading.andThen (takeNow flag value)
    | _, none => reading.andThen fun reading => .ok { reading with waiting := some (flag, none) }

end Reading

def splitFlag (cs : List Char) : String × Option String :=
  let name := cs.takeWhile (· ≠ '=')
  match cs.drop name.length with
  | _ :: value => (String.ofList name, some (String.ofList value))
  | [] => (String.ofList name, none)

inductive Argument where
  | divider
  | flag (name : String) (value : Option String)
  | short (letter : Char)
  | plain (text : String)
deriving DecidableEq, Repr

def Argument.ofText (text : String) : Argument :=
  match text.toList with
  | ['-', '-'] => .divider
  | '-' :: '-' :: cs => .flag (splitFlag cs).1 (splitFlag cs).2
  | '-' :: c :: _ => .short c
  | _ => .plain text

def Reading.ask (reading : Reading) (request : Request) : Except Fault Request :=
  match reading.settle with
  | (_, some fault) => .error fault
  | (_, none) => .ok request

/-- Read the arguments that are left. Nothing may stand behind a divider. -/
def readFrom (reading : Reading) : List String → Except Fault Request
  | [] =>
    match reading.settle with
    | (_, some fault) => .error fault
    | (reading, none) => .ok (.run reading.arguments)
  | text :: rest =>
    match Argument.ofText text with
    | .divider =>
      match rest with
      | [] => readFrom reading []
      | text :: _ => .error (.unexpected text [])
    | .flag "help" none => reading.ask .help
    | .flag "version" none => reading.ask .version
    | .flag "help" (some value) => .error (.needlessValue "--help" value reading.given)
    | .flag "version" (some value) => .error (.needlessValue "--version" value reading.given)
    | .flag name value =>
      match reading.flag name value with
      | .error fault => .error fault
      | .ok reading => readFrom reading rest
    | .short 'h' => reading.ask .help
    | .short 'V' => reading.ask .version
    | .short letter => .error (.unexpected (String.ofList ['-', letter]) [])
    | .plain text =>
      match reading.waiting with
      | some (flag, none) => readFrom { reading with waiting := some (flag, some text) } rest
      | _ => .error (.unexpected text [])

def read (texts : List String) : Except Fault Request := readFrom {} texts

end StreamRelay.CommandLine
