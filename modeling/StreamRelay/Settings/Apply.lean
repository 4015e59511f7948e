import StreamRelay.Files
import StreamRelay.Settings.Fault
import StreamRelay.Settings.Overrides
import StreamRelay.Settings.Record
import StreamRelay.Text.Blank
import StreamRelay.Text.Lowercase

/-!
# Taking over a source

A source is taken over setting by setting, in their order. A value is judged first: it may be no
value at all (a blank text, an empty path, an unknown level), a proper one, or a fault. The first
fault ends the source; what was taken over before it stays.
-/

set_option autoImplicit false
set_option relaxedAutoImplicit false

namespace StreamRelay.Settings

/-- An address in its normal form; a blank text is none. -/
def judgeAddress (text : String) : Except Fault (Option String) :=
  if Text.isBlankText text then .ok none
  else
    let addr := Text.trim text
    match Net.normalize addr with
    | .ok normal => .ok (some normal)
    | .error fault => .error (.badAddress addr fault)

def judgePositive (quantity : Quantity) (value : Int64) : Except Fault Nat :=
  if value.toInt ≤ 0 then .error (.notPositive quantity) else .ok value.toInt.toNat

def judgeBufferSize (value : Int64) : Except Fault (Option Nat) := do
  let size ← judgePositive .bufferSize value
  if maxBufferSize < size then .error (.bufferTooLarge size) else .ok (some size)

/-- The path of something that exists; an empty path is none. -/
def judgePath (files : Files) (role : Role) (path : String) : Except Fault (Option String) :=
  if path.isEmpty then .ok none
  else
    match files.exists path with
    | .ok () => .ok (some path)
    | .error error => .error (.noFile role path error)

/-- A level by its name in any case; a name that no level has is none. -/
def judgeLevel (text : String) : Option Level :=
  if Text.isBlankText text then none else Level.named? (Text.lowercase text)

/-- What a source's value for a setting comes to: nothing, a value for the record, or a fault. -/
def judge (files : Files) :
    (field : Field) → field.shape.Value → Except Fault (Option field.Setting)
  | .listenAddr, text => judgeAddress text
  | .backendAddr, text => judgeAddress text
  | .bufferSize, value => judgeBufferSize value
  | .tlsEnabled, value => .ok (some value)
  | .certFilePath, path => judgePath files .certificate path
  | .keyFilePath, path => judgePath files .key path
  | .connectTimeout, value => (judgePositive .connectTimeout value).map some
  | .logLevel, text => .ok (judgeLevel text)

def remark (s : Settings) : (field : Field) → field.shape.Value → Log
  | .logLevel, text =>
    if Text.isBlankText text || (judgeLevel text).isSome then []
    else [⟨.settings, .warn,
      s!"Invalid log level: {Text.lowercase text}. Keeping: {s.logLevel.name}"⟩]
  | _, _ => []

/-- A record as far as a source was taken over, and the fault that ended that. -/
structure Applied where
  settings : Settings
  log : Log
  fault : Option Fault
deriving Repr

def applyField (files : Files) (o : Overrides) (s : Settings) (field : Field) :
    Except Fault (Settings × Log) :=
  match o.get field with
  | none => .ok (s, [])
  | some value =>
    match judge files field value with
    | .error fault => .error fault
    | .ok none => .ok (s, s.remark field value)
    | .ok (some setting) => .ok (s.put field setting, [])

def applyFields (files : Files) (o : Overrides) : List Field → Settings → Applied
  | [], s => ⟨s, [], none⟩
  | field :: fields, s =>
    match applyField files o s field with
    | .error fault => ⟨s, [], some fault⟩
    | .ok (s, log) =>
      let rest := applyFields files o fields s
      { rest with log := log ++ rest.log }

def apply (files : Files) (o : Overrides) (s : Settings) : Applied :=
  applyFields files o Field.all s

def validate (s : Settings) : Except Fault Unit :=
  if s.listenAddr = s.backendAddr then .error .sameAddresses
  else if s.bufferSize = 0 then .error (.notPositive .bufferSize)
  else if maxBufferSize < s.bufferSize then .error .bufferOversized
  else if s.connectTimeout = 0 then .error (.notPositive .connectTimeout)
  else .ok ()

def applyAll (files : Files) : List Overrides → Settings → Applied
  | [], s => ⟨s, [], none⟩
  | o :: sources, s =>
    let applied := apply files o s
    match applied.fault with
    | some _ => applied
    | none =>
      let rest := applyAll files sources applied.settings
      { rest with log := applied.log ++ rest.log }

/-- The record that the defaults and some sources come to, later sources winning. -/
def resolve (files : Files) (sources : List Overrides) : Except Fault Settings × Log :=
  let applied := applyAll files sources default
  match applied.fault with
  | some fault => (.error fault, applied.log)
  | none => (applied.settings.validate.map fun () => applied.settings, applied.log)

end StreamRelay.Settings
