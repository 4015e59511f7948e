import StreamRelay.Json.Scalar
import StreamRelay.Settings.Overrides

/-!
# Settings in JSON

A source in JSON is an object whose members are settings by name, or a list of values in the order
of the settings. No name may stand twice and none may be unknown; a value is `null`, which leaves
its setting unset, or of the setting's shape. A text of nothing but white space sets nothing.
-/

set_option autoImplicit false
set_option relaxedAutoImplicit false

namespace StreamRelay.Json

open Settings (Field Overrides Shape)

/-- A scalar of the wrong type is read first, so a fault inside it is reported instead. -/
def refuse {α : Type} (wanted : Wanted) (text : Bytes) : Except Fault α :=
  match text with
  | [] => faultNext .endInValue []
  | b :: rest =>
    if b = 'n'.toUInt8 then do
      let rest ← readWord [0x75, 0x6C, 0x6C] rest
      faultHere (.wrongType .null wanted) rest
    else if b = 't'.toUInt8 then do
      let rest ← readWord [0x72, 0x75, 0x65] rest
      faultHere (.wrongType (.boolean true) wanted) rest
    else if b = 'f'.toUInt8 then do
      let rest ← readWord [0x61, 0x6C, 0x73, 0x65] rest
      faultHere (.wrongType (.boolean false) wanted) rest
    else if b = '-'.toUInt8 || isDigit b then do
      let (numeral, rest) ← readNumeral text
      match numeral with
      | .natural n => faultHere (.wrongType (.integer n) wanted) rest
      | .negative n => faultHere (.wrongType (.integer (-(n : Int))) wanted) rest
      | .real x => faultHere (.wrongType (.float x) wanted) rest
    else if b = '"'.toUInt8 then do
      let (s, rest) ← readString rest
      faultHere (.wrongType (.text s) wanted) rest
    else if b = '['.toUInt8 then faultHere (.wrongType .sequence wanted) text
    else if b = 0x7B then faultHere (.wrongType .map wanted) text
    else faultNext .noValue text

def readText (shape : Shape) : Bytes → Except Fault (String × Bytes)
  | [] => faultNext .endInValue []
  | b :: rest =>
    if b = '"'.toUInt8 then do
      let (s, rest) ← readString rest
      return (String.ofList s, rest)
    else refuse (.value shape) (b :: rest)

def readSwitch : Bytes → Except Fault (Bool × Bytes)
  | [] => faultNext .endInValue []
  | b :: rest =>
    if b = 't'.toUInt8 then do
      let rest ← readWord [0x72, 0x75, 0x65] rest
      return (true, rest)
    else if b = 'f'.toUInt8 then do
      let rest ← readWord [0x61, 0x6C, 0x73, 0x65] rest
      return (false, rest)
    else refuse (.value .switch) (b :: rest)

def readNumber : Bytes → Except Fault (Int64 × Bytes)
  | [] => faultNext .endInValue []
  | b :: rest =>
    if b = '-'.toUInt8 || isDigit b then do
      let (numeral, after) ← readNumeral (b :: rest)
      match numeral with
      | .natural n =>
        if n < 0x8000000000000000 then .ok (Int64.ofNat n, after)
        else faultHere (.wrongValue n) after
      | .negative n => .ok (Int64.ofInt (-(n : Int)), after)
      | .real x => faultHere (.wrongType (.float x) (.value .number)) after
    else refuse (.value .number) (b :: rest)

def readShape : (shape : Shape) → Bytes → Reading shape.Value
  | .text => readText .text
  | .path => readText .path
  | .switch => readSwitch
  | .number => readNumber

def readValue (shape : Shape) (text : Bytes) :
    Except Fault (Option shape.Value × Bytes) :=
  match skipSpace text with
  | [] => faultNext .endInValue []
  | b :: rest =>
    if b = 'n'.toUInt8 then do
      let rest ← readWord [0x75, 0x6C, 0x6C] rest
      return (none, rest)
    else do
      let (value, rest) ← readShape shape (b :: rest)
      return (some value, rest)

def readColon (text : Bytes) : Except Fault Bytes :=
  match skipSpace text with
  | [] => faultNext .endInObject []
  | b :: rest => if b = ':'.toUInt8 then .ok rest else faultNext .noColon (b :: rest)

/-- A fault of a key is placed where the object could go on. -/
def faultAfterKey {α : Type} (cause : Cause) (text : Bytes) : Except Fault α :=
  match skipSpace text with
  | [] => faultHere cause []
  | b :: rest => if b = 0x7D then faultHere cause rest else faultHere cause (b :: rest)

/-- Pass over what stands before the next key, or over the end; the flag tells that a key follows.
-/
def nextKey (first : Bool) (text : Bytes) : Except Fault (Bool × Bytes) :=
  match skipSpace text with
  | [] => faultNext .endInObject []
  | b :: rest =>
    if b = 0x7D then .ok (false, rest)
    else if first then
      if b = '"'.toUInt8 then .ok (true, rest) else faultNext .keyNotString (b :: rest)
    else if b = ','.toUInt8 then
      match skipSpace rest with
      | [] => faultNext .endInValue []
      | b :: rest =>
        if b = '"'.toUInt8 then .ok (true, rest)
        else if b = 0x7D then faultNext .trailingComma (b :: rest)
        else faultNext .keyNotString (b :: rest)
    else faultNext .noCommaOrBrace (b :: rest)

/-- Read the members of an object. `free` holds the settings that have not been named yet. -/
def readMembers (first : Bool) (free : List Field) (o : Overrides) (text : Bytes) :
    Except Fault (Overrides × Bytes) := do
  match ← nextKey first text with
  | (false, rest) => return (o, rest)
  | (true, text) =>
    let (key, text) ← readString text
    match Field.named? (String.ofList key) with
    | none => faultAfterKey (.unknownField key) text
    | some field =>
      if _h : field ∈ free then
        let text ← readColon text
        let (value, text) ← readValue field.shape text
        readMembers false (free.erase field) (o.set field value) text
      else faultAfterKey (.duplicateField field) text
termination_by free.length
decreasing_by
  have := List.length_erase_of_mem _h
  have := List.length_pos_of_mem _h
  omega

def readListEnd (o : Overrides) (text : Bytes) : Reading Overrides :=
  match skipSpace text with
  | [] => faultNext .endInList []
  | b :: rest =>
    if b = ']'.toUInt8 then .ok (o, rest)
    else if b = ','.toUInt8 then
      match skipSpace rest with
      | [] => faultNext .trailingCharacters []
      | b :: rest =>
        if b = ']'.toUInt8 then faultNext .trailingComma (b :: rest)
        else faultNext .trailingCharacters (b :: rest)
    else faultNext .trailingCharacters (b :: rest)

def readElements (first : Bool) (o : Overrides) :
    List Field → Bytes → Except Fault (Overrides × Bytes)
  | [], text => readListEnd o text
  | field :: fields, text =>
    match skipSpace text with
    | [] => faultNext .endInList []
    | b :: rest =>
      if b = ']'.toUInt8 then .ok (o, rest)
      else if first then do
        let (value, text) ← readValue field.shape (b :: rest)
        readElements false (o.set field value) fields text
      else if b = ','.toUInt8 then
        match skipSpace rest with
        | [] => faultNext .endInValue []
        | b :: rest =>
          if b = ']'.toUInt8 then faultNext .trailingComma (b :: rest)
          else do
            let (value, text) ← readValue field.shape (b :: rest)
            readElements false (o.set field value) fields text
      else faultNext .noCommaOrBracket (b :: rest)

def readRecord (text : Bytes) : Reading Overrides :=
  match skipSpace text with
  | [] => faultNext .endInValue []
  | b :: rest =>
    if b = 0x7B then readMembers true Field.all .unset rest
    else if b = '['.toUInt8 then readElements true .unset Field.all rest
    else refuse .record (b :: rest)

def isAsciiSpace (b : UInt8) : Bool := isSpace b || b = 0x0C

def readOverrides (text : Bytes) : Except Fault Overrides :=
  if text.all isAsciiSpace then .ok .unset
  else do
    let (o, rest) ← readRecord text
    match skipSpace rest with
    | [] => return o
    | rest => faultNext .trailingCharacters rest

end StreamRelay.Json
