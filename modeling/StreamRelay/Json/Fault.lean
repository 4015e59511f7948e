import StreamRelay.Bytes
import StreamRelay.Number.Shortest
import StreamRelay.Settings.Field
import StreamRelay.Text.Quoted

set_option autoImplicit false
set_option relaxedAutoImplicit false

namespace StreamRelay.Json

inductive Found where
  | null
  | boolean (value : Bool)
  | integer (value : Int)
  | float (value : Float)
  | text (value : List Char)
  | sequence
  | map
deriving Repr

def Found.message : Found → String
  | .null => "null"
  | .boolean true => "boolean `true`"
  | .boolean false => "boolean `false`"
  | .integer value => s!"integer `{value}`"
  | .float value => s!"floating point `{Number.floatText value}`"
  | .text value => s!"string {Text.quoted (String.ofList value)}"
  | .sequence => "sequence"
  | .map => "map"

inductive Wanted where
  | record
  | value (shape : Settings.Shape)
deriving DecidableEq, Repr

def Wanted.message : Wanted → String
  | .record => "struct ConfigOverrides"
  | .value .text => "a string"
  | .value .path => "path string"
  | .value .switch => "a boolean"
  | .value .number => "i64"

inductive Cause where
  | endInObject
  | endInList
  | endInString
  | endInValue
  | keyNotString
  | noCommaOrBrace
  | noCommaOrBracket
  | trailingComma
  | trailingCharacters
  | noColon
  | badWord
  | noValue
  | badNumber
  | numberOutOfRange
  | controlCharacter
  | badEscape
  | loneSurrogate
  | brokenPair
  | badCodePoint
  | unknownField (name : List Char)
  | duplicateField (field : Settings.Field)
  | wrongType (found : Found) (wanted : Wanted)
  | wrongValue (value : Nat)
deriving Repr

def fieldList : String := ", ".intercalate (Settings.Field.all.map fun field => s!"`{field.name}`")

def Cause.message : Cause → String
  | .endInObject => "EOF while parsing an object"
  | .endInList => "EOF while parsing a list"
  | .endInString => "EOF while parsing a string"
  | .endInValue => "EOF while parsing a value"
  | .keyNotString => "key must be a string"
  | .noCommaOrBrace => "expected `,` or `\x7d`"
  | .noCommaOrBracket => "expected `,` or `]`"
  | .trailingComma => "trailing comma"
  | .trailingCharacters => "trailing characters"
  | .noColon => "expected `:`"
  | .badWord => "expected ident"
  | .noValue => "expected value"
  | .badNumber => "invalid number"
  | .numberOutOfRange => "number out of range"
  | .controlCharacter => "control character (\\u0000-\\u001F) found while parsing a string"
  | .badEscape => "invalid escape"
  | .loneSurrogate => "lone leading surrogate in hex escape"
  | .brokenPair => "unexpected end of hex escape"
  | .badCodePoint => "invalid unicode code point"
  | .unknownField name =>
    s!"unknown field `{String.ofList name}`, expected one of {fieldList}"
  | .duplicateField field => s!"duplicate field `{field.name}`"
  | .wrongType found wanted => s!"invalid type: {found.message}, expected {wanted.message}"
  | .wrongValue value => s!"invalid value: integer `{value}`, expected i64"

/-- A cause together with the number of bytes that were left unread at its place. -/
structure Fault where
  cause : Cause
  left : Nat
deriving Repr

structure Position where
  line : Nat
  column : Nat
deriving DecidableEq, Repr

def Position.after (start : Position) : Bytes → Position
  | [] => start
  | b :: rest =>
    if b = '\n'.toUInt8 then Position.after ⟨start.line + 1, 0⟩ rest
    else Position.after ⟨start.line, start.column + 1⟩ rest

def Fault.position (fault : Fault) (text : Bytes) : Position :=
  Position.after ⟨1, 0⟩ (text.take (text.length - fault.left))

def Fault.message (fault : Fault) (text : Bytes) : String :=
  let place := fault.position text
  s!"{fault.cause.message} at line {place.line} column {place.column}"

end StreamRelay.Json
