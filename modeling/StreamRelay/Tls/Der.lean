import StreamRelay.Bytes

set_option autoImplicit false
set_option relaxedAutoImplicit false

namespace StreamRelay.Tls

/-- An element: its tag, its content, and the bytes that it was read from. -/
structure Element where
  tag : UInt8
  content : Bytes
  encoded : Bytes
deriving DecidableEq, Repr

namespace Element

def readLength? : Bytes → Option (Nat × Bytes)
  | [] => none
  | b :: rest =>
    if b < 128 then some (b.toNat, rest)
    else
      let count := b.toNat - 128
      if count = 0 ∨ 8 < count ∨ rest.length < count then none
      else some (Bytes.number (rest.take count), rest.drop count)

def read? : Bytes → Option (Element × Bytes)
  | [] => none
  | tag :: rest => do
    if tag &&& 31 = 31 then none
    let (length, content) ← readLength? rest
    if content.length < length then none
    let size := 1 + rest.length - content.length + length
    some (⟨tag, content.take length, (tag :: rest).take size⟩, content.drop length)

def readAllIn? : Nat → Bytes → Option (List Element)
  | _, [] => some []
  | 0, _ :: _ => none
  | fuel + 1, bytes => do
    let (element, rest) ← read? bytes
    return element :: (← readAllIn? fuel rest)

def readAll? (bytes : Bytes) : Option (List Element) := readAllIn? bytes.length bytes

def only? (bytes : Bytes) : Option Element :=
  match read? bytes with
  | some (element, []) => some element
  | _ => none

def inside? (tag : UInt8) (element : Element) : Option (List Element) :=
  if element.tag = tag then readAll? element.content else none

def sequenceTag : UInt8 := 0x30

def setTag : UInt8 := 0x31

def sequence? (element : Element) : Option (List Element) := element.inside? sequenceTag

def set? (element : Element) : Option (List Element) := element.inside? setTag

/-- The value of a whole number that is not negative, without needless zeros in front. -/
def natural? (element : Element) : Option Nat :=
  match element.tag, element.content with
  | 2, [b] => if b < 128 then some b.toNat else none
  | 2, 0 :: b :: rest => if b < 128 then none else some (Bytes.number (b :: rest))
  | 2, b :: rest => if b < 128 then some (Bytes.number (b :: rest)) else none
  | _, _ => none

def octets? (element : Element) : Option Bytes :=
  if element.tag = 4 then some element.content else none

def bits? (element : Element) : Option Bytes :=
  match element.tag, element.content with
  | 3, 0 :: bytes => some bytes
  | _, _ => none

/-- The arcs behind the first two, read in groups of seven bits. -/
def arcs? (value : Nat) : Bytes → Option (List Nat)
  | [] => some []
  | [b] => if b < 128 then some [value * 128 + b.toNat] else none
  | b :: rest =>
    if b < 128 then (arcs? 0 rest).map ((value * 128 + b.toNat) :: ·)
    else arcs? (value * 128 + (b.toNat - 128)) rest

def identifier? (element : Element) : Option (List Nat) :=
  if element.tag = 6 ∧ !element.content.isEmpty then
    match arcs? 0 element.content with
    | some (first :: rest) =>
      if first < 40 then some (0 :: first :: rest)
      else if first < 80 then some (1 :: (first - 40) :: rest)
      else some (2 :: (first - 80) :: rest)
    | _ => none
  else none

end Element

end StreamRelay.Tls
