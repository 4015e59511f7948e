import StreamRelay.Json.Fault
import StreamRelay.Text.Utf8

/-!
# Reading JSON scalars

Words, numbers and strings, each read off the front of the text that is left. Strings may hold any
escape spelling; bytes that are no UTF-8 are reported only when the string is complete otherwise.
-/

set_option autoImplicit false
set_option relaxedAutoImplicit false

namespace StreamRelay.Json

/-- What a reader gives: a value with the bytes behind it, or a fault. -/
abbrev Reading (α : Type) := Except Fault (α × Bytes)

def faultHere {α : Type} (cause : Cause) (rest : Bytes) : Except Fault α :=
  .error ⟨cause, rest.length⟩

def faultNext {α : Type} (cause : Cause) (rest : Bytes) : Except Fault α :=
  .error ⟨cause, rest.length - 1⟩

def isSpace (b : UInt8) : Bool := b = 0x20 || b = 0x09 || b = 0x0A || b = 0x0D

def skipSpace (text : Bytes) : Bytes := text.dropWhile isSpace

def readWord : Bytes → Bytes → Except Fault Bytes
  | [], text => .ok text
  | _ :: _, [] => faultHere .endInValue []
  | letter :: word, b :: text =>
    if b = letter then readWord word text else faultHere .badWord text

def isDigit (b : UInt8) : Bool := '0'.toUInt8 ≤ b && b ≤ '9'.toUInt8

def digitValue (b : UInt8) : Nat := b.toNat - '0'.toNat

/-- A number as it is read. All but whole numbers of 64 bits, minus zero among them, are doubles. -/
inductive Numeral where
  | natural (value : Nat)
  | negative (value : Nat)
  | real (value : Float)
deriving Repr

/-- Collect the digits of the whole part while they fit into 64 bits; count those that do not. -/
def wholeDigits (value dropped : Nat) : Bytes → Nat × Nat × Bytes
  | [] => (value, dropped, [])
  | b :: text =>
    if isDigit b then
      if dropped = 0 && value * 10 + digitValue b < 0x10000000000000000 then
        wholeDigits (value * 10 + digitValue b) 0 text
      else wholeDigits value (dropped + 1) text
    else (value, dropped, b :: text)

/-- Collect digits while the number fits into 64 bits; the second result counts those collected. -/
def fractionDigits (value places : Nat) (full : Bool) : Bytes → Nat × Nat × Bytes
  | [] => (value, places, [])
  | b :: text =>
    if isDigit b then
      if !full && value * 10 + digitValue b < 0x10000000000000000 then
        fractionDigits (value * 10 + digitValue b) (places + 1) false text
      else fractionDigits value places true text
    else (value, places, b :: text)

def signed (negative : Bool) (magnitude : Float) : Float :=
  if negative then -magnitude else magnitude

/-- Divide by `10 ^ n` in steps of at most `10 ^ 308`, `fuel` of them at most. -/
def divideByTens (x : Float) (n : Nat) : Nat → Float
  | 0 => x
  | fuel + 1 =>
    if n ≤ 308 then x / Float.ofScientific 1 false n
    else if x == 0.0 then x
    else divideByTens (x / Float.ofScientific 1 false 308) (n - 308) fuel

/-- The double `value * 10 ^ exponent`, computed in doubles; none when it is infinite. -/
def scaled? (value : Nat) (exponent : Int) : Option Float :=
  let x := Float.ofNat value
  if exponent < 0 then some (divideByTens x exponent.natAbs (exponent.natAbs / 308 + 1))
  else if exponent ≤ 308 then
    let y := x * Float.ofScientific 1 false exponent.toNat
    if y.isInf then none else some y
  else if x == 0.0 then some x
  else none

/-- A real number from its digits and its power of ten. -/
def realNumeral (negative : Bool) (value : Nat) (exponent : Int) (text : Bytes) :
    Reading Numeral :=
  match scaled? value exponent with
  | some x => .ok (.real (signed negative x), text)
  | none => faultHere .numberOutOfRange text

def exponentDigits (value : Nat) : Bytes → Nat × Bool × Bytes
  | [] => (value, false, [])
  | b :: text =>
    if isDigit b then
      if value * 10 + digitValue b < 0x80000000 then exponentDigits (value * 10 + digitValue b) text
      else (value, true, text)
    else (value, false, b :: text)

/-- Read what stands behind the letter of an exponent; `scale` is the power of ten so far. -/
def readExponent (negative : Bool) (value : Nat) (scale : Int) (text : Bytes) : Reading Numeral :=
  let (down, text) :=
    match text with
    | b :: rest =>
      if b = '+'.toUInt8 then (false, rest) else if b = '-'.toUInt8 then (true, rest)
      else (false, text)
    | [] => (false, text)
  match text with
  | [] => faultHere .endInValue []
  | b :: rest =>
    if !isDigit b then faultHere .badNumber rest
    else
      match exponentDigits (digitValue b) rest with
      | (_, true, rest) =>
        if value ≠ 0 && !down then faultHere .numberOutOfRange rest
        else .ok (.real (signed negative 0.0), rest.dropWhile isDigit)
      | (n, false, rest) =>
        realNumeral negative value (if down then scale - n else scale + n) rest

def readScale (negative : Bool) (value : Nat) (scale : Int) (text : Bytes) : Reading Numeral :=
  match text with
  | b :: rest =>
    if b = 'e'.toUInt8 || b = 'E'.toUInt8 then readExponent negative value scale rest
    else realNumeral negative value scale text
  | [] => realNumeral negative value scale text

def readFraction (negative : Bool) (value dropped : Nat) (text : Bytes) : Reading Numeral :=
  match text with
  | [] => faultNext .endInValue []
  | b :: _ =>
    if !isDigit b then faultNext .badNumber text
    else
      let (value, places, rest) := fractionDigits value 0 false text
      readScale negative value ((dropped : Int) - places) rest

/-- Read what follows the whole part of a number. -/
def readTail (negative : Bool) (value dropped : Nat) (text : Bytes) : Reading Numeral :=
  let whole : Reading Numeral :=
    if dropped ≠ 0 then realNumeral negative value dropped text
    else if !negative then .ok (.natural value, text)
    else if value = 0 || 0x8000000000000000 < value then .ok (.real (-(Float.ofNat value)), text)
    else .ok (.negative value, text)
  match text with
  | b :: rest =>
    if b = '.'.toUInt8 then readFraction negative value dropped rest
    else if b = 'e'.toUInt8 || b = 'E'.toUInt8 then readExponent negative value dropped rest
    else whole
  | [] => whole

def readMagnitude (negative : Bool) : Bytes → Reading Numeral
  | [] => faultHere .endInValue []
  | b :: text =>
    if !isDigit b then faultHere .badNumber text
    else if b = '0'.toUInt8 then
      if (text.head?.map isDigit).getD false then faultNext .badNumber text
      else readTail negative 0 0 text
    else
      let (value, dropped, rest) := wholeDigits (digitValue b) 0 text
      readTail negative value dropped rest

def readNumeral : Bytes → Reading Numeral
  | [] => faultHere .endInValue []
  | b :: text =>
    if b = '-'.toUInt8 then readMagnitude true text else readMagnitude false (b :: text)

def hexValue? (b : UInt8) : Option Nat :=
  if '0'.toUInt8 ≤ b && b ≤ '9'.toUInt8 then some (b.toNat - '0'.toNat)
  else if 'a'.toUInt8 ≤ b && b ≤ 'f'.toUInt8 then some (b.toNat - 'a'.toNat + 10)
  else if 'A'.toUInt8 ≤ b && b ≤ 'F'.toUInt8 then some (b.toNat - 'A'.toNat + 10)
  else none

def hexWord? (a b c d : UInt8) : Option Nat := do
  let a ← hexValue? a
  let b ← hexValue? b
  let c ← hexValue? c
  let d ← hexValue? d
  return ((a * 16 + b) * 16 + c) * 16 + d

def readHexWord : Bytes → Reading Nat
  | a :: b :: c :: d :: text =>
    match hexWord? a b c d with
    | some n => .ok (n, text)
    | none => faultHere .badEscape text
  | _ => faultHere .endInString []

/-- Read the second half of a surrogate pair whose first half is `high`. -/
def readPair (high : Nat) : Bytes → Reading Char
  | [] => faultHere .endInString []
  | [b] =>
    if b = '\\'.toUInt8 then faultHere .endInString [] else faultHere .brokenPair []
  | a :: b :: text =>
    if a ≠ '\\'.toUInt8 then faultHere .brokenPair (b :: text)
    else if b ≠ 'u'.toUInt8 then faultHere .brokenPair text
    else
      match readHexWord text with
      | .error fault => .error fault
      | .ok (low, rest) =>
        if 0xDC00 ≤ low && low < 0xE000 then
          .ok (Char.ofNat (0x10000 + (high - 0xD800) * 0x400 + (low - 0xDC00)), rest)
        else faultHere .loneSurrogate rest

def readCodePoint (text : Bytes) : Reading Char :=
  match readHexWord text with
  | .error fault => .error fault
  | .ok (n, rest) =>
    if 0xDC00 ≤ n && n < 0xE000 then faultHere .loneSurrogate rest
    else if 0xD800 ≤ n && n < 0xDC00 then readPair n rest
    else .ok (Char.ofNat n, rest)

def readEscape : Bytes → Reading Char
  | [] => faultHere .endInString []
  | b :: text =>
    if b = '"'.toUInt8 then .ok ('"', text)
    else if b = '\\'.toUInt8 then .ok ('\\', text)
    else if b = '/'.toUInt8 then .ok ('/', text)
    else if b = 'b'.toUInt8 then .ok (Char.ofNat 0x08, text)
    else if b = 'f'.toUInt8 then .ok (Char.ofNat 0x0C, text)
    else if b = 'n'.toUInt8 then .ok ('\n', text)
    else if b = 'r'.toUInt8 then .ok ('\r', text)
    else if b = 't'.toUInt8 then .ok ('\t', text)
    else if b = 'u'.toUInt8 then readCodePoint text
    else faultHere .badEscape text

private theorem length_le_of_readHexWord {text rest : Bytes} {n : Nat}
    (h : readHexWord text = .ok (n, rest)) : rest.length ≤ text.length := by
  unfold readHexWord at h
  split at h
  · split at h
    · obtain ⟨-, rfl⟩ := Prod.mk.inj (Except.ok.inj h)
      simp only [List.length_cons]
      omega
    · cases h
  · cases h

private theorem length_le_of_readPair {high : Nat} {text rest : Bytes} {c : Char}
    (h : readPair high text = .ok (c, rest)) : rest.length ≤ text.length := by
  unfold readPair at h
  split at h
  · cases h
  · split at h <;> cases h
  · split at h
    · cases h
    · split at h
      · cases h
      · split at h
        · cases h
        · rename_i hw
          have := length_le_of_readHexWord hw
          split at h
          · obtain ⟨-, rfl⟩ := Prod.mk.inj (Except.ok.inj h)
            simp only [List.length_cons]
            omega
          · cases h

private theorem length_le_of_readEscape {text rest : Bytes} {c : Char}
    (h : readEscape text = .ok (c, rest)) : rest.length ≤ text.length := by
  unfold readEscape at h
  split at h
  · cases h
  · rename_i b tail
    have done : ∀ {d : Char}, (Except.ok (d, tail) : Reading Char) = .ok (c, rest) →
        rest.length ≤ (b :: tail).length := by
      intro d e
      obtain ⟨-, rfl⟩ := Prod.mk.inj (Except.ok.inj e)
      simp
    repeat (first | exact done h | (split at h; exact done h))
    split at h
    · unfold readCodePoint at h
      split at h
      · cases h
      · rename_i hw
        have hle := length_le_of_readHexWord hw
        split at h
        · cases h
        · split at h
          · have := length_le_of_readPair h
            simp only [List.length_cons]
            omega
          · obtain ⟨-, rfl⟩ := Prod.mk.inj (Except.ok.inj h)
            simp only [List.length_cons]
            omega
    · cases h

def consChar (c : Char) : Reading (List Char) → Reading (List Char)
  | .ok (cs, rest) => .ok (c :: cs, rest)
  | .error fault => .error fault

/-- Read a string. A byte that is no UTF-8, first met at `bad`, is reported at the closing quote. -/
def readStringFrom (bad : Option Nat) : Bytes → Reading (List Char)
  | [] => faultHere .endInString []
  | b :: text =>
    if b = '"'.toUInt8 then
      match bad with
      | some left => .error ⟨.badCodePoint, left⟩
      | none => .ok ([], text)
    else if b = '\\'.toUInt8 then
      match _h : readEscape text with
      | .error fault => .error fault
      | .ok (c, rest) => consChar c (readStringFrom bad rest)
    else if b < 0x20 then faultHere .controlCharacter text
    else
      match _h : Text.Utf8.charAt? b text with
      | some (c, rest) => consChar c (readStringFrom bad rest)
      | none => readStringFrom (bad <|> some text.length) text
termination_by text => text.length
decreasing_by
  · have := length_le_of_readEscape _h
    simp only [List.length_cons]
    omega
  · have := Text.Utf8.length_le_of_charAt? _h
    simp only [List.length_cons]
    omega
  · simp

def readString (text : Bytes) : Reading (List Char) := readStringFrom none text

end StreamRelay.Json
