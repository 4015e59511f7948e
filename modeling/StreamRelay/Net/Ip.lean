import StreamRelay.Number.Reading

/-!
# Numeric internet addresses

Addresses of both families with their printed forms. Version 4 is four decimal numbers; version 6
is eight groups of hexadecimal digits with the longest run of zero groups compressed, and an
address that embeds one of version 4 shows it in decimal.
-/

set_option autoImplicit false
set_option relaxedAutoImplicit false

namespace StreamRelay.Net

structure Ipv4 where
  a : UInt8
  b : UInt8
  c : UInt8
  d : UInt8
deriving DecidableEq, Repr

/-- An address of version 6: eight groups of sixteen bits. -/
structure Ipv6 where
  g0 : UInt16
  g1 : UInt16
  g2 : UInt16
  g3 : UInt16
  g4 : UInt16
  g5 : UInt16
  g6 : UInt16
  g7 : UInt16
deriving DecidableEq, Repr

def Ipv4.ofNat (n : Nat) : Ipv4 :=
  ⟨UInt8.ofNat (n / 0x1000000), UInt8.ofNat (n / 0x10000), UInt8.ofNat (n / 0x100), UInt8.ofNat n⟩

def Ipv6.groups (ip : Ipv6) : List UInt16 :=
  [ip.g0, ip.g1, ip.g2, ip.g3, ip.g4, ip.g5, ip.g6, ip.g7]

def Ipv6.ofGroups? : List UInt16 → Option Ipv6
  | [a, b, c, d, e, f, g, h] => some ⟨a, b, c, d, e, f, g, h⟩
  | _ => none

def Ipv4.groups (ip : Ipv4) : List UInt16 :=
  [UInt16.ofNat (ip.a.toNat * 256 + ip.b.toNat), UInt16.ofNat (ip.c.toNat * 256 + ip.d.toNat)]

def Ipv4.ofGroups (high low : UInt16) : Ipv4 :=
  ⟨UInt8.ofNat (high.toNat / 256), UInt8.ofNat high.toNat,
    UInt8.ofNat (low.toNat / 256), UInt8.ofNat low.toNat⟩

def splitAtAll (sep : Char) : List Char → List (List Char)
  | [] => [[]]
  | c :: cs =>
    if c = sep then [] :: splitAtAll sep cs
    else
      match splitAtAll sep cs with
      | [] => [[c]]
      | piece :: pieces => (c :: piece) :: pieces

/-- Read a decimal number below 256 without a leading zero. -/
def octet? (cs : List Char) : Option UInt8 :=
  if cs.length = 0 || 3 < cs.length || (cs.head? = some '0' && 1 < cs.length) then none
  else
    match Number.digits 255 .tooLarge cs with
    | .ok n => some (UInt8.ofNat n)
    | .error _ => none

def Ipv4.parse? (cs : List Char) : Option Ipv4 :=
  match splitAtAll '.' cs with
  | [a, b, c, d] => do return ⟨← octet? a, ← octet? b, ← octet? c, ← octet? d⟩
  | _ => none

def hexDigit? (c : Char) : Option Nat :=
  if '0' ≤ c && c ≤ '9' then some (c.toNat - '0'.toNat)
  else if 'a' ≤ c && c ≤ 'f' then some (c.toNat - 'a'.toNat + 10)
  else if 'A' ≤ c && c ≤ 'F' then some (c.toNat - 'A'.toNat + 10)
  else none

def hexFrom? (value : Nat) : List Char → Option Nat
  | [] => some value
  | c :: cs => do hexFrom? (value * 16 + (← hexDigit? c)) cs

/-- Read a group: one to four hexadecimal digits. -/
def group? (cs : List Char) : Option UInt16 :=
  if cs.length = 0 || 4 < cs.length then none else (hexFrom? 0 cs).map UInt16.ofNat

/-- Read groups from pieces of text; the last piece may be an address of version 4. -/
def groupsOf? : List (List Char) → Option (List UInt16)
  | [] => some []
  | [last] =>
    match Ipv4.parse? last with
    | some ip => some ip.groups
    | none => (group? last).map ([·])
  | piece :: pieces => do return (← group? piece) :: (← groupsOf? pieces)

def groupRun? (cs : List Char) : Option (List UInt16) :=
  if cs.isEmpty then some [] else groupsOf? (splitAtAll ':' cs)

def splitAtPair : List Char → Option (List Char × List Char)
  | ':' :: ':' :: cs => some ([], cs)
  | c :: cs => (splitAtPair cs).map fun (before, after) => (c :: before, after)
  | [] => none

/-- Eight groups, or fewer around a pair of colons; an address of version 4 may end them. -/
def Ipv6.parse? (cs : List Char) : Option Ipv6 :=
  match splitAtPair cs with
  | none => do Ipv6.ofGroups? (← groupRun? cs)
  | some (before, after) => do
    if before.contains '.' then none
    let front ← groupRun? before
    let back ← groupRun? after
    if 8 ≤ front.length + back.length then none
    Ipv6.ofGroups? (front ++ List.replicate (8 - front.length - back.length) 0 ++ back)

def decimal (n : Nat) : List Char := Nat.toDigits 10 n

def Ipv4.text (ip : Ipv4) : List Char :=
  decimal ip.a.toNat ++ '.' :: decimal ip.b.toNat ++ '.' :: decimal ip.c.toNat ++
    '.' :: decimal ip.d.toNat

/-- A run of zero groups: where it starts and how long it is. -/
structure ZeroRun where
  start : Nat
  length : Nat
deriving DecidableEq, Repr

def leadingZeros : List UInt16 → Nat
  | [] => 0
  | g :: gs => if g = 0 then leadingZeros gs + 1 else 0

/-- The longest run of zero groups in a list that starts at `at`; of several the leftmost. -/
def longestZeroRun (position : Nat) : List UInt16 → ZeroRun
  | [] => ⟨position, 0⟩
  | g :: gs =>
    let here := leadingZeros (g :: gs)
    let later := longestZeroRun (position + 1) gs
    if later.length ≤ here then ⟨position, here⟩ else later

def groupsText : List UInt16 → List Char
  | [] => []
  | [g] => Nat.toDigits 16 g.toNat
  | g :: gs => Nat.toDigits 16 g.toNat ++ ':' :: groupsText gs

def Ipv6.text (ip : Ipv6) : List Char :=
  if ip.g0 = 0 ∧ ip.g1 = 0 ∧ ip.g2 = 0 ∧ ip.g3 = 0 ∧ ip.g4 = 0 ∧ ip.g5 = 0xFFFF then
    ':' :: ':' :: 'f' :: 'f' :: 'f' :: 'f' :: ':' :: (Ipv4.ofGroups ip.g6 ip.g7).text
  else
    let run := longestZeroRun 0 ip.groups
    if 1 < run.length then
      groupsText (ip.groups.take run.start) ++
        ':' :: ':' :: groupsText (ip.groups.drop (run.start + run.length))
    else groupsText ip.groups

/-- An address of either family; one of version 6 may name the interface it belongs to. -/
inductive Ip where
  | v4 (ip : Ipv4)
  | v6 (ip : Ipv6) (scope : UInt32)
deriving DecidableEq, Repr

def Ip.isV6 : Ip → Bool
  | .v4 _ => false
  | .v6 _ _ => true

end StreamRelay.Net
