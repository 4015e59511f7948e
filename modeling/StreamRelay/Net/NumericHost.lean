import StreamRelay.Net.Ip

set_option autoImplicit false
set_option relaxedAutoImplicit false

namespace StreamRelay.Net

def lowBaseFrom? (base value : Nat) : List Char → Option Nat
  | [] => some value
  | c :: cs =>
    match Number.digit? c with
    | some d => if d < base then lowBaseFrom? base (value * base + d) cs else none
    | none => none

/-- One part of a classical address: hexadecimal behind `0x`, octal behind `0`, else decimal. -/
def part? : List Char → Option Nat
  | '0' :: 'x' :: c :: cs => hexFrom? 0 (c :: cs)
  | '0' :: 'X' :: c :: cs => hexFrom? 0 (c :: cs)
  | '0' :: cs => lowBaseFrom? 8 0 cs
  | c :: cs => lowBaseFrom? 10 0 (c :: cs)
  | [] => none

/-- The last of the parts may take what `room` parts have not filled. -/
def assemble? (room : Nat) : List Nat → Option Nat
  | [] => none
  | [last] => if last < Nat.pow 256 room then some last else none
  | part :: parts =>
    match room with
    | 0 => none
    | room + 1 =>
      if 255 < part then none
      else (assemble? room parts).map (part * Nat.pow 256 room + ·)

/-- Read the classical forms of a version 4 address. -/
def classical? (cs : List Char) : Option Ipv4 := do
  let parts ← (splitAtAll '.' cs).mapM part?
  if 4 < parts.length then none
  Ipv4.ofNat <$> assemble? 4 parts

def scope? (cs : List Char) : Option UInt32 :=
  match Number.digits 0xFFFFFFFF .tooLarge cs with
  | .ok n => some (UInt32.ofNat n)
  | .error _ => none

def scoped? (cs : List Char) : Option Ip := do
  let ip ← Ipv6.parse? (cs.takeWhile (· ≠ '%'))
  match cs.dropWhile (· ≠ '%') with
  | _ :: mark => return .v6 ip (← scope? mark)
  | [] => none

def numericHost? (cs : List Char) : Option Ip :=
  match Ipv4.parse? cs with
  | some ip => some (.v4 ip)
  | none =>
    match Ipv6.parse? cs with
    | some ip => some (.v6 ip 0)
    | none =>
      match classical? cs with
      | some ip => some (.v4 ip)
      | none => scoped? cs

end StreamRelay.Net
