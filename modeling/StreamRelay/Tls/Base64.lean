import StreamRelay.Bytes

set_option autoImplicit false
set_option relaxedAutoImplicit false

namespace StreamRelay.Tls.Base64

def value? (b : UInt8) : Option Nat :=
  let n := b.toNat
  if 65 ≤ n ∧ n ≤ 90 then some (n - 65)
  else if 97 ≤ n ∧ n ≤ 122 then some (n - 97 + 26)
  else if 48 ≤ n ∧ n ≤ 57 then some (n - 48 + 52)
  else if n = 43 then some 62
  else if n = 47 then some 63
  else none

def isSpace (b : UInt8) : Bool := b = 32 || b = 9 || b = 10 || b = 13

def group (a b c d : Nat) : Bytes :=
  let n := ((a * 64 + b) * 64 + c) * 64 + d
  [UInt8.ofNat (n / 65536), UInt8.ofNat (n / 256), UInt8.ofNat n]

/-- Values in groups of four; those left over are of a padded group. -/
def ungroup? : List Nat → Option Bytes
  | a :: b :: c :: d :: rest => (ungroup? rest).map (group a b c d ++ ·)
  | [] => some []
  | [a, b] => some ((group a b 0 0).take 1)
  | [a, b, c] => some ((group a b c 0).take 2)
  | [_] => none

def decode? (text : Bytes) : Option Bytes := do
  let cs := (text.takeWhile (· ≠ 45)).filter (!isSpace ·)
  let body := cs.takeWhile (· ≠ 61)
  let pads := cs.drop body.length
  if 2 < pads.length ∨ (body.length + pads.length) % 4 ≠ 0 ∨ pads.any (· ≠ 61) then none
  ungroup? (← body.mapM value?)

end StreamRelay.Tls.Base64
