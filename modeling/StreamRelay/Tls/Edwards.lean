import StreamRelay.Tls.Digest
import StreamRelay.Tls.Modular

set_option autoImplicit false
set_option relaxedAutoImplicit false

namespace StreamRelay.Tls.Edwards

def p : Nat := Nat.pow 2 255 - 19

def d : Nat := 37095705934669439343138083508754565189542113879843219016388785533085940283555

structure Point where
  x : Nat
  y : Nat
deriving DecidableEq, Repr

def zero : Point := ⟨0, 1⟩

def base : Point :=
  ⟨15112221349535400772501151409588531511454012693041857206046113283949847762202,
    46316835694926478169428394003475163141307993866256225615783033603165251855960⟩

def add (q r : Point) : Point :=
  let t := d * (q.x * r.x % p) * (q.y * r.y % p) % p
  let above := 1 + t
  let below := 1 + (p - t)
  let inverse := Modular.inverse p (above * below)
  ⟨(q.x * r.y + q.y * r.x) * below % p * inverse % p,
    (q.y * r.y + q.x * r.x) * above % p * inverse % p⟩

def multiplyIn : Nat → Point → Nat → Point
  | 0, _, _ => zero
  | bits + 1, point, factor =>
    let rest := multiplyIn bits (add point point) (factor / 2)
    if factor % 2 = 1 then add point rest else rest

/-- The second highest bit is set, and the factor is a multiple of eight. -/
def factor (secret : Bytes) : Nat :=
  let n := Bytes.number ((Digest.sha512.of secret).take 32).reverse
  Nat.pow 2 254 + n % Nat.pow 2 254 / 8 * 8

/-- The ordinate, lowest byte first, with the parity of the abscissa in the highest bit. -/
def publicKey (secret : Bytes) : Bytes :=
  let point := multiplyIn 255 base (factor secret)
  (Bytes.ofNumber 32 (point.y + point.x % 2 * Nat.pow 2 255)).reverse

end StreamRelay.Tls.Edwards
