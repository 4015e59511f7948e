import StreamRelay.Tls.Curve
import StreamRelay.Tls.Der

set_option autoImplicit false
set_option relaxedAutoImplicit false

namespace StreamRelay.Tls

inductive PublicKey where
  | rsa (modulus exponent : Nat)
  | rsaPss (modulus exponent : Nat)
  | dsa (p q g value : Nat)
  | elliptic (curve : Curve) (point : Point)
  | edwards (value : Bytes)
deriving DecidableEq, Repr

/-- A family of keys. A server has room for one certificate of each. -/
inductive KeyFamily where
  | rsa
  | rsaPss
  | dsa
  | elliptic
  | edwards
deriving DecidableEq, Repr

namespace PublicKey

def family : PublicKey → KeyFamily
  | .rsa _ _ => .rsa
  | .rsaPss _ _ => .rsaPss
  | .dsa _ _ _ _ => .dsa
  | .elliptic _ _ => .elliptic
  | .edwards _ => .edwards

def bitCount (n : Nat) : Nat := if n = 0 then 0 else n.log2 + 1

/-- The fewest bits of a modulus whose strength rounds to 112 bits. -/
def leastModulus : Nat := 1963

/-- Whether breaking a key takes the work of 112 bits at least. -/
def isStrong : PublicKey → Bool
  | .rsa modulus _ => leastModulus ≤ bitCount modulus
  | .rsaPss modulus _ => leastModulus ≤ bitCount modulus
  | .dsa p q _ _ => 2048 ≤ bitCount p && 224 ≤ bitCount q
  | .elliptic curve _ => 224 ≤ bitCount curve.order
  | .edwards _ => true

def ellipticIdentifier : List Nat := [1, 2, 840, 10045, 2, 1]

def families : List (List Nat × KeyFamily) :=
  [([1, 2, 840, 113549, 1, 1, 1], .rsa), ([1, 2, 840, 113549, 1, 1, 10], .rsaPss),
   ([1, 2, 840, 10040, 4, 1], .dsa), (ellipticIdentifier, .elliptic),
   ([1, 3, 101, 112], .edwards)]

def readFamily? (element : Element) : Option (KeyFamily × List Element) := do
  let name :: parameters ← element.sequence? | none
  let family ← families.lookup (← name.identifier?)
  return (family, parameters)

def readCurve? (parameters : List Element) : Option Curve := do
  let name ← parameters.head?
  Curve.named? (← name.identifier?)

def readTriple? (parameters : List Element) : Option (Nat × Nat × Nat) := do
  let [p, q, g] ← (← parameters.head?).sequence? | none
  return (← p.natural?, ← q.natural?, ← g.natural?)

def readModulus? (bytes : Bytes) : Option (Nat × Nat) := do
  let (element, _) ← Element.read? bytes
  let [modulus, exponent] ← element.sequence? | none
  return (← modulus.natural?, ← exponent.natural?)

def read? (element : Element) : Option PublicKey := do
  let [names, value] ← element.sequence? | none
  let (family, parameters) ← readFamily? names
  let bytes ← value.bits?
  match family with
  | .rsa =>
    let (modulus, exponent) ← readModulus? bytes
    return .rsa modulus exponent
  | .rsaPss =>
    let (modulus, exponent) ← readModulus? bytes
    return .rsaPss modulus exponent
  | .dsa =>
    let (p, q, g) ← readTriple? parameters
    return .dsa p q g (← (← Element.only? bytes).natural?)
  | .elliptic =>
    let curve ← readCurve? parameters
    return .elliptic curve (← curve.readPoint? bytes)
  | .edwards => if bytes.length = 32 ∧ parameters.isEmpty then some (.edwards bytes) else none

end PublicKey

end StreamRelay.Tls
