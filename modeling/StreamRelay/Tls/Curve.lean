import StreamRelay.Bytes
import StreamRelay.Tls.Modular

set_option autoImplicit false
set_option relaxedAutoImplicit false

namespace StreamRelay.Tls

structure Point where
  x : Nat
  y : Nat
deriving DecidableEq, Repr

/-- A curve: its field, its equation, its generator and the generator's order. -/
structure Curve where
  p : Nat
  a : Nat
  b : Nat
  generator : Point
  order : Nat
deriving DecidableEq, Repr

namespace Curve

def contains (curve : Curve) (point : Point) : Bool :=
  point.x < curve.p && point.y < curve.p &&
    point.y * point.y % curve.p =
      (point.x * point.x * point.x + curve.a * point.x + curve.b) % curve.p

def add (curve : Curve) : Option Point → Option Point → Option Point
  | none, q => q
  | q, none => q
  | some q, some r =>
    let p := curve.p
    if q.x = r.x ∧ (q.y + r.y) % p = 0 then none
    else
      let slope :=
        if q.x = r.x then (3 * q.x * q.x + curve.a) * Modular.inverse p (2 * q.y) % p
        else (r.y + (p - q.y)) * Modular.inverse p (r.x + (p - q.x)) % p
      let x := (slope * slope + 2 * p - q.x - r.x) % p
      some ⟨x, (slope * (q.x + (p - x)) + (p - q.y)) % p⟩

def multiplyIn (curve : Curve) : Nat → Option Point → Nat → Option Point
  | 0, _, _ => none
  | bits + 1, point, factor =>
    let rest := multiplyIn curve bits (curve.add point point) (factor / 2)
    if factor % 2 = 1 then curve.add point rest else rest

def multiply (curve : Curve) (factor : Nat) : Option Point :=
  let factor := factor % curve.order
  multiplyIn curve (factor.log2 + 1) (some curve.generator) factor

def width (curve : Curve) : Nat := (curve.p.log2 + 8) / 8

/-- The point of an abscissa with an odd or even ordinate, in a field where roots are powers. -/
def lift? (curve : Curve) (x : Nat) (odd : Bool) : Option Point :=
  let square := (x * x * x + curve.a * x + curve.b) % curve.p
  let root := Modular.power curve.p square ((curve.p + 1) / 4)
  let y := if (root % 2 = 1) = odd then root else (curve.p - root) % curve.p
  let point : Point := ⟨x, y⟩
  if curve.p % 4 = 3 && curve.contains point then some point else none

def readPoint? (curve : Curve) (bytes : Bytes) : Option Point :=
  match bytes with
  | [] => none
  | mark :: rest =>
    let x := Bytes.number (rest.take curve.width)
    let y := Bytes.number (rest.drop curve.width)
    let point : Point := ⟨x, y⟩
    let both := rest.length = 2 * curve.width && curve.contains point
    match mark with
    | 2 => if rest.length = curve.width then curve.lift? x false else none
    | 3 => if rest.length = curve.width then curve.lift? x true else none
    | 4 => if both then some point else none
    | 6 => if both && y % 2 = 0 then some point else none
    | 7 => if both && y % 2 = 1 then some point else none
    | _ => none

def p192 : Curve where
  p := 0xFFFFFFFFFFFFFFFFFFFFFFFFFFFFFFFEFFFFFFFFFFFFFFFF
  a := 0xFFFFFFFFFFFFFFFFFFFFFFFFFFFFFFFEFFFFFFFFFFFFFFFC
  b := 0x64210519E59C80E70FA7E9AB72243049FEB8DEECC146B9B1
  generator := ⟨0x188DA80EB03090F67CBF20EB43A18800F4FF0AFD82FF1012,
    0x07192B95FFC8DA78631011ED6B24CDD573F977A11E794811⟩
  order := 0xFFFFFFFFFFFFFFFFFFFFFFFF99DEF836146BC9B1B4D22831

def p224 : Curve where
  p := 0xFFFFFFFFFFFFFFFFFFFFFFFFFFFFFFFF000000000000000000000001
  a := 0xFFFFFFFFFFFFFFFFFFFFFFFFFFFFFFFEFFFFFFFFFFFFFFFFFFFFFFFE
  b := 0xB4050A850C04B3ABF54132565044B0B7D7BFD8BA270B39432355FFB4
  generator := ⟨0xB70E0CBD6BB4BF7F321390B94A03C1D356C21122343280D6115C1D21,
    0xBD376388B5F723FB4C22DFE6CD4375A05A07476444D5819985007E34⟩
  order := 0xFFFFFFFFFFFFFFFFFFFFFFFFFFFF16A2E0B8F03E13DD29455C5C2A3D

def p256 : Curve where
  p := 0xFFFFFFFF00000001000000000000000000000000FFFFFFFFFFFFFFFFFFFFFFFF
  a := 0xFFFFFFFF00000001000000000000000000000000FFFFFFFFFFFFFFFFFFFFFFFC
  b := 0x5AC635D8AA3A93E7B3EBBD55769886BC651D06B0CC53B0F63BCE3C3E27D2604B
  generator := ⟨0x6B17D1F2E12C4247F8BCE6E563A440F277037D812DEB33A0F4A13945D898C296,
    0x4FE342E2FE1A7F9B8EE7EB4A7C0F9E162BCE33576B315ECECBB6406837BF51F5⟩
  order := 0xFFFFFFFF00000000FFFFFFFFFFFFFFFFBCE6FAADA7179E84F3B9CAC2FC632551

def p384 : Curve where
  p := Nat.pow 2 384 - Nat.pow 2 128 - Nat.pow 2 96 + Nat.pow 2 32 - 1
  a := Nat.pow 2 384 - Nat.pow 2 128 - Nat.pow 2 96 + Nat.pow 2 32 - 4
  b := 0xB3312FA7E23EE7E4988E056BE3F82D19181D9C6EFE8141120314088F5013875AC656398D8A2ED19D2A85C8EDD3EC2AEF
  generator :=
    ⟨0xAA87CA22BE8B05378EB1C71EF320AD746E1D3B628BA79B9859F741E082542A385502F25DBF55296C3A545E3872760AB7,
      0x3617DE4A96262C6F5D9E98BF9292DC29F8F41DBD289A147CE9DA3113B5F0B8C00A60B1CE1D7E819D7A431D7C90EA0E5F⟩
  order := 0xFFFFFFFFFFFFFFFFFFFFFFFFFFFFFFFFFFFFFFFFFFFFFFFFC7634D81F4372DDF581A0DB248B0A77AECEC196ACCC52973

def p521 : Curve where
  p := Nat.pow 2 521 - 1
  a := Nat.pow 2 521 - 4
  b := 0x0051953EB9618E1C9A1F929A21A0B68540EEA2DA725B99B315F3B8B489918EF109E156193951EC7E937B1652C0BD3BB1BF073573DF883D2C34F1EF451FD46B503F00
  generator :=
    ⟨0x00C6858E06B70404E9CD9E3ECB662395B4429C648139053FB521F828AF606B4D3DBAA14B5E77EFE75928FE1DC127A2FFA8DE3348B3C1856A429BF97E7E31C2E5BD66,
      0x011839296A789A3BC0045C8A5FB42C7D1BD998F54449579B446817AFBD17273E662C97EE72995EF42640C550B9013FAD0761353C7086A272C24088BE94769FD16650⟩
  order := 0x01FFFFFFFFFFFFFFFFFFFFFFFFFFFFFFFFFFFFFFFFFFFFFFFFFFFFFFFFFFFFFFFFFFFA51868783BF2F966B7FCC0148F709A5D03BB5C9B8899C47AEBB6FB71E91386409

def k256 : Curve where
  p := Nat.pow 2 256 - Nat.pow 2 32 - 977
  a := 0
  b := 7
  generator := ⟨0x79BE667EF9DCBBAC55A06295CE870B07029BFCDB2DCE28D959F2815B16F81798,
    0x483ADA7726A3C4655DA4FBFC0E1108A8FD17B448A68554199C47D08FFB10D4B8⟩
  order := 0xFFFFFFFFFFFFFFFFFFFFFFFFFFFFFFFEBAAEDCE6AF48A03BBFD25E8CD0364141

def named? (identifier : List Nat) : Option Curve :=
  [([1, 2, 840, 10045, 3, 1, 1], p192), ([1, 3, 132, 0, 33], p224),
   ([1, 2, 840, 10045, 3, 1, 7], p256), ([1, 3, 132, 0, 34], p384),
   ([1, 3, 132, 0, 35], p521), ([1, 3, 132, 0, 10], k256)].lookup identifier

end Curve

end StreamRelay.Tls
