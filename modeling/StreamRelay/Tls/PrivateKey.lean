import StreamRelay.Tls.Edwards
import StreamRelay.Tls.Pem
import StreamRelay.Tls.PublicKey

set_option autoImplicit false
set_option relaxedAutoImplicit false

namespace StreamRelay.Tls.PrivateKey

def readRsa? (element : Element) : Option (Nat × Nat) := do
  let _ :: modulus :: exponent :: secrets ← element.sequence? | none
  if secrets.length < 6 then none
  let _ ← (secrets.take 6).mapM Element.natural?
  return (← modulus.natural?, ← exponent.natural?)

def readDsa? (element : Element) : Option PublicKey := do
  let [_, p, q, g, value, secret] ← element.sequence? | none
  let _ ← secret.natural?
  return .dsa (← p.natural?) (← q.natural?) (← g.natural?) (← value.natural?)

def curveTag : UInt8 := 0xA0

def publicTag : UInt8 := 0xA1

/-- The form of curves. The curve may also be known from elsewhere. -/
def readElliptic? (known : Option Curve) (element : Element) : Option PublicKey := do
  let _ :: secret :: rest ← element.sequence? | none
  let secret ← secret.octets?
  let named := (rest.find? (·.tag = curveTag)).bind fun e =>
    (e.inside? curveTag).bind PublicKey.readCurve?
  let curve ← known <|> named
  match rest.find? (·.tag = publicTag) with
  | none => return .elliptic curve (← curve.multiply (Bytes.number secret))
  | some wrapped =>
    let [value] ← wrapped.inside? publicTag | none
    return .elliptic curve (← curve.readPoint? (← value.bits?))

def readShared? (element : Element) : Option PublicKey := do
  let version :: names :: key :: _ ← element.sequence? | none
  let _ ← version.natural?
  let (family, parameters) ← PublicKey.readFamily? names
  let (inner, _) ← Element.read? (← key.octets?)
  match family with
  | .rsa =>
    let (modulus, exponent) ← readRsa? inner
    return .rsa modulus exponent
  | .rsaPss =>
    let (modulus, exponent) ← readRsa? inner
    return .rsaPss modulus exponent
  | .dsa =>
    let (p, q, g) ← PublicKey.readTriple? parameters
    return .dsa p q g (Modular.power p g (← inner.natural?))
  | .elliptic => readElliptic? (PublicKey.readCurve? parameters) inner
  | .edwards =>
    let secret ← inner.octets?
    if secret.length = 32 then some (.edwards (Edwards.publicKey secret)) else none

def sharedLabel : Bytes := Bytes.ofText "PRIVATE KEY"

def lockedLabel : Bytes := Bytes.ofText "ENCRYPTED PRIVATE KEY"

def ownLabels : List (Bytes × KeyFamily) :=
  [(Bytes.ofText "RSA PRIVATE KEY", .rsa), (Bytes.ofText "DSA PRIVATE KEY", .dsa),
   (Bytes.ofText "EC PRIVATE KEY", .elliptic)]

def isKey (block : Pem.Block) : Bool :=
  block.label = sharedLabel || block.label = lockedLabel || (ownLabels.lookup block.label).isSome

def isLocked (block : Pem.Block) : Bool :=
  isKey block && (block.hasHeader || block.label = lockedLabel)

def ofBlock? (block : Pem.Block) : Option PublicKey := do
  let (element, _) ← Element.read? block.data
  if block.label = sharedLabel then readShared? element
  else
    match ← ownLabels.lookup block.label with
    | .rsa => (readRsa? element).map fun (modulus, exponent) => .rsa modulus exponent
    | .dsa => readDsa? element
    | .elliptic => readElliptic? none element
    | _ => none

/-- The first key in the form of its label. A locked key ends the search. -/
def firstOwn? : List Pem.Item → Option PublicKey
  | [] => none
  | .malformed :: rest => firstOwn? rest
  | .block block :: rest =>
    if isLocked block then none else ofBlock? block <|> firstOwn? rest

/-- The first block that is to hold a key, with nothing malformed before it. -/
def firstShared? : List Pem.Item → Option PublicKey
  | [] => none
  | .malformed :: _ => none
  | .block block :: rest =>
    if !isKey block then firstShared? rest
    else if isLocked block then none
    else (Element.read? block.data).bind fun (element, _) => readShared? element

def read? (text : Bytes) : Option PublicKey :=
  let items := Pem.items text
  firstOwn? items <|> firstShared? items

end StreamRelay.Tls.PrivateKey
