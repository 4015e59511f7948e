import StreamRelay.Tls.Digest
import StreamRelay.Tls.Name
import StreamRelay.Tls.Pem
import StreamRelay.Tls.PublicKey

set_option autoImplicit false
set_option relaxedAutoImplicit false

namespace StreamRelay.Tls

/-- A certificate. A key of no known family is none. -/
structure Certificate where
  encoded : Bytes
  subject : DistinguishedName
  issuer : DistinguishedName
  key : Option PublicKey
  signature : List Nat
deriving DecidableEq, Repr

namespace Certificate

def isDate (element : Element) : Bool := element.tag = 23 || element.tag = 24

/-- Whether an element may stand behind the key: identifiers of issuer and subject, extensions. -/
def mayFollow (element : Element) : Bool :=
  element.tag = 0x81 || element.tag = 0x82 ||
    ((element.inside? 0xA3).bind (·.head?)).any (·.sequence?.isSome)

def read? (bytes : Bytes) : Option (Certificate × Bytes) := do
  let (whole, rest) ← Element.read? bytes
  let [body, algorithm, value] ← whole.sequence? | none
  let _ ← value.bits?
  let signature ← (← (← algorithm.sequence?).head?).identifier?
  let fields ← body.sequence?
  let fields := if fields.head?.any (·.tag = 0xA0) then fields.drop 1 else fields
  let serial :: inner :: issuer :: validity :: subject :: key :: others := fields | none
  let _ ← inner.sequence?
  let dates ← validity.sequence?
  if serial.tag ≠ 2 ∨ dates.length ≠ 2 ∨ !dates.all isDate ∨ !others.all mayFollow then none
  let [_, keyBits] ← key.sequence? | none
  let _ ← keyBits.bits?
  return (⟨whole.encoded, ← DistinguishedName.read? subject, ← DistinguishedName.read? issuer,
    PublicKey.read? key, signature⟩, rest)

def weakSignatures : List (List Nat) :=
  [[1, 2, 840, 113549, 1, 1, 2], [1, 2, 840, 113549, 1, 1, 3], [1, 2, 840, 113549, 1, 1, 4],
   [1, 2, 840, 113549, 1, 1, 5], [1, 3, 14, 3, 2, 29], [1, 2, 840, 10040, 4, 3],
   [1, 2, 840, 10045, 4, 1]]

/-- Whether the key is strong, and the signature too unless it is its own issuer's. -/
def isStrong (certificate : Certificate) : Bool :=
  certificate.key.any (·.isStrong) &&
    (certificate.subject = certificate.issuer || !weakSignatures.contains certificate.signature)

def labels : List Bytes := [Bytes.ofText "CERTIFICATE", Bytes.ofText "X509 CERTIFICATE"]

def trustedLabel : Bytes := Bytes.ofText "TRUSTED CERTIFICATE"

/-- The first block of some labels, if it comes before anything malformed. -/
def firstBlock? (labels : List Bytes) : List Pem.Item → Option (Pem.Block × List Pem.Item)
  | [] => none
  | .malformed :: _ => none
  | .block block :: rest =>
    if labels.contains block.label then some (block, rest) else firstBlock? labels rest

def ofBlock? (block : Pem.Block) : Option (Certificate × Bytes) :=
  if block.hasHeader then none else read? block.data

def first? (text : Bytes) : Option Certificate := do
  let (block, _) ← firstBlock? labels (Pem.items text)
  return (← ofBlock? block).1

def chain? : List Pem.Item → Option (List Certificate)
  | [] => some []
  | .malformed :: _ => none
  | .block block :: rest =>
    if labels.contains block.label then do
      let (certificate, _) ← ofBlock? block
      return certificate :: (← chain? rest)
    else chain? rest

/-- The first certificate of a file, and those behind it. -/
def readChain? (text : Bytes) : Option (Certificate × List Certificate) := do
  let (block, rest) ← firstBlock? (trustedLabel :: labels) (Pem.items text)
  let (certificate, trust) ← ofBlock? block
  if !trust.isEmpty then
    let (trust, _) ← Element.read? trust
    let _ ← trust.sequence?
  return (certificate, ← chain? rest)

def subjectText (certificate : Certificate) : String := certificate.subject.text

def hexByte (b : UInt8) : String :=
  let digit (n : Nat) : Char := (Nat.digitChar n).toUpper
  String.ofList [digit (b.toNat / 16), digit (b.toNat % 16)]

def fingerprint (certificate : Certificate) : String :=
  ":".intercalate ((Digest.sha256.of certificate.encoded).map hexByte)

end Certificate

end StreamRelay.Tls
