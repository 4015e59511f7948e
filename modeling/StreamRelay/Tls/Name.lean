import StreamRelay.Text.Utf8
import StreamRelay.Tls.Der

set_option autoImplicit false
set_option relaxedAutoImplicit false

namespace StreamRelay.Tls

structure Attribute where
  identifier : List Nat
  tag : UInt8
  content : Bytes
deriving DecidableEq, Repr

namespace Attribute

def directoryNames : List (Nat × String) :=
  [(3, "CN"), (4, "SN"), (5, "serialNumber"), (6, "C"), (7, "L"), (8, "ST"), (9, "street"),
   (10, "O"), (11, "OU"), (12, "title"), (13, "description"), (14, "searchGuide"),
   (15, "businessCategory"), (16, "postalAddress"), (17, "postalCode"), (18, "postOfficeBox"),
   (19, "physicalDeliveryOfficeName"), (20, "telephoneNumber"), (21, "telexNumber"),
   (22, "teletexTerminalIdentifier"), (23, "facsimileTelephoneNumber"), (24, "x121Address"),
   (25, "internationaliSDNNumber"), (26, "registeredAddress"), (27, "destinationIndicator"),
   (28, "preferredDeliveryMethod"), (29, "presentationAddress"),
   (30, "supportedApplicationContext"), (31, "member"), (32, "owner"), (33, "roleOccupant"),
   (34, "seeAlso"), (35, "userPassword"), (36, "userCertificate"), (37, "cACertificate"),
   (38, "authorityRevocationList"), (39, "certificateRevocationList"),
   (40, "crossCertificatePair"), (41, "name"), (42, "GN"), (43, "initials"),
   (44, "generationQualifier"), (45, "x500UniqueIdentifier"), (46, "dnQualifier"),
   (47, "enhancedSearchGuide"), (48, "protocolInformation"), (49, "distinguishedName"),
   (50, "uniqueMember"), (51, "houseIdentifier"), (52, "supportedAlgorithms"),
   (53, "deltaRevocationList"), (54, "dmdName"), (65, "pseudonym"), (72, "role"),
   (97, "organizationIdentifier"), (98, "c3"), (99, "n3"), (100, "dnsName")]

def pilotNames : List (Nat × String) :=
  [(1, "UID"), (2, "textEncodedORAddress"), (3, "mail"), (4, "info"), (5, "favouriteDrink"),
   (6, "roomNumber"), (7, "photo"), (8, "userClass"), (9, "host"), (10, "manager"),
   (11, "documentIdentifier"), (12, "documentTitle"), (13, "documentVersion"),
   (14, "documentAuthor"), (15, "documentLocation"), (20, "homeTelephoneNumber"),
   (21, "secretary"), (22, "otherMailbox"), (23, "lastModifiedTime"), (24, "lastModifiedBy"),
   (25, "DC"), (26, "aRecord"), (27, "pilotAttributeType27"), (28, "mXRecord"),
   (29, "nSRecord"), (30, "sOARecord"), (31, "cNAMERecord"), (37, "associatedDomain"),
   (38, "associatedName"), (39, "homePostalAddress"), (40, "personalTitle"),
   (41, "mobileTelephoneNumber"), (42, "pagerTelephoneNumber"), (43, "friendlyCountryName"),
   (44, "uid"), (45, "organizationalStatus"), (46, "janetMailbox"),
   (47, "mailPreferenceOption"), (48, "buildingName"), (49, "dSAQuality"),
   (50, "singleLevelQuality"), (51, "subtreeMinimumQuality"), (52, "subtreeMaximumQuality"),
   (53, "personalSignature"), (54, "dITRedirect"), (55, "audio"), (56, "documentPublisher")]

def mailNames : List (Nat × String) :=
  [(1, "emailAddress"), (2, "unstructuredName"), (3, "contentType"), (4, "messageDigest"),
   (5, "signingTime"), (6, "countersignature"), (7, "challengePassword"),
   (8, "unstructuredAddress"), (9, "extendedCertificateAttributes"), (14, "extReq"),
   (15, "SMIME-CAPS"), (16, "SMIME"), (20, "friendlyName"), (21, "localKeyID")]

def jurisdictionNames : List (Nat × String) :=
  [(1, "jurisdictionL"), (2, "jurisdictionST"), (3, "jurisdictionC")]

def registerNames : List (List Nat × String) :=
  [([1, 2, 643, 3, 131, 1, 1], "INN"), ([1, 2, 643, 100, 1], "OGRN"),
   ([1, 2, 643, 100, 3], "SNILS"), ([1, 2, 643, 100, 5], "OGRNIP"),
   ([1, 2, 643, 100, 111], "subjectSignTool"), ([1, 2, 643, 100, 112], "issuerSignTool"),
   ([1, 2, 643, 100, 113], "classSignTool")]

def nameless : String := "UNDEF"

def shortName (identifier : List Nat) : String :=
  let known :=
    match identifier with
    | [2, 5, 4, arc] => directoryNames.lookup arc
    | [0, 9, 2342, 19200300, 100, 1, arc] => pilotNames.lookup arc
    | [1, 2, 840, 113549, 1, 9, arc] => mailNames.lookup arc
    | [1, 3, 6, 1, 4, 1, 311, 60, 2, 1, arc] => jurisdictionNames.lookup arc
    | other => registerNames.lookup other
  known.getD nameless

/-- A coding of text: UTF-8, or so many bytes for each character, the highest first. -/
inductive Coding where
  | utf8
  | wide (bytes : Nat)
deriving DecidableEq, Repr

def coding? : UInt8 → Option Coding
  | 12 => some .utf8
  | 18 => some (.wide 1)
  | 19 => some (.wide 1)
  | 20 => some (.wide 1)
  | 22 => some (.wide 1)
  | 28 => some (.wide 4)
  | 30 => some (.wide 2)
  | _ => none

def otherTags : List UInt8 := [3, 7, 8, 9, 11, 13, 14, 15, 29, 0x30]

def readWide? (width : Nat) : Nat → Bytes → Option (List Char)
  | 0, [] => some []
  | 0, _ :: _ => none
  | count + 1, bytes =>
    let n := Bytes.number (bytes.take width)
    if n.isValidChar then (readWide? width count (bytes.drop width)).map (Char.ofNat n :: ·)
    else none

def Coding.read? (coding : Coding) (bytes : Bytes) : Option (List Char) :=
  match coding with
  | .utf8 => Text.Utf8.decode? bytes
  | .wide width => readWide? width (bytes.length / width) bytes

/-- The text of a value up to its first NUL; a value that is no text has none. -/
def text (entry : Attribute) : String :=
  match (coding? entry.tag).bind (·.read? entry.content) with
  | some cs => String.ofList (cs.takeWhile (·.toNat ≠ 0))
  | none => ""

def isWellFormed (entry : Attribute) : Bool :=
  match coding? entry.tag with
  | some coding => (coding.read? entry.content).isSome
  | none => otherTags.contains entry.tag

def read? (element : Element) : Option Attribute := do
  let [name, value] ← element.sequence? | none
  let entry : Attribute := ⟨← name.identifier?, value.tag, value.content⟩
  if entry.isWellFormed then some entry else none

end Attribute

abbrev DistinguishedName := List Attribute

def DistinguishedName.read? (element : Element) : Option DistinguishedName := do
  let sets ← (← element.sequence?).mapM Element.set?
  sets.flatten.mapM Attribute.read?

def DistinguishedName.text (name : DistinguishedName) : String :=
  ", ".intercalate (name.map fun entry =>
    Attribute.shortName entry.identifier ++ "=" ++ entry.text)

end StreamRelay.Tls
