import StreamRelay.Tls.Certificate
import StreamRelay.Tls.Credentials
import StreamRelay.Tls.PrivateKey

/-!
# A library that reads PEM files

It knows the keys of RSA and DSA, those of the curves that have a name here, and those of Ed25519.
It refuses certificates and keys of every other family and keys under a password, although other
libraries load them, and it looks into no serial number, version or extension. Any refusal has the
same reason.
-/

set_option autoImplicit false
set_option relaxedAutoImplicit false

namespace StreamRelay.Tls

/-- What was loaded into an acceptor; a key is told by its public half. -/
structure PemAcceptor where
  chain : Option (Certificate × List Certificate) := none
  key : Option PublicKey := none
deriving DecidableEq, Repr

namespace PemAcceptor

def loadChain (acceptor : PemAcceptor) (files : Files) (path : String) :
    Except String PemAcceptor :=
  match (files.read path).toOption.bind Certificate.readChain? with
  | none => .error tlsMessage
  | some (certificate, issuers) =>
    if certificate.isStrong && issuers.all (·.isStrong) then
      .ok { acceptor with chain := some (certificate, issuers) }
    else .error tlsMessage

def publicKey? (acceptor : PemAcceptor) : Option PublicKey :=
  acceptor.chain.bind fun (certificate, _) => certificate.key

/-- Load a key. One of the certificate's family that does not belong to it is refused. -/
def loadKey (acceptor : PemAcceptor) (files : Files) (path : String) :
    Except String PemAcceptor :=
  match (files.read path).toOption.bind PrivateKey.read? with
  | none => .error tlsMessage
  | some key =>
    if acceptor.publicKey?.any fun known => known.family = key.family && known ≠ key then
      .error tlsMessage
    else .ok { acceptor with key := some key }

def checkKey (acceptor : PemAcceptor) : Except String Unit :=
  if acceptor.key.isSome && acceptor.key = acceptor.publicKey? then .ok () else .error tlsMessage

end PemAcceptor

def pemLibrary : Library PemAcceptor where
  acceptor? := some {}
  loadChain := PemAcceptor.loadChain
  loadKey := PemAcceptor.loadKey
  checkKey := PemAcceptor.checkKey

def inspect (files : Files) (path : String) : Except RelayError Certificate :=
  match files.read path with
  | .error error => .error (.credential (.unreadable path error))
  | .ok text =>
    match Certificate.first? text with
    | none => .error (.credential (.refused .parseCertificate path tlsMessage))
    | some certificate => .ok certificate

end StreamRelay.Tls
