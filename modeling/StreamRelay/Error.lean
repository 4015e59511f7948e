import StreamRelay.Net.Resolve
import StreamRelay.Settings.Fault

set_option autoImplicit false
set_option relaxedAutoImplicit false

namespace StreamRelay

/-- What the TLS library reports when it gives no reason. -/
def tlsMessage : String := "OpenSSL error"

inductive ConfigFault where
  | address (addr : String) (fault : Net.AddressFault)
  | unresolved (addr : String) (fault : Net.ResolveFault)
  | settings (fault : Settings.Fault)
  | noCredentialPath
  | stated (text : String)
deriving Repr

def ConfigFault.message : ConfigFault → String
  | .address addr fault => s!"split host port {addr}: {fault.message}"
  | .unresolved addr fault => fault.message addr
  | .settings fault => fault.message
  | .noCredentialPath => "cert file path or key file path is empty"
  | .stated text => text

inductive CredentialStep where
  | loadCertificate
  | loadKey
  | checkKey
  | parseCertificate
deriving DecidableEq, Repr

def CredentialStep.message : CredentialStep → String
  | .loadCertificate => "load certificate"
  | .loadKey => "load private key"
  | .checkKey => "check private key"
  | .parseCertificate => "parse certificate"

/-- What is wrong with credentials: a step that the library refuses, or an unreadable file. -/
inductive CredentialFault where
  | refused (step : CredentialStep) (path reason : String)
  | unreadable (path : String) (error : IoError)
  | stated (text : String)
deriving DecidableEq, Repr

def CredentialFault.message : CredentialFault → String
  | .refused step path reason => s!"{step.message} {path}: {reason}"
  | .unreadable path error => s!"read certificate {path}: {error.message}"
  | .stated text => text

inductive RelayError where
  | io (source : IoError)
  | tls
  | bind (addr : String) (source : IoError)
  | config (fault : ConfigFault)
  | credential (fault : CredentialFault)
deriving Repr

def RelayError.message : RelayError → String
  | .io source => "IO error: " ++ source.message
  | .tls => "OpenSSL error: " ++ tlsMessage
  | .bind addr source => s!"listen error on {addr}: {source.message}"
  | .config fault => "Configuration error: " ++ fault.message
  | .credential fault => "Credential error: " ++ fault.message

def RelayError.source? : RelayError → Option String
  | .io source => some source.message
  | .tls => some tlsMessage
  | .bind _ source => some source.message
  | .config _ => none
  | .credential _ => none

/-- How something comes to nothing: with an error, or with a panic. -/
inductive Failure where
  | error (error : RelayError)
  | panic
deriving Repr

/-- Why a listener gives no connection: it is closed for good, or this one attempt failed. -/
inductive AcceptError where
  | closed
  | failed (source : IoError)
deriving DecidableEq, Repr

def AcceptError.message : AcceptError → String
  | .closed => "listener closed"
  | .failed source => "accept error: " ++ source.message

def AcceptError.source? : AcceptError → Option String
  | .closed => none
  | .failed source => some source.message

end StreamRelay
