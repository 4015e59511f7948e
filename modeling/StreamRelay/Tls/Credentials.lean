import StreamRelay.Error
import StreamRelay.Files
import StreamRelay.Log
import StreamRelay.Text.Quoted

/-!
# Credentials

What the relay needs to terminate TLS is loaded by a library, step by step: a chain of certificates,
the private key of the first of them, and a check that the two belong together. The first step that
fails is the one that is named.
-/

set_option autoImplicit false
set_option relaxedAutoImplicit false

namespace StreamRelay.Tls

/-- What the relay asks of the TLS library: an empty acceptor, if it can be built, chains and keys
loaded into acceptors from files, and a check that they belong together. -/
structure Library (Acceptor : Type) where
  acceptor? : Option Acceptor
  loadChain : Acceptor → Files → String → Except String Acceptor
  loadKey : Acceptor → Files → String → Except String Acceptor
  checkKey : Acceptor → Except String Unit

namespace Credentials

inductive Note where
  | loading (certPath keyPath : String)
  | reading (path : String)
  | loaded (certPath : String)
deriving DecidableEq, Repr

def Note.entry? : Note → Option Entry
  | .loading certPath keyPath =>
    some ⟨.credentials, .debug,
      s!"Loading certificate: {Text.quoted certPath}, key: {Text.quoted keyPath}"⟩
  | .reading _ => none
  | .loaded certPath => some ⟨.credentials, .info, s!"Loaded TLS credentials from {certPath}"⟩

/-- A step that is refused. -/
def refused (step : CredentialStep) (path reason : String) : Failure :=
  .error (.credential (.refused step path reason))

variable {Acceptor : Type}

/-- The library takes no path with a NUL in it, so that handing it one is a panic. -/
def loadFrom (step : CredentialStep) (path : String) (load : String → Except String Acceptor) :
    Except Failure Acceptor × List Note :=
  if hasNul path then (.error .panic, [])
  else ((load path).mapError (refused step path), [.reading path])

def load (library : Library Acceptor) (files : Files) (certPath keyPath : String) :
    Except Failure Acceptor × List Note :=
  if certPath.isEmpty || keyPath.isEmpty then (.error (.error (.config .noCredentialPath)), [])
  else
    match library.acceptor? with
    | none => (.error (.error .tls), [])
    | some empty =>
      let begun : List Note := [.loading certPath keyPath]
      match loadFrom .loadCertificate certPath (library.loadChain empty files) with
      | (.error failure, chain) => (.error failure, begun ++ chain)
      | (.ok chained, chain) =>
        match loadFrom .loadKey keyPath (library.loadKey chained files) with
        | (.error failure, key) => (.error failure, begun ++ chain ++ key)
        | (.ok keyed, key) =>
          match library.checkKey keyed with
          | .error reason => (.error (refused .checkKey keyPath reason), begun ++ chain ++ key)
          | .ok () => (.ok keyed, begun ++ chain ++ key ++ [.loaded certPath])

end Credentials

end StreamRelay.Tls
