import StreamRelay.Tls.Credentials

set_option autoImplicit false
set_option relaxedAutoImplicit false

namespace StreamRelay.Tls.Credentials

section

variable {Acceptor : Type} (library : Library Acceptor) (empty : Acceptor) (files : Files)
  (certPath keyPath : String)

/-- An acceptor with the chain of certificates of a file. -/
structure LoadsChain (chained : Acceptor) : Prop where
  plain : hasNul certPath = false
  loaded : library.loadChain empty files certPath = .ok chained

/-- An acceptor with the chain of certificates of a file and the key of another one. -/
inductive LoadsKey : Acceptor → Prop
  | intro {chained keyed : Acceptor} : LoadsChain library empty files certPath chained →
      hasNul keyPath = false → library.loadKey chained files keyPath = .ok keyed → LoadsKey keyed

/-- An acceptor with complete credentials: its key belongs to its certificate. -/
structure Loads (acceptor : Acceptor) : Prop where
  key : LoadsKey library empty files certPath keyPath acceptor
  matched : library.checkKey acceptor = .ok ()

/-- The first step of loading credentials that the library refuses, and what is said of it. -/
inductive FailsAt : CredentialFault → String → Prop
  | chain {reason : String} : hasNul certPath = false →
      library.loadChain empty files certPath = .error reason →
      FailsAt (.refused .loadCertificate certPath reason)
        ("load certificate " ++ certPath ++ ": " ++ reason)
  | key {chained : Acceptor} {reason : String} :
      LoadsChain library empty files certPath chained → hasNul keyPath = false →
      library.loadKey chained files keyPath = .error reason →
      FailsAt (.refused .loadKey keyPath reason)
        ("load private key " ++ keyPath ++ ": " ++ reason)
  | mismatch {keyed : Acceptor} {reason : String} :
      LoadsKey library empty files certPath keyPath keyed →
      library.checkKey keyed = .error reason →
      FailsAt (.refused .checkKey keyPath reason)
        ("check private key " ++ keyPath ++ ": " ++ reason)

/-- A path that the library cannot be given, with what is done until it would be. -/
inductive Panics : List Note → Prop
  | chain : hasNul certPath = true → Panics [.loading certPath keyPath]
  | key {chained : Acceptor} : LoadsChain library empty files certPath chained →
      hasNul keyPath = true → Panics [.loading certPath keyPath, .reading certPath]

end

def upTo (certPath keyPath : String) : CredentialFault → List Note
  | .refused .loadKey _ _ | .refused .checkKey _ _ =>
    [.loading certPath keyPath, .reading certPath, .reading keyPath]
  | _ => [.loading certPath keyPath, .reading certPath]

def wholeLoad (certPath keyPath : String) : List Note :=
  [.loading certPath keyPath, .reading certPath, .reading keyPath, .loaded certPath]

variable {Acceptor : Type} {library : Library Acceptor} {empty : Acceptor} {files : Files}
  {certPath keyPath : String}

private theorem loadFrom_of_hasNul {step : CredentialStep} {path : String}
    (broken : hasNul path = true)
    (load : String → Except String Acceptor) : loadFrom step path load = (.error .panic, []) := by
  rw [loadFrom, if_pos broken]

private theorem loadFrom_of_plain {step : CredentialStep} {path : String}
    (plain : hasNul path = false) (load : String → Except String Acceptor) :
    loadFrom step path load = ((load path).mapError (refused step path), [.reading path]) := by
  rw [loadFrom, if_neg (Bool.eq_false_iff.mp plain)]

/-- Loading credentials comes to one of three things. -/
theorem loads_or_fails (library : Library Acceptor) (empty : Acceptor) (files : Files)
    (certPath keyPath : String) :
    (∃ acceptor, Loads library empty files certPath keyPath acceptor) ∨
      (∃ fault words, FailsAt library empty files certPath keyPath fault words) ∨
      ∃ notes, Panics library empty files certPath keyPath notes := by
  cases broken : hasNul certPath with
  | true => exact .inr (.inr ⟨_, .chain broken⟩)
  | false =>
    cases loaded : library.loadChain empty files certPath with
    | error reason => exact .inr (.inl ⟨_, _, .chain broken loaded⟩)
    | ok chained =>
      have chain : LoadsChain library empty files certPath chained := ⟨broken, loaded⟩
      cases broken' : hasNul keyPath with
      | true => exact .inr (.inr ⟨_, .key chain broken'⟩)
      | false =>
        cases loaded' : library.loadKey chained files keyPath with
        | error reason => exact .inr (.inl ⟨_, _, .key chain broken' loaded'⟩)
        | ok keyed =>
          have key : LoadsKey library empty files certPath keyPath keyed :=
            .intro chain broken' loaded'
          cases matched : library.checkKey keyed with
          | error reason => exact .inr (.inl ⟨_, _, .mismatch key matched⟩)
          | ok => exact .inl ⟨keyed, key, matched⟩

theorem load_of_noPath (library : Library Acceptor) (files : Files)
    (missing : certPath = "" ∨ keyPath = "") :
    load library files certPath keyPath = (.error (.error (.config .noCredentialPath)), []) := by
  have empty : (certPath.isEmpty || keyPath.isEmpty) = true := by simpa using missing
  rw [load, if_pos empty]

section

variable (certNamed : certPath ≠ "") (keyNamed : keyPath ≠ "")
  (builds : library.acceptor? = some empty)

include certNamed keyNamed builds

private theorem load_of_paths :
    load library files certPath keyPath =
      match loadFrom .loadCertificate certPath (library.loadChain empty files) with
      | (.error failure, chain) => (.error failure, .loading certPath keyPath :: chain)
      | (.ok chained, chain) =>
        match loadFrom .loadKey keyPath (library.loadKey chained files) with
        | (.error failure, key) => (.error failure, .loading certPath keyPath :: (chain ++ key))
        | (.ok keyed, key) =>
          match library.checkKey keyed with
          | .error reason => (.error (refused .checkKey keyPath reason),
              .loading certPath keyPath :: (chain ++ key))
          | .ok () =>
            (.ok keyed, .loading certPath keyPath :: (chain ++ key ++ [.loaded certPath])) := by
  have filled : (certPath.isEmpty || keyPath.isEmpty) = false := by simp [certNamed, keyNamed]
  rw [load, if_neg (Bool.eq_false_iff.mp filled), builds]
  rfl

private theorem LoadsChain.load {chained : Acceptor}
    (chain : LoadsChain library empty files certPath chained) :
    Credentials.load library files certPath keyPath =
      match loadFrom .loadKey keyPath (library.loadKey chained files) with
      | (.error failure, key) =>
        (.error failure, .loading certPath keyPath :: .reading certPath :: key)
      | (.ok keyed, key) =>
        match library.checkKey keyed with
        | .error reason => (.error (refused .checkKey keyPath reason),
            .loading certPath keyPath :: .reading certPath :: key)
        | .ok () => (.ok keyed,
            .loading certPath keyPath :: .reading certPath :: (key ++ [.loaded certPath])) := by
  rw [load_of_paths certNamed keyNamed builds, loadFrom_of_plain chain.plain, chain.loaded]
  rfl

private theorem LoadsKey.load {keyed : Acceptor}
    (key : LoadsKey library empty files certPath keyPath keyed) :
    Credentials.load library files certPath keyPath =
      match library.checkKey keyed with
      | .error reason => (.error (refused .checkKey keyPath reason),
          [.loading certPath keyPath, .reading certPath, .reading keyPath])
      | .ok () => (.ok keyed, wholeLoad certPath keyPath) := by
  cases key with
  | intro chain plain loaded =>
    rw [chain.load certNamed keyNamed builds, loadFrom_of_plain plain, loaded]
    rfl

theorem Loads.load {acceptor : Acceptor}
    (loads : Loads library empty files certPath keyPath acceptor) :
    Credentials.load library files certPath keyPath =
      (.ok acceptor, wholeLoad certPath keyPath) := by
  rw [loads.key.load certNamed keyNamed builds, loads.matched]

theorem FailsAt.load {fault : CredentialFault} {words : String}
    (fails : FailsAt library empty files certPath keyPath fault words) :
    Credentials.load library files certPath keyPath =
      (.error (.error (.credential fault)), upTo certPath keyPath fault) := by
  cases fails with
  | chain plain refused =>
    rw [load_of_paths certNamed keyNamed builds, loadFrom_of_plain plain, refused]
    rfl
  | key chain plain refused =>
    rw [chain.load certNamed keyNamed builds, loadFrom_of_plain plain, refused]
    rfl
  | mismatch key refused =>
    rw [key.load certNamed keyNamed builds, refused]
    rfl

theorem Panics.load {notes : List Note}
    (panics : Panics library empty files certPath keyPath notes) :
    Credentials.load library files certPath keyPath = (.error .panic, notes) := by
  cases panics with
  | chain broken => rw [load_of_paths certNamed keyNamed builds, loadFrom_of_hasNul broken]
  | key chain broken => rw [chain.load certNamed keyNamed builds, loadFrom_of_hasNul broken]

end

theorem exists_loads (certNamed : certPath ≠ "") (keyNamed : keyPath ≠ "")
    (builds : library.acceptor? = some empty)
    (loaded : (load library files certPath keyPath).1.isOk = true) :
    ∃ acceptor, Loads library empty files certPath keyPath acceptor := by
  rcases loads_or_fails library empty files certPath keyPath with
    loads | ⟨fault, words, fails⟩ | ⟨notes, panics⟩
  · exact loads
  · rw [fails.load certNamed keyNamed builds] at loaded
    cases loaded
  · rw [panics.load certNamed keyNamed builds] at loaded
    cases loaded

theorem FailsAt.message {fault : CredentialFault} {words : String}
    (fails : FailsAt library empty files certPath keyPath fault words) :
    fault.message = words := by
  cases fails <;> rfl

end StreamRelay.Tls.Credentials
