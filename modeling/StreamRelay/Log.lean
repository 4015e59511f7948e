set_option autoImplicit false
set_option relaxedAutoImplicit false

namespace StreamRelay

inductive Level where
  | error
  | warn
  | info
  | debug
  | trace
deriving DecidableEq, Repr

/-- All levels, the gravest first. -/
def Level.all : List Level := [.error, .warn, .info, .debug, .trace]

def Level.name : Level → String
  | .error => "error"
  | .warn => "warn"
  | .info => "info"
  | .debug => "debug"
  | .trace => "trace"

def Level.mark : Level → String
  | .error => "ERROR"
  | .warn => "WARN"
  | .info => "INFO"
  | .debug => "DEBUG"
  | .trace => "TRACE"

def Level.named? (name : String) : Option Level := Level.all.find? (·.name == name)

inductive Origin where
  | program
  | settings
  | credentials
  | listener
  | acceptLoop
  | session
  | pump
deriving DecidableEq, Repr

def Origin.name : Origin → String
  | .program => "tls_relay"
  | .settings => "tls_relay::config::validator"
  | .credentials => "tls_relay::tls::acceptor"
  | .listener => "tls_relay::proxy::listener"
  | .acceptLoop => "tls_relay::proxy::server"
  | .session => "tls_relay::proxy::handler"
  | .pump => "tls_relay::proxy::forwarder"

structure Entry where
  origin : Origin
  level : Level
  message : String
deriving DecidableEq, Repr

abbrev Log := List Entry

end StreamRelay
