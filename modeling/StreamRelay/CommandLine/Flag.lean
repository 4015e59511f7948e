import StreamRelay.Settings.Field

set_option autoImplicit false
set_option relaxedAutoImplicit false

namespace StreamRelay.CommandLine

inductive Flag where
  | setting (field : Settings.Field)
  | configFile
deriving DecidableEq, Repr

namespace Flag

/-- All flags in the order in which they are shown. -/
def all : List Flag := Settings.Field.all.map .setting ++ [.configFile]

def name : Flag → String
  | .setting .listenAddr => "listen"
  | .setting .backendAddr => "backend"
  | .setting .bufferSize => "buffer-size"
  | .setting .tlsEnabled => "tls-enabled"
  | .setting .certFilePath => "cert-file-path"
  | .setting .keyFilePath => "key-file-path"
  | .setting .connectTimeout => "connect-timeout"
  | .setting .logLevel => "log-level"
  | .configFile => "config-file"

def help : Flag → String
  | .setting .listenAddr => "Listen address (host:port)"
  | .setting .backendAddr => "Backend address (host:port)"
  | .setting .bufferSize => "Relay buffer size in kilobytes"
  | .setting .tlsEnabled => "Terminate TLS on accepted connections"
  | .setting .certFilePath => "Server certificate path (PEM)"
  | .setting .keyFilePath => "Server private key path (PEM)"
  | .setting .connectTimeout => "Backend connect timeout in seconds"
  | .setting .logLevel => "Log level (trace, debug, info, warn, error)"
  | .configFile => "Load configuration from a JSON file"

def shape : Flag → Settings.Shape
  | .setting field => field.shape
  | .configFile => .path

def valueName (flag : Flag) : String :=
  String.ofList (flag.name.toList.map fun c => if c = '-' then '_' else c.toUpper)

def shown (flag : Flag) : String :=
  match flag.shape with
  | .switch => "--" ++ flag.name
  | _ => s!"--{flag.name} <{flag.valueName}>"

def named? (name : String) : Option Flag := all.find? (·.name == name)

end Flag

end StreamRelay.CommandLine
