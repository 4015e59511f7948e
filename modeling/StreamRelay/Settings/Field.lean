set_option autoImplicit false
set_option relaxedAutoImplicit false

namespace StreamRelay.Settings

inductive Shape where
  | text
  | path
  | switch
  | number
deriving DecidableEq, Repr

abbrev Shape.Value : Shape → Type
  | .text => String
  | .path => String
  | .switch => Bool
  | .number => Int64

/-- The settings in the order in which they are declared, written and checked. -/
inductive Field where
  | listenAddr
  | backendAddr
  | bufferSize
  | tlsEnabled
  | certFilePath
  | keyFilePath
  | connectTimeout
  | logLevel
deriving DecidableEq, Repr

def Field.all : List Field :=
  [.listenAddr, .backendAddr, .bufferSize, .tlsEnabled, .certFilePath, .keyFilePath,
    .connectTimeout, .logLevel]

def Field.name : Field → String
  | .listenAddr => "listen_addr"
  | .backendAddr => "backend_addr"
  | .bufferSize => "buffer_size"
  | .tlsEnabled => "tls_enabled"
  | .certFilePath => "cert_file_path"
  | .keyFilePath => "key_file_path"
  | .connectTimeout => "connect_timeout"
  | .logLevel => "log_level"

def Field.shape : Field → Shape
  | .listenAddr => .text
  | .backendAddr => .text
  | .bufferSize => .number
  | .tlsEnabled => .switch
  | .certFilePath => .path
  | .keyFilePath => .path
  | .connectTimeout => .number
  | .logLevel => .text

def Field.named? (name : String) : Option Field := Field.all.find? (·.name == name)

theorem Field.named?_name (field : Field) : Field.named? field.name = some field := by
  cases field <;> decide +kernel

end StreamRelay.Settings
