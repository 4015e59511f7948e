import Std.Async.DNS
import Std.Async.TCP
import StreamRelay.Program

set_option autoImplicit false
set_option relaxedAutoImplicit false

namespace StreamRelay.Program.Machine

open Std.Async (Async)
open Std.Async.TCP.Socket (Client Server)

/-- The error with a number of the machine, which some of its parts give with a minus sign. -/
def numbered (code : UInt32) : IoError := .system code.toInt32.toInt.natAbs

def ioError : IO.Error → IoError
  | .alreadyExists _ code _ | .otherError code _ | .resourceBusy code _
  | .resourceVanished code _ | .unsupportedOperation code _ | .hardwareFault code _
  | .unsatisfiedConstraints code _ | .illegalOperation code _ | .protocolError code _
  | .timeExpired code _ | .interrupted _ code _ | .noFileOrDirectory _ code _
  | .invalidArgument _ code _ | .permissionDenied _ code _ | .resourceExhausted _ code _
  | .inappropriateType _ code _ | .noSuchThing _ code _ => numbered code
  | .unexpectedEof => .bare .unexpectedEof
  | .userError text => .described .other text

/-- The variables that the program looks at, as far as they are set. -/
def environment : IO Settings.Environment := do
  let settings := Settings.Field.all.map fun field => Settings.defaultStem ++ "_" ++ field.variable
  let values ← (filterVariable :: settings).mapM fun name => do
    return (← IO.getEnv name).map fun value => (name, Bytes.ofText value)
  return values.filterMap id

def node? (path : String) : IO (Option Node) := do
  try
    return some (.file (← IO.FS.readBinFile path).data.toList)
  catch error =>
    match ioError error with
    | .system 21 => return some .directory
    | .system 2 | .system 20 | .system 36 => return none
    | error => return some (.barred error)

def place (start : Place) (names : List String) : Place :=
  names.foldl (fun place name =>
    if name = "." then place else if name = ".." then place.dropLast else place ++ [name]) start

/-- What stands at a path and on the way. A directory need not be readable to lead further. -/
def along (working : Place) (path : String) : IO (List (Place × Node)) := do
  let names := (pathNames path.toList).map String.ofList
  let rooted := path.toList.head? = some '/'
  let start := if rooted then [] else working
  let root := if rooted then "/" else ""
  let nodes ← (List.range names.length).mapM fun count => do
    let names := names.take (count + 1)
    return (← node? (root ++ "/".intercalate names)).map fun node => (place start names, node)
  let passed := nodes.dropLast.map fun node => node.map fun (place, node) =>
    (place, match node with
      | .barred _ => .directory
      | node => node)
  return (passed ++ nodes.getLast?.toList).filterMap id

def files (paths : List String) : IO Files := do
  let working := (pathNames (← IO.currentDir).toString.toList).map String.ofList
  let above := (List.range working.length).map fun count => (working.take (count + 1), .directory)
  let nodes ← paths.mapM (along working)
  return ⟨above ++ nodes.flatten, working⟩

def timestamp : IO String := do
  let now ← Std.Time.Timestamp.now
  return (Std.Time.DateTime.ofTimestampWithZone now .UTC).format "uuuu-MM-dd'T'HH:mm:ss.SSS'Z'"

def netAddress (address : Net.SocketAddress) : Std.Net.SocketAddress :=
  match address.ip with
  | .v4 ip => .v4 ⟨.ofParts ip.a ip.b ip.c ip.d, address.port⟩
  | .v6 ip _ => .v6 ⟨.ofParts ip.g0 ip.g1 ip.g2 ip.g3 ip.g4 ip.g5 ip.g6 ip.g7, address.port⟩

def ip : Std.Net.IPAddr → Net.Ip
  | .v4 addr => .v4 ⟨addr.octets[0], addr.octets[1], addr.octets[2], addr.octets[3]⟩
  | .v6 addr =>
    let g := addr.segments
    .v6 ⟨g[0], g[1], g[2], g[3], g[4], g[5], g[6], g[7]⟩ 0

def socketAddress : Std.Net.SocketAddress → Net.SocketAddress
  | .v4 addr => ⟨ip (.v4 addr.addr), addr.port⟩
  | .v6 addr => ⟨ip (.v6 addr.addr), addr.port⟩

def unknownName : IoError :=
  .described .other "failed to lookup address information: Name or service not known"

def directory (host : String) : Async Net.Directory := do
  try
    if host.isEmpty || (Net.numericHost? host.toList).isSome then return fun _ => .ok []
    let addresses ← Std.Async.DNS.getAddrInfo host ""
    return fun _ => .ok (addresses.toList.map ip).eraseDups
  catch _ => return fun _ => .error unknownName

def listen (address : Net.SocketAddress) : IO (Except IoError Server) := do
  try
    let server ← Server.mk
    server.bind (netAddress address)
    server.listen 1024
    return .ok server
  catch error => return .error (ioError error)

/-- Connect to the first address that answers. -/
def connectFirst (last : IoError) : List Net.SocketAddress → Async (Except IoError Client)
  | [] => return .error last
  | address :: addresses => do
    try
      let client ← Client.mk
      client.connect (netAddress address)
      return .ok client
    catch error => connectFirst (ioError error) addresses

def dial (target : String) : Async (Except IoError Client) := do
  let host := ((Net.splitAtLastColon target.toList).map (·.1)).getD []
  match Net.dialAddresses (← directory (String.ofList host)) target with
  | .error error => return .error error
  | .ok addresses => connectFirst Net.nowhere addresses

end StreamRelay.Program.Machine
