import StreamRelay.Bytes

set_option autoImplicit false
set_option relaxedAutoImplicit false

namespace StreamRelay.Net

/-- A pair of connected sockets. The near one may have yet to be told that it was reset. -/
structure SocketPair where
  readShut : Bool := false
  writeShut : Bool := false
  reset : Bool := false
  fault : Bool := false
  toNear : Bytes := []
  toFar : Bytes := []
deriving DecidableEq, Repr

namespace SocketPair

inductive Act where
  | shut (read write : Bool)
  | nearWrite (data : Bytes)
  | farWrite (data : Bytes)
  | nearRead
  | farRead
deriving DecidableEq, Repr

inductive Outcome where
  | done
  | failed
  | data (bytes : Bytes)
  | eof
  | pending
deriving DecidableEq, Repr

def act (pair : SocketPair) : Act → Outcome × SocketPair
  | .shut read write =>
    if pair.reset then (.failed, pair)
    else
      (.done, { pair with
        readShut := pair.readShut || read, writeShut := pair.writeShut || write })
  | .nearWrite data =>
    if pair.reset || pair.writeShut then (.failed, { pair with fault := false })
    else (.done, { pair with toFar := pair.toFar ++ data })
  | .farWrite data =>
    if pair.reset then (.failed, pair)
    else if pair.readShut && pair.writeShut && !data.isEmpty then
      (.done, { pair with reset := true, fault := true, toNear := [] })
    else (.done, { pair with toNear := pair.toNear ++ data })
  | .nearRead =>
    if !pair.toNear.isEmpty then (.data pair.toNear, { pair with toNear := [] })
    else if pair.fault then (.failed, { pair with fault := false })
    else if pair.readShut then (.eof, pair)
    else (.pending, pair)
  | .farRead =>
    if !pair.toFar.isEmpty then (.data pair.toFar, { pair with toFar := [] })
    else if pair.writeShut then (.eof, pair)
    else (.pending, pair)

end SocketPair

end StreamRelay.Net
