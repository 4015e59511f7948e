set_option autoImplicit false
set_option relaxedAutoImplicit false

namespace StreamRelay

abbrev Bytes := List UInt8

def Bytes.ofText (s : String) : Bytes := s.toList.flatMap String.utf8EncodeChar

/-- The number that bytes denote, the highest first. -/
def Bytes.number (bytes : Bytes) : Nat := bytes.foldl (fun n b => n * 256 + b.toNat) 0

def Bytes.ofNumber : Nat → Nat → Bytes
  | 0, _ => []
  | count + 1, n => Bytes.ofNumber count (n / 256) ++ [UInt8.ofNat n]

end StreamRelay
