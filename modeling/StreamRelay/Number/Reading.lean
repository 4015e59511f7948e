set_option autoImplicit false
set_option relaxedAutoImplicit false

namespace StreamRelay.Number

inductive Fault where
  | empty
  | badDigit
  | tooLarge
  | tooSmall
deriving DecidableEq, Repr

def Fault.message : Fault → String
  | .empty => "cannot parse integer from empty string"
  | .badDigit => "invalid digit found in string"
  | .tooLarge => "number too large to fit in target type"
  | .tooSmall => "number too small to fit in target type"

def digit? (c : Char) : Option Nat := if c.isDigit then some (c.toNat - '0'.toNat) else none

/-- Append digits to the number read so far; `excess` is the fault of passing `limit`. -/
def extend (limit : Nat) (excess : Fault) (value : Nat) : List Char → Except Fault Nat
  | [] => .ok value
  | c :: cs =>
    match digit? c with
    | none => .error .badDigit
    | some d =>
      if limit < value * 10 + d then .error excess else extend limit excess (value * 10 + d) cs

def digits (limit : Nat) (excess : Fault) : List Char → Except Fault Nat
  | [] => .error .badDigit
  | cs => extend limit excess 0 cs

/-- Read a number of sixteen bits: digits after at most one plus sign. -/
def readWord : List Char → Except Fault UInt16
  | [] => .error .empty
  | '+' :: cs => (digits 65535 .tooLarge cs).map UInt16.ofNat
  | cs => (digits 65535 .tooLarge cs).map UInt16.ofNat

/-- Read a signed number of sixty-four bits: digits after at most one sign. -/
def readSigned : List Char → Except Fault Int64
  | [] => .error .empty
  | '+' :: cs => (digits (0x7FFFFFFFFFFFFFFF) .tooLarge cs).map Int64.ofNat
  | '-' :: cs => (digits 0x8000000000000000 .tooSmall cs).map fun n => Int64.ofInt (-(n : Int))
  | cs => (digits (0x7FFFFFFFFFFFFFFF) .tooLarge cs).map Int64.ofNat

end StreamRelay.Number
