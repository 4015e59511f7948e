import StreamRelay.Tls.Base64

set_option autoImplicit false
set_option relaxedAutoImplicit false

namespace StreamRelay.Tls.Pem

structure Block where
  label : Bytes
  hasHeader : Bool
  data : Bytes
deriving DecidableEq, Repr

/-- What a line that begins a block leads to. -/
inductive Item where
  | block (block : Block)
  | malformed
deriving DecidableEq, Repr

def lines : Bytes → List Bytes
  | [] => []
  | 10 :: rest => [] :: lines rest
  | b :: rest =>
    match lines rest with
    | line :: others => (b :: line) :: others
    | [] => [[b]]

/-- Whether a byte may trail a line: blanks, controls, and whatever is no ASCII. -/
def trails (b : UInt8) : Bool := b ≤ 32 || 128 ≤ b

def strip (line : Bytes) : Bytes := (line.reverse.dropWhile trails).reverse

def marked? (word : String) (line : Bytes) : Option Bytes :=
  let front := Bytes.ofText ("-----" ++ word ++ " ")
  let back := Bytes.ofText "-----"
  let inner := line.drop front.length
  if line.take front.length = front ∧ back.length ≤ inner.length ∧
      inner.drop (inner.length - back.length) = back
  then some (inner.take (inner.length - back.length))
  else none

def isEnd (line : Bytes) : Bool := (Bytes.ofText "-----END ").isPrefixOf line

def body : List Bytes → List Bytes × Option Bytes × List Bytes
  | [] => ([], none, [])
  | line :: rest =>
    let line := strip line
    if isEnd line then ([], some line, rest)
    else
      let (inside, last, after) := body rest
      (line :: inside, last, after)

def isBlock : List Bytes → Bool
  | [] => true
  | [line] => !line.isEmpty && line.length ≤ 64
  | line :: others => line.length = 64 && isBlock others

def decode? (label : Bytes) (hasHeader : Bool) (text : Bytes) : Option Block :=
  match Base64.decode? text with
  | some (b :: data) => some ⟨label, hasHeader, b :: data⟩
  | _ => none

def assemble? (label : Bytes) (inside : List Bytes) : Option Block :=
  let header := inside.takeWhile (!·.isEmpty)
  match inside.drop header.length with
  | [] => decode? label false header.flatten
  | _ :: lines => if isBlock lines then decode? label (!header.isEmpty) lines.flatten else none

def Item.ofBody (label : Bytes) (inside : List Bytes) (last : Option Bytes) : Item :=
  if (last.bind (marked? "END")) = some label then
    match assemble? label inside with
    | some whole => .block whole
    | none => .malformed
  else .malformed

def next? : List Bytes → Option (Item × List Bytes)
  | [] => none
  | line :: rest =>
    match marked? "BEGIN" (strip line) with
    | none => next? rest
    | some label =>
      let (inside, last, after) := body rest
      some (.ofBody label inside last, after)

/-- The lines of a file; a byte order mark at its start is not one of them. -/
def linesOf (text : Bytes) : List Bytes :=
  match text with
  | 0xEF :: 0xBB :: 0xBF :: rest => lines rest
  | text => lines text

def itemsIn : Nat → List Bytes → List Item
  | 0, _ => []
  | fuel + 1, text =>
    match next? text with
    | none => []
    | some (item, rest) => item :: itemsIn fuel rest

/-- What the lines of a file that begin a block lead to, in their order. Each is a line. -/
def items (text : Bytes) : List Item :=
  let lines := linesOf text
  itemsIn lines.length lines

end StreamRelay.Tls.Pem
