import StreamRelay.Bytes

set_option autoImplicit false
set_option relaxedAutoImplicit false

namespace StreamRelay.Tls

/-- A digest by its widths, rounds and rotations; the schedule's last distance is a shift. -/
structure Digest where
  width : Nat
  rounds : Nat
  upper : Nat × Nat × Nat
  lower : Nat × Nat × Nat
  early : Nat × Nat × Nat
  late : Nat × Nat × Nat
deriving DecidableEq, Repr

namespace Digest

def sha256 : Digest := ⟨32, 64, (2, 13, 22), (6, 11, 25), (7, 18, 3), (17, 19, 10)⟩

def sha512 : Digest := ⟨64, 80, (28, 34, 39), (14, 18, 41), (1, 8, 7), (19, 61, 6)⟩

/-- The leading bits of the fractions of the cube roots of the first primes. -/
def cubeRoots : List Nat :=
  [0x428a2f98d728ae22, 0x7137449123ef65cd, 0xb5c0fbcfec4d3b2f, 0xe9b5dba58189dbbc,
   0x3956c25bf348b538, 0x59f111f1b605d019, 0x923f82a4af194f9b, 0xab1c5ed5da6d8118,
   0xd807aa98a3030242, 0x12835b0145706fbe, 0x243185be4ee4b28c, 0x550c7dc3d5ffb4e2,
   0x72be5d74f27b896f, 0x80deb1fe3b1696b1, 0x9bdc06a725c71235, 0xc19bf174cf692694,
   0xe49b69c19ef14ad2, 0xefbe4786384f25e3, 0x0fc19dc68b8cd5b5, 0x240ca1cc77ac9c65,
   0x2de92c6f592b0275, 0x4a7484aa6ea6e483, 0x5cb0a9dcbd41fbd4, 0x76f988da831153b5,
   0x983e5152ee66dfab, 0xa831c66d2db43210, 0xb00327c898fb213f, 0xbf597fc7beef0ee4,
   0xc6e00bf33da88fc2, 0xd5a79147930aa725, 0x06ca6351e003826f, 0x142929670a0e6e70,
   0x27b70a8546d22ffc, 0x2e1b21385c26c926, 0x4d2c6dfc5ac42aed, 0x53380d139d95b3df,
   0x650a73548baf63de, 0x766a0abb3c77b2a8, 0x81c2c92e47edaee6, 0x92722c851482353b,
   0xa2bfe8a14cf10364, 0xa81a664bbc423001, 0xc24b8b70d0f89791, 0xc76c51a30654be30,
   0xd192e819d6ef5218, 0xd69906245565a910, 0xf40e35855771202a, 0x106aa07032bbd1b8,
   0x19a4c116b8d2d0c8, 0x1e376c085141ab53, 0x2748774cdf8eeb99, 0x34b0bcb5e19b48a8,
   0x391c0cb3c5c95a63, 0x4ed8aa4ae3418acb, 0x5b9cca4f7763e373, 0x682e6ff3d6b2b8a3,
   0x748f82ee5defb2fc, 0x78a5636f43172f60, 0x84c87814a1f0ab72, 0x8cc702081a6439ec,
   0x90befffa23631e28, 0xa4506cebde82bde9, 0xbef9a3f7b2c67915, 0xc67178f2e372532b,
   0xca273eceea26619c, 0xd186b8c721c0c207, 0xeada7dd6cde0eb1e, 0xf57d4f7fee6ed178,
   0x06f067aa72176fba, 0x0a637dc5a2c898a6, 0x113f9804bef90dae, 0x1b710b35131c471b,
   0x28db77f523047d84, 0x32caab7b40c72493, 0x3c9ebe0a15c9bebc, 0x431d67c49c100d4c,
   0x4cc5d4becb3e42b6, 0x597f299cfc657e2a, 0x5fcb6fab3ad6faec, 0x6c44198c4a475817]

def squareRoots : List Nat :=
  [0x6a09e667f3bcc908, 0xbb67ae8584caa73b, 0x3c6ef372fe94f82b, 0xa54ff53a5f1d36f1,
   0x510e527fade682d1, 0x9b05688c2b3e6c1f, 0x1f83d9abfb41bd6b, 0x5be0cd19137e2179]

def leading (width : Nat) (fractions : List Nat) : List (BitVec width) :=
  fractions.map fun n => BitVec.ofNat width (n >>> (64 - width))

structure State (width : Nat) where
  a : BitVec width
  b : BitVec width
  c : BitVec width
  d : BitVec width
  e : BitVec width
  f : BitVec width
  g : BitVec width
  h : BitVec width
deriving DecidableEq, Repr

def State.words {width : Nat} (s : State width) : List (BitVec width) :=
  [s.a, s.b, s.c, s.d, s.e, s.f, s.g, s.h]

def State.ofWords {width : Nat} (words : List (BitVec width)) : State width :=
  let word (index : Nat) : BitVec width := words.getD index 0
  ⟨word 0, word 1, word 2, word 3, word 4, word 5, word 6, word 7⟩

def State.add {width : Nat} (s t : State width) : State width :=
  ⟨s.a + t.a, s.b + t.b, s.c + t.c, s.d + t.d, s.e + t.e, s.f + t.f, s.g + t.g, s.h + t.h⟩

def rotations {width : Nat} (distances : Nat × Nat × Nat) (x : BitVec width) : BitVec width :=
  x.rotateRight distances.1 ^^^ x.rotateRight distances.2.1 ^^^ x.rotateRight distances.2.2

def spread {width : Nat} (distances : Nat × Nat × Nat) (x : BitVec width) : BitVec width :=
  x.rotateRight distances.1 ^^^ x.rotateRight distances.2.1 ^^^ (x >>> distances.2.2)

variable (digest : Digest)

def round (s : State digest.width) (constant word : BitVec digest.width) : State digest.width :=
  let choice := (s.e &&& s.f) ^^^ (~~~s.e &&& s.g)
  let majority := (s.a &&& s.b) ^^^ (s.a &&& s.c) ^^^ (s.b &&& s.c)
  let first := s.h + rotations digest.lower s.e + choice + constant + word
  let second := rotations digest.upper s.a + majority
  ⟨first + second, s.a, s.b, s.c, s.d + first, s.e, s.f, s.g⟩

def nextWord (latest : List (BitVec digest.width)) : BitVec digest.width :=
  let ago (count : Nat) : BitVec digest.width := latest.getD (count - 1) 0
  ago 16 + spread digest.early (ago 15) + ago 7 + spread digest.late (ago 2)

def extend : Nat → List (BitVec digest.width) → List (BitVec digest.width)
  | 0, latest => latest
  | count + 1, latest => extend count (digest.nextWord latest :: latest)

def wordBytes : Nat := digest.width / 8

def words : Nat → Bytes → List (BitVec digest.width)
  | 0, _ => []
  | count + 1, bytes =>
    BitVec.ofNat digest.width (Bytes.number (bytes.take digest.wordBytes)) ::
      words count (bytes.drop digest.wordBytes)

def compress (s : State digest.width) (block : Bytes) : State digest.width :=
  let schedule := (digest.extend (digest.rounds - 16) (digest.words 16 block).reverse).reverse
  let mixed := ((leading digest.width cubeRoots).zip schedule).foldl
    (fun t step => digest.round t step.1 step.2) s
  s.add mixed

def blockBytes : Nat := 16 * digest.wordBytes

def absorb : Nat → State digest.width → Bytes → State digest.width
  | 0, s, _ => s
  | count + 1, s, bytes =>
    absorb count (digest.compress s (bytes.take digest.blockBytes))
      (bytes.drop digest.blockBytes)

def pad (message : Bytes) : Bytes :=
  let used := (message.length + 1 + 2 * digest.wordBytes) % digest.blockBytes
  message ++ 0x80 :: List.replicate ((digest.blockBytes - used) % digest.blockBytes) 0 ++
    Bytes.ofNumber (2 * digest.wordBytes) (8 * message.length)

def of (message : Bytes) : Bytes :=
  let padded := digest.pad message
  let start := State.ofWords (leading digest.width squareRoots)
  (digest.absorb (padded.length / digest.blockBytes) start padded).words.flatMap fun word =>
    Bytes.ofNumber digest.wordBytes word.toNat

end Digest

end StreamRelay.Tls
