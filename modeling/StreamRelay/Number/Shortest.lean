/-!
# The shortest decimal

The decimal with the fewest digits that rounds to a given double, chosen by exact arithmetic on
its bits. Of several decimals with that many digits the nearest is taken, and of two equally near
ones the one with the even last digit.
-/

set_option autoImplicit false
set_option relaxedAutoImplicit false

namespace StreamRelay.Number

/-- A positive double `mantissa * 2 ^ exponent`. -/
structure Binary where
  mantissa : Nat
  exponent : Int
  closerBelow : Bool

def Binary.ofBits (bits : UInt64) : Binary :=
  let field := ((bits >>> 52) &&& 0x7FF).toNat
  let fraction := (bits &&& 0xFFFFFFFFFFFFF).toNat
  if field = 0 then ⟨fraction, -1074, false⟩
  else ⟨0x10000000000000 + fraction, (field : Int) - 1075, fraction = 0 && 1 < field⟩

structure Decimal where
  digits : Nat
  exponent : Int
deriving DecidableEq, Repr

def Decimal.compareBinary (d : Decimal) (n : Nat) (e : Int) : Ordering :=
  compare (d.digits * Nat.pow 10 d.exponent.toNat * Nat.pow 2 (-e).toNat)
    (n * Nat.pow 2 e.toNat * Nat.pow 10 (-d.exponent).toNat)

/-- Whether a decimal rounds to `x`; the middles do when the mantissa is even. -/
def Binary.roundsFrom (x : Binary) (d : Decimal) : Bool :=
  let low := if x.closerBelow then 4 * x.mantissa - 1 else 4 * x.mantissa - 2
  let high := 4 * x.mantissa + 2
  let even := x.mantissa % 2 = 0
  let fromLow := d.compareBinary low (x.exponent - 2)
  let fromHigh := d.compareBinary high (x.exponent - 2)
  (fromLow = .gt || (even && fromLow = .eq)) && (fromHigh = .lt || (even && fromHigh = .eq))

def Binary.unitsBelow (x : Binary) (scale : Int) : Nat :=
  (x.mantissa * Nat.pow 2 x.exponent.toNat * Nat.pow 10 (-scale).toNat) /
    (Nat.pow 10 scale.toNat * Nat.pow 2 (-x.exponent).toNat)

/-- The multiple of `10 ^ scale` next to `x` that rounds to it; of two the nearer. -/
def Binary.onGrid? (x : Binary) (scale : Int) : Option Decimal :=
  let n := x.unitsBelow scale
  let below : Decimal := ⟨n, scale⟩
  let above : Decimal := ⟨n + 1, scale⟩
  match x.roundsFrom below, x.roundsFrom above with
  | true, false => some below
  | false, true => some above
  | false, false => none
  | true, true =>
    match (⟨2 * n + 1, scale⟩ : Decimal).compareBinary (2 * x.mantissa) x.exponent with
    | .gt => some below
    | .lt => some above
    | .eq => if n % 2 = 0 then some below else some above

/-- The first hit on ever finer grids, `fuel` of them, starting with `10 ^ scale`. -/
def Binary.search? (x : Binary) (scale : Int) : Nat → Option Decimal
  | 0 => none
  | fuel + 1 =>
    match x.onGrid? scale with
    | some d => some d
    | none => x.search? (scale - 1) fuel

def Decimal.strip (d : Decimal) : Nat → Decimal
  | 0 => d
  | fuel + 1 =>
    if d.digits % 10 = 0 && d.digits ≠ 0 then
      Decimal.strip ⟨d.digits / 10, d.exponent + 1⟩ fuel
    else d

def Binary.exact (x : Binary) : Decimal :=
  ⟨x.mantissa * Nat.pow 2 x.exponent.toNat * Nat.pow 5 (-x.exponent).toNat, min x.exponent 0⟩

/-- The power of ten of the first grid to try: at most one above that of the leading digit. -/
def Binary.firstScale (x : Binary) : Int :=
  ((x.mantissa.log2 : Int) + x.exponent) * 30103 / 100000 + 1

def Binary.shortest (x : Binary) : Decimal :=
  ((x.search? x.firstScale 20).getD x.exact).strip 400

def Decimal.text (d : Decimal) : List Char :=
  let digits := Nat.toDigits 10 d.digits
  let leading := d.exponent + digits.length - 1
  if -5 ≤ leading && leading < 16 then
    if 0 ≤ d.exponent then digits ++ List.replicate d.exponent.toNat '0' ++ ['.', '0']
    else if 0 ≤ leading then
      digits.take (leading.toNat + 1) ++ '.' :: digits.drop (leading.toNat + 1)
    else '0' :: '.' :: List.replicate (-leading - 1).toNat '0' ++ digits
  else
    let mantissa :=
      match digits with
      | first :: [] => [first]
      | first :: rest => first :: '.' :: rest
      | [] => []
    let sign := if leading < 0 then '-' else '+'
    mantissa ++ 'e' :: sign :: Nat.toDigits 10 leading.natAbs

/-- The fewest digits that read back, positional from `1e-5` up to below `1e16`. -/
def floatText (x : Float) : String :=
  let bits := x.toBits
  let sign := if bits >>> 63 = 1 then ['-'] else []
  let magnitude := Binary.ofBits bits
  if magnitude.mantissa = 0 then String.ofList (sign ++ ['0', '.', '0'])
  else String.ofList (sign ++ magnitude.shortest.text)

end StreamRelay.Number
