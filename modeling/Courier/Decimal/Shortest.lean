/-! The fewest digits that read back. A float is `m * 2^q`; the reals that round to it reach to the
midpoints with its neighbours, ends included when `m` is even. On the decimal grid of one, two, ...
places only the two points around the value can be the nearest ones, so testing these is enough. -/
namespace Courier.Decimal

/-- A finite float's magnitude: `mantissa * 2^exponent`. The gap below it is half the gap above it
when it is the least of its binade. -/
structure Binary where
  mantissa : Nat
  exponent : Int
  leastOfBinade : Bool

def Binary.ofBits (bits : UInt64) : Binary :=
  let fraction := (bits &&& 0xFFFFFFFFFFFFF).toNat
  let biased := ((bits >>> 52) &&& 0x7FF).toNat
  if biased = 0 then ⟨fraction, -1074, false⟩
  else ⟨4503599627370496 + fraction, Int.ofNat biased - 1075, fraction = 0 && 1 < biased⟩

/-- `value * 10^exponent`. -/
structure Digits where
  value : Nat
  exponent : Int
  deriving DecidableEq

inductive Tie where
  | toEven
  | up
  deriving DecidableEq

namespace Binary

/-- Numerator over denominator of `quarters * 2^(exponent-2) / 10^place`. -/
def ratio (b : Binary) (quarters : Nat) (place : Int) : Nat × Nat :=
  let q := b.exponent - 2
  (quarters * Nat.pow 2 q.toNat * Nat.pow 10 (-place).toNat,
    Nat.pow 2 (-q).toNat * Nat.pow 10 place.toNat)

/-- How many places the whole part has, counted below zero for the zeros behind the point. -/
def magnitude (b : Binary) : Int :=
  let (n, d) := b.ratio (4 * b.mantissa) (-340)
  Int.ofNat (Nat.toDigits 10 (n / d)).length - 340

/-- The point `k` of the grid at `place` rounds to the float. -/
def hits (b : Binary) (place : Int) (k : Nat) : Bool :=
  let below := 4 * b.mantissa - (if b.leastOfBinade then 1 else 2)
  let (low, den) := b.ratio below place
  let (high, _) := b.ratio (4 * b.mantissa + 2) place
  if b.mantissa % 2 = 0 then low ≤ k * den && k * den ≤ high
  else low < k * den && k * den < high

/-- The nearest point of the grid at `place` that rounds to the float, if one does. -/
def onGrid? (b : Binary) (tie : Tie) (place : Int) : Option Nat :=
  let (n, d) := b.ratio (4 * b.mantissa) place
  let k := n / d
  match b.hits place k, b.hits place (k + 1) with
  | false, false => none
  | true, false => some k
  | false, true => some (k + 1)
  | true, true =>
    let twice := 2 * (n - k * d)
    if twice < d then some k
    else if d < twice then some (k + 1)
    else match tie with
      | .up => some (k + 1)
      | .toEven => some (if k % 2 = 0 then k else k + 1)

end Binary

/-- Trailing zeros move into the exponent, as far as `fuel` goes. -/
def Digits.trim : Nat → Digits → Digits
  | 0, d => d
  | fuel + 1, d => if d.value % 10 = 0 then trim fuel ⟨d.value / 10, d.exponent + 1⟩ else d

/-- Seventeen places always suffice, so the search ends with a hit. -/
def Binary.shortest (b : Binary) (tie : Tie) : Digits :=
  let top := b.magnitude
  let found := (List.range 17).findSome? fun n =>
    let place := top - (Int.ofNat n + 1)
    (b.onGrid? tie place).map fun k => Digits.mk k place
  match found with
  | some d => d.trim 18
  | none => ⟨0, 0⟩

end Courier.Decimal
