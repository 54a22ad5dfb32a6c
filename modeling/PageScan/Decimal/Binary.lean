/-!
# Binary floating-point values as exact numbers

A finite value of either width is `m * 2 ^ q` with a natural significand. The decoding below keeps
the two facts that decide which decimals read back as the value: the parity of `m`, which says
whether the ends of the rounding interval belong to it, and whether the value below is closer than
the value above.
-/

namespace PageScan.Decimal

/-- A finite non-negative value `significand * 2 ^ exponent`. -/
structure Binary where
  significand : Nat
  exponent : Int
  /-- The gap to the value below is half the gap to the value above. -/
  narrowBelow : Bool
  deriving DecidableEq

namespace Binary

/-- The magnitude held by the 64 bits of a finite value. -/
def ofBits64 (bits : UInt64) : Binary :=
  let biased := ((bits >>> 52) &&& 0x7FF).toNat
  let fraction := (bits &&& 0xFFFFFFFFFFFFF).toNat
  if biased = 0 then ⟨fraction, -1074, false⟩
  else ⟨4503599627370496 + fraction, (biased : Int) - 1075, fraction = 0 && biased > 1⟩

/-- The magnitude held by the 32 bits of a finite value. -/
def ofBits32 (bits : UInt32) : Binary :=
  let biased := ((bits >>> 23) &&& 0xFF).toNat
  let fraction := (bits &&& 0x7FFFFF).toNat
  if biased = 0 then ⟨fraction, -149, false⟩
  else ⟨8388608 + fraction, (biased : Int) - 150, fraction = 0 && biased > 1⟩

end Binary

/-- Compares `a * 10 ^ i` with `n * 2 ^ j`, exactly. -/
def compareScaled (a : Nat) (i : Int) (n : Nat) (j : Int) : Ordering :=
  compare (a * Nat.pow 10 i.toNat * Nat.pow 2 (-j).toNat)
    (n * Nat.pow 2 j.toNat * Nat.pow 10 (-i).toNat)

/-- The decimal `digits * 10 ^ exponent`. -/
structure Scaled where
  digits : Nat
  exponent : Int
  deriving DecidableEq, Repr

namespace Binary

/-- `d` lies among the reals that round to `x`, to nearest with ties to even. -/
def ReadsBack (x : Binary) (d : Scaled) : Bool :=
  let low := if x.narrowBelow then 4 * x.significand - 1 else 4 * x.significand - 2
  let high := 4 * x.significand + 2
  let closed := x.significand % 2 = 0
  let atLow := compareScaled d.digits d.exponent low (x.exponent - 2)
  let atHigh := compareScaled d.digits d.exponent high (x.exponent - 2)
  (atLow = .gt || (closed && atLow = .eq)) && (atHigh = .lt || (closed && atHigh = .eq))

end Binary

end PageScan.Decimal
