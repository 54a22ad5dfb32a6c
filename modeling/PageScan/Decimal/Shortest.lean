import PageScan.Decimal.Binary

/-!
# The shortest decimal that reads back

`Binary.shortest` walks the decimal grids from one digit upward. On each grid only the two
neighbours of the value can lie in its rounding interval, so the first grid with a hit holds the
shortest decimal, and of two hits the nearer one is taken.
-/

namespace PageScan.Decimal

/-- What becomes of a value halfway between two decimals of the shortest length. -/
inductive Tie
  | toEven
  | up
  deriving DecidableEq

namespace Binary

/-- The least `k` with `x < 10 ^ k`, for a positive `x`. -/
def magnitude (x : Binary) : Int :=
  let bits := (x.significand.log2 : Int) + x.exponent
  let guess := bits * 30103 / 100000
  let below (k : Int) : Bool := compareScaled 1 k x.significand x.exponent = .gt
  if below guess then guess else if below (guess + 1) then guess + 1 else guess + 2

/-- The greatest multiple of `10 ^ e` that is at most `x`, in units of `10 ^ e`. -/
def floorAt (x : Binary) (e : Int) : Nat :=
  x.significand * Nat.pow 2 x.exponent.toNat * Nat.pow 10 (-e).toNat /
    (Nat.pow 2 (-x.exponent).toNat * Nat.pow 10 e.toNat)

/-- The decimal of the grid `10 ^ e` that reads back as `x` and is nearest to it. -/
def nearestAt? (x : Binary) (tie : Tie) (e : Int) : Option Scaled :=
  let low := x.floorAt e
  let lowFits := x.ReadsBack ⟨low, e⟩
  let highFits := x.ReadsBack ⟨low + 1, e⟩
  if lowFits && highFits then
    match compareScaled (2 * low + 1) e (2 * x.significand) x.exponent with
    | .gt => some ⟨low, e⟩
    | .lt => some ⟨low + 1, e⟩
    | .eq =>
      match tie with
      | .up => some ⟨low + 1, e⟩
      | .toEven => some ⟨if low % 2 = 0 then low else low + 1, e⟩
  else if lowFits then some ⟨low, e⟩
  else if highFits then some ⟨low + 1, e⟩
  else none

/-- The exact decimal value of `x`. -/
def exact (x : Binary) : Scaled :=
  if 0 ≤ x.exponent then ⟨x.significand * Nat.pow 2 x.exponent.toNat, 0⟩
  else ⟨x.significand * Nat.pow 5 (-x.exponent).toNat, x.exponent⟩

end Binary

namespace Scaled

/-- Moves trailing zeros of the digits into the exponent, at most `n` of them. -/
def dropZeros : Nat → Scaled → Scaled
  | 0, d => d
  | n + 1, d => if d.digits ≠ 0 ∧ d.digits % 10 = 0 then dropZeros n ⟨d.digits / 10, d.exponent + 1⟩
    else d

end Scaled

/-- The shortest decimal that reads back as `x`, without trailing zeros. Seventeen digits are
enough for either width; beyond them the exact value would be written. -/
def Binary.shortest (x : Binary) (tie : Tie) : Scaled :=
  if x.significand = 0 then ⟨0, 0⟩
  else
    let k := x.magnitude
    let found := (List.range 17).findSome? fun (n : Nat) => x.nearestAt? tie (k - ((n : Int) + 1))
    (found.getD x.exact).dropZeros 400

end PageScan.Decimal
