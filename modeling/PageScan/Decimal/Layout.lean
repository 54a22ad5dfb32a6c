import PageScan.Decimal.Shortest

/-!
# Laying out decimals

A `Layout` records the decisions of a number format: which exponents are written positionally,
whether a whole number keeps a `.0`, and how the exponent looks. `Layout.float64` and
`Layout.float32` write the shortest decimal of a value in such a format.
-/

namespace PageScan.Decimal

/-- The decisions of a format for floating-point numbers. -/
structure Layout where
  /-- Whether a number whose leading digit stands for `10 ^ e` is written positionally. -/
  isPlain : Int → Bool
  /-- Whole numbers are written `12.0` rather than `12`. -/
  pointZero : Bool
  /-- Positive exponents carry a sign, as in `1e+16`. -/
  plusSign : Bool
  /-- The choice between two equally near shortest decimals. -/
  tie : Tie
  /-- The text of a value that is no number. -/
  nan : String
  /-- The text of positive infinity. -/
  infinity : String

namespace Layout

/-- Positional notation: zeros are supplied on either side as needed. -/
def positional (l : Layout) (digits : List Char) (exponent : Int) : List Char :=
  if 0 ≤ exponent then
    digits ++ List.replicate exponent.toNat '0' ++ (if l.pointZero then ['.', '0'] else [])
  else
    let places := (-exponent).toNat
    if places < digits.length then
      digits.take (digits.length - places) ++ '.' :: digits.drop (digits.length - places)
    else
      '0' :: '.' :: List.replicate (places - digits.length) '0' ++ digits

/-- Scientific notation: one digit before the point. -/
def scientific (l : Layout) (digits : List Char) (exponent : Int) : List Char :=
  let lead := exponent + ((digits.length : Int) - 1)
  let mantissa := match digits with
    | [] => []
    | [d] => [d]
    | d :: ds => d :: '.' :: ds
  let sign := if lead < 0 then ['-'] else if l.plusSign then ['+'] else []
  mantissa ++ 'e' :: sign ++ (Nat.repr lead.natAbs).toList

/-- The text of a non-negative decimal. -/
def scaled (l : Layout) (d : Scaled) : List Char :=
  let digits := (Nat.repr d.digits).toList
  if l.isPlain (d.exponent + ((digits.length : Int) - 1)) then l.positional digits d.exponent
  else l.scientific digits d.exponent

/-- A text with a minus sign in front of it if `negative`. -/
def signed (negative : Bool) (text : List Char) : String :=
  String.ofList (if negative then '-' :: text else text)

/-- The text of a 64-bit value. -/
def float64 (l : Layout) (x : Float) : String :=
  if x.isNaN then l.nan
  else
    let bits := x.toBits
    let negative := bits >>> 63 = 1
    if x.isInf then signed negative l.infinity.toList
    else signed negative (l.scaled ((Binary.ofBits64 bits).shortest l.tie))

/-- The text of a 32-bit value. -/
def float32 (l : Layout) (x : Float32) : String :=
  if x.isNaN then l.nan
  else
    let bits := x.toBits
    let negative := bits >>> 31 = 1
    if x.isInf then signed negative l.infinity.toList
    else signed negative (l.scaled ((Binary.ofBits32 bits).shortest l.tie))

end Layout

end PageScan.Decimal
