import PageScan.Json.Error

/-!
# Number literals

A literal is cut into its parts first and valued afterwards. Its digits are gathered into a 64-bit
significand for as long as they fit; a literal with a point, an exponent or too many digits becomes
the significand scaled by one power of ten.
-/

namespace PageScan.Json

/-- The parts of a number literal. -/
structure Numeral where
  negative : Bool
  whole : List Char
  fraction : Option (List Char)
  /-- The sign and the digits of the exponent. -/
  exponent : Option (Bool × List Char)

/-- An ASCII digit. -/
def isDigit (c : Char) : Bool :=
  '0' ≤ c && c ≤ '9'

/-- The value of a digit. -/
def digitValue (c : Char) : Nat :=
  c.toNat - '0'.toNat

namespace Numeral

/-- Two accounts of a broken literal: that of a reader who wants the value, and that of one who
only skips it. -/
structure Break where
  strict : Fault
  lenient : Fault

/-- The break of a literal that stops short: readers differ where the text ends. -/
def shortBreak : List Char → Break
  | [] => ⟨.endInValue, .invalidNumber⟩
  | _ :: _ => ⟨.invalidNumber, .invalidNumber⟩

/-- The exponent at the head of a text, if there is one. -/
def scanExponent (negative : Bool) (whole : List Char) (fraction : Option (List Char))
    (cs : List Char) : Except Break (Numeral × List Char) :=
  match cs with
  | [] => .ok (⟨negative, whole, fraction, none⟩, [])
  | c :: rest =>
    if c = 'e' ∨ c = 'E' then
      let (minus, digits) := match rest with
        | '+' :: ds => (false, ds)
        | '-' :: ds => (true, ds)
        | ds => (false, ds)
      if (digits.takeWhile isDigit).isEmpty then .error (shortBreak digits)
      else .ok (⟨negative, whole, fraction, some (minus, digits.takeWhile isDigit)⟩,
        digits.dropWhile isDigit)
    else .ok (⟨negative, whole, fraction, none⟩, c :: rest)

/-- The fraction at the head of a text, if there is one, and what follows it. -/
def scanFraction (negative : Bool) (whole : List Char) (cs : List Char) :
    Except Break (Numeral × List Char) :=
  match cs with
  | '.' :: digits =>
    if (digits.takeWhile isDigit).isEmpty then .error (shortBreak digits)
    else scanExponent negative whole (some (digits.takeWhile isDigit)) (digits.dropWhile isDigit)
  | cs => scanExponent negative whole none cs

/-- A literal without its sign. -/
def scanUnsigned (negative : Bool) (cs : List Char) : Except Break (Numeral × List Char) :=
  match cs with
  | [] => .error (shortBreak [])
  | '0' :: rest =>
    match rest with
    | d :: _ => if isDigit d then .error ⟨.invalidNumber, .invalidNumber⟩
      else scanFraction negative ['0'] rest
    | [] => scanFraction negative ['0'] []
  | c :: rest =>
    if isDigit c then scanFraction negative (c :: rest.takeWhile isDigit) (rest.dropWhile isDigit)
    else .error ⟨.invalidNumber, .invalidNumber⟩

/-- The literal at the head of a text, and what follows it. -/
def scan : List Char → Except Break (Numeral × List Char)
  | '-' :: cs => scanUnsigned true cs
  | cs => scanUnsigned false cs

theorem length_dropDigits (cs : List Char) : (cs.dropWhile isDigit).length ≤ cs.length :=
  (List.dropWhile_suffix isDigit).length_le

theorem length_scanExponent {negative : Bool} {whole : List Char} {fraction : Option (List Char)}
    {cs rest : List Char} {n : Numeral}
    (h : scanExponent negative whole fraction cs = .ok (n, rest)) : rest.length ≤ cs.length := by
  unfold scanExponent at h
  grind [length_dropDigits]

theorem length_scanFraction {negative : Bool} {whole cs rest : List Char} {n : Numeral}
    (h : scanFraction negative whole cs = .ok (n, rest)) : rest.length ≤ cs.length := by
  unfold scanFraction at h
  split at h
  · split at h
    · simp at h
    · rename_i digits _
      have := length_scanExponent h
      have := length_dropDigits digits
      simp only [List.length_cons]
      omega
  · exact length_scanExponent h

theorem length_scanUnsigned {negative : Bool} {cs rest : List Char} {n : Numeral}
    (h : scanUnsigned negative cs = .ok (n, rest)) : rest.length < cs.length := by
  unfold scanUnsigned at h
  split at h
  · simp at h
  · split at h
    · split at h
      · simp at h
      · have := length_scanFraction h
        simp only [List.length_cons] at *
        omega
    · have := length_scanFraction h
      simp only [List.length_cons] at *
      omega
  · split at h
    · rename_i tail _ _
      have := length_scanFraction h
      have := length_dropDigits tail
      simp only [List.length_cons]
      omega
    · simp at h

/-- A literal is not empty. -/
theorem length_scan {cs rest : List Char} {n : Numeral} (h : scan cs = .ok (n, rest)) :
    rest.length < cs.length := by
  unfold scan at h
  split at h
  · have := length_scanUnsigned h
    simp only [List.length_cons]
    omega
  · exact length_scanUnsigned h

/-- A significand that takes digits while it fits in 64 bits and counts those that it drops. -/
structure Gathered where
  significand : Nat
  dropped : Nat

namespace Gathered

/-- Takes a digit, or drops it once one has been dropped. -/
def push (g : Gathered) (c : Char) : Gathered :=
  let next := g.significand * 10 + digitValue c
  if g.dropped = 0 ∧ next < Nat.pow 2 64 then ⟨next, 0⟩ else ⟨g.significand, g.dropped + 1⟩

/-- Takes a run of digits. -/
def pushAll (g : Gathered) (digits : List Char) : Gathered :=
  digits.foldl push g

end Gathered

/-- A power of ten. -/
def powerOfTen (n : Nat) : Float :=
  Float.ofScientific 1 false n

/-- `x * 10 ^ exponent`, in one multiplication or division if the power is in range. -/
def scale (x : Float) (exponent : Int) : Except Fault Float :=
  if exponent.natAbs ≤ 308 then
    if 0 ≤ exponent then
      let y := x * powerOfTen exponent.natAbs
      if y.isInf then .error .numberOutOfRange else .ok y
    else .ok (x / powerOfTen exponent.natAbs)
  else if x == 0.0 then .ok x
  else if 0 ≤ exponent then .error .numberOutOfRange
  else scale (x / powerOfTen 308) (exponent + 308)
termination_by exponent.natAbs
decreasing_by omega

/-- The number that a literal stands for. -/
def value (n : Numeral) : Except Fault Number :=
  let whole := Gathered.pushAll ⟨0, 0⟩ n.whole
  let signed (x : Float) : Number := .float (if n.negative then -x else x)
  if n.fraction.isNone ∧ n.exponent.isNone ∧ whole.dropped = 0 then
    if ¬ n.negative then .ok (.int whole.significand)
    else if 0 < whole.significand ∧ whole.significand ≤ Nat.pow 2 63 then
      .ok (.int (-whole.significand))
    else .ok (signed whole.significand.toUInt64.toFloat)
  else
    let digits := n.fraction.getD []
    let all := Gathered.pushAll ⟨whole.significand, 0⟩ digits
    let shift : Int := (whole.dropped : Int) - ((digits.length - all.dropped : Nat) : Int)
    let (minus, exponentDigits) := n.exponent.getD (false, [])
    let exponent := exponentDigits.foldl (fun e c => e * 10 + digitValue c) 0
    if exponent ≥ Nat.pow 2 31 then
      if all.significand ≠ 0 ∧ ¬ minus then .error .numberOutOfRange else .ok (signed 0.0)
    else
      (scale all.significand.toUInt64.toFloat
        (if minus then shift - (exponent : Int) else shift + exponent)).map signed

end Numeral

end PageScan.Json
