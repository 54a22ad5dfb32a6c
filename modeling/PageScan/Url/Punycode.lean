/-!
# Punycode

A label of any characters written with ASCII letters, digits and hyphens: first the ASCII
characters as they are, then, for every other character in ascending order, the distance from the
one before, counted in steps that pair a code point with a place in the label.

Distances are written in a mixed base whose digits' thresholds follow the distances seen so far.
-/

namespace PageScan.Url.Punycode

/-- The digit for a value below thirty-six: letters first. -/
def digit (n : Nat) : Char :=
  if n < 26 then Char.ofNat (97 + n) else Char.ofNat (22 + n)

/-- The value of a digit. -/
def digitValue? (c : Char) : Option Nat :=
  if 'a' ≤ c ∧ c ≤ 'z' then some (c.toNat - 97)
  else if 'A' ≤ c ∧ c ≤ 'Z' then some (c.toNat - 65)
  else if '0' ≤ c ∧ c ≤ '9' then some (c.toNat - 22)
  else none

/-- Below this value the digit at place `k` ends a distance. -/
def threshold (k bias : Nat) : Nat :=
  max 1 (min 26 (k - bias))

theorem threshold_pos (k bias : Nat) : 1 ≤ threshold k bias := by
  unfold threshold; omega

theorem threshold_le (k bias : Nat) : threshold k bias ≤ 26 := by
  unfold threshold; omega

/-- Divides a distance down, and the count of places that this takes. -/
def scaleDown (delta k : Nat) : Nat × Nat :=
  if 455 < delta then scaleDown (delta / 35) (k + 36) else (delta, k)
termination_by delta
decreasing_by exact Nat.div_lt_self (by omega) (by omega)

/-- The bias after a distance, `count` characters now being placed. -/
def adapt (delta count : Nat) (first : Bool) : Nat :=
  let delta := if first then delta / 700 else delta / 2
  let (delta, k) := scaleDown (delta + delta / count) 0
  k + 36 * delta / (delta + 38)

/-- The digits of a distance, from place `k` on. -/
def distance (bias k q : Nat) : List Char :=
  let t := threshold k bias
  if q < t then [digit q]
  else digit (t + (q - t) % (36 - t)) :: distance bias (k + 36) ((q - t) / (36 - t))
termination_by q
decreasing_by
  have hpos := threshold_pos k bias
  have hle := threshold_le k bias
  calc (q - threshold k bias) / (36 - threshold k bias)
      ≤ q - threshold k bias := Nat.div_le_self _ _
    _ < q := by omega

/-- Where a writer stands: the distance since the last character written, the bias, how many
characters are placed, and whether no distance is written yet. -/
structure Writer where
  delta : Nat
  bias : Nat
  placed : Nat
  first : Bool

/-- Passes over the label once, writing the characters with code point `n`. -/
def writeOnes (n : Nat) (w : Writer) : List Char → List Char × Writer
  | [] => ([], w)
  | c :: cs =>
    if c.toNat < n then writeOnes n { w with delta := w.delta + 1 } cs
    else if c.toNat = n then
      let (out, last) :=
        writeOnes n ⟨0, adapt w.delta (w.placed + 1) w.first, w.placed + 1, false⟩ cs
      (distance w.bias 36 w.delta ++ out, last)
    else writeOnes n w cs

/-- Writes the characters with the code points given, ascending, `n` being the least that they can
be. -/
def writeAll (label : List Char) (n : Nat) (w : Writer) : List Nat → List Char
  | [] => []
  | m :: rest =>
    let (out, last) := writeOnes m { w with delta := w.delta + (m - n) * (w.placed + 1) } label
    out ++ writeAll label (m + 1) { last with delta := last.delta + 1 } rest

/-- The label in ASCII. -/
def encode (label : List Char) : List Char :=
  let basic := label.filter (·.toNat < 0x80)
  let others := ((label.filter (0x80 ≤ ·.toNat)).map Char.toNat).mergeSort.eraseDups
  basic ++ (if basic.isEmpty then [] else ['-']) ++
    writeAll label 0x80 ⟨0, 72, basic.length, true⟩ others

/-- Reads one distance, onto `i`, and what follows it. -/
def readDistance (bias : Nat) : List Char → (k weight i : Nat) → Option (Nat × List Char)
  | [], _, _, _ => none
  | c :: cs, k, weight, i =>
    match digitValue? c with
    | none => none
    | some d =>
      let t := threshold k bias
      if d < t then some (i + d * weight, cs)
      else readDistance bias cs (k + 36) (weight * (36 - t)) (i + d * weight)

theorem readDistance_length (bias : Nat) (cs : List Char) (k weight i : Nat) {r : Nat × List Char}
    (h : readDistance bias cs k weight i = some r) : r.2.length < cs.length := by
  induction cs generalizing k weight i with
  | nil => simp [readDistance] at h
  | cons c cs ih =>
    rw [readDistance] at h
    split at h
    · simp at h
    · dsimp only at h
      split at h
      · cases h; simp
      · have := ih _ _ _ h
        simp; omega

/-- Places the characters that the distances name into `label`. -/
def placeAll (bias n i : Nat) (label : List Char) (cs : List Char) : Option (List Char) :=
  match cs with
  | [] => some label
  | c :: cs =>
    match h : readDistance bias (c :: cs) 36 1 i with
    | none => none
    | some (reached, rest) =>
      let count := label.length + 1
      let n := n + reached / count
      let place := reached % count
      if n < 0xD800 ∨ (0xDFFF < n ∧ n < 0x110000) then
        placeAll (adapt (reached - i) count (i = 0)) n (place + 1)
          (label.insertIdx place (Char.ofNat n)) rest
      else none
termination_by cs.length
decreasing_by
  have := readDistance_length _ _ _ _ _ h
  simpa using this

/-- The label that an ASCII form stands for. -/
def decode? (cs : List Char) : Option (List Char) :=
  let tail := (cs.reverse.takeWhile (· ≠ '-')).reverse
  let basic := cs.take (cs.length - tail.length - 1)
  placeAll 72 0x80 0 basic tail

end PageScan.Url.Punycode
