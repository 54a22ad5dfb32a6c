import PageScan.Text.Find
import PageScan.Text.Hex

/-!
# Numeric hosts

Addresses of four bytes, written as up to four numbers in base ten, eight or sixteen, and addresses
of eight pieces, written in base sixteen between colons, a run of zeros once left out. Each has one
form in which it is printed.
-/

namespace PageScan.Url

/-- An address of thirty-two bits. -/
structure Ipv4 where
  value : Nat
  deriving DecidableEq

/-- An address of eight pieces of sixteen bits. -/
structure Ipv6 where
  pieces : List Nat
  deriving DecidableEq

namespace Ipv4

/-- The number that `digits` stand for in base `base`. -/
def number? (base : Nat) (digits : List Char) : Option Nat :=
  digits.foldlM (fun n c => do
    let d ← Text.hexValue? c
    if d < base then some (base * n + d) else none) 0

/-- Reads one part of an address: base sixteen after `0x`, base eight after `0`, else base ten. -/
def part? (cs : List Char) : Option Nat :=
  match cs with
  | [] => none
  | '0' :: 'x' :: digits | '0' :: 'X' :: digits => number? 16 digits
  | '0' :: d :: digits => number? 8 (d :: digits)
  | digits => number? 10 digits

/-- The last part of the name is a number, so that the name has to be an address. -/
def isMeant (name : List Char) : Bool :=
  let last := match (Text.pieces (· = '.') name).reverse with
    | [] :: before :: _ => before
    | last :: _ => last
    | [] => []
  (!last.isEmpty && last.all Char.isDigit) || (part? last).isSome

/-- The address of the parts given: each is a byte but the last, which fills what is left. -/
def ofParts? (parts : List Nat) : Option Ipv4 :=
  match parts.reverse with
  | [] => none
  | last :: before =>
    let leading := before.reverse
    if leading.all (· ≤ 255) && last < Nat.pow 256 (4 - leading.length) && leading.length < 4 then
      let high := leading.foldl (fun n byte => 256 * n + byte) 0
      some ⟨high * Nat.pow 256 (4 - leading.length) + last⟩
    else none

/-- Reads an address; a point may end it. -/
def ofText? (name : List Char) : Option Ipv4 :=
  let parts := Text.pieces (· = '.') name
  let parts := if parts.getLast? = some [] then parts.dropLast else parts
  (parts.mapM part?).bind ofParts?

/-- The four bytes of an address, points between them. -/
def text (a : Ipv4) : String :=
  ".".intercalate
    ([a.value / 16777216, a.value / 65536 % 256, a.value / 256 % 256, a.value % 256].map toString)

end Ipv4

namespace Ipv6

/-- The value of the hexadecimal digits at the start, at most `most` of them, and what follows. -/
def leadingPiece (most : Nat) (value : Nat) (cs : List Char) : Nat × List Char :=
  match most, cs with
  | most + 1, c :: rest =>
    match Text.hexValue? c with
    | some d => leadingPiece most (16 * value + d) rest
    | none => (value, cs)
  | _, _ => (value, cs)

/-- One byte of an address in base ten: no leading zero, at most 255. -/
def tailByte? (cs : List Char) : Option Nat :=
  match cs with
  | [] => none
  | ['0'] => some 0
  | '0' :: _ => none
  | digits => do
    let n ← Ipv4.number? 10 digits
    if n ≤ 255 then some n else none

/-- The last two pieces, written as four bytes in base ten. -/
def tail? (cs : List Char) : Option (List Nat) := do
  match ← (Text.pieces (· = '.') cs).mapM tailByte? with
  | [a, b, c, d] => some [256 * a + b, 256 * c + d]
  | _ => none

/-- Reads pieces, last first onto `done`; `gap` is how many there were where zeros were left out.
`room` is how many pieces there can still be. -/
def pieces? (room : Nat) (done : List Nat) (gap : Option Nat) (cs : List Char) :
    Option (List Nat × Option Nat) :=
  match cs, room with
  | [], _ => some (done, gap)
  | _ :: _, 0 => none
  | ':' :: rest, room + 1 =>
    if gap.isSome then none else pieces? room done (some done.length) rest
  | c :: rest, room + 1 =>
    match leadingPiece 4 0 (c :: rest) with
    | (value, []) => some (value :: done, gap)
    | (value, ':' :: rest) => if rest.isEmpty then none else pieces? room (value :: done) gap rest
    | (_, '.' :: _) =>
      if room = 0 || !c.isDigit then none
      else (tail? (c :: rest)).map fun pieces => (pieces.reverse ++ done, gap)
    | _ => none

/-- Reads an address. -/
def ofText? (cs : List Char) : Option Ipv6 :=
  let read := match cs with
    | ':' :: ':' :: rest => pieces? 7 [] (some 0) rest
    | ':' :: _ => none
    | [] | [_] => none
    | cs => pieces? 8 [] none cs
  match read with
  | none => none
  | some (done, none) => if done.length = 8 then some ⟨done.reverse⟩ else none
  | some (done, some gap) =>
    let before := done.reverse.take gap
    let after := done.reverse.drop gap
    some ⟨before ++ List.replicate (8 - done.length) 0 ++ after⟩

/-- The length of the run of zeros at the start. -/
def zeros (pieces : List Nat) : Nat :=
  (pieces.takeWhile (· = 0)).length

/-- Where the longest run of at least two zeros starts, the first of several, and its length. -/
def longestZeros (pieces : List Nat) : Nat × Nat :=
  (List.range pieces.length).foldl
    (fun best i =>
      let n := zeros (pieces.drop i)
      if 1 < n && best.2 < n then (i, n) else best)
    (0, 0)

/-- The pieces with colons between them. -/
def piecesText (pieces : List Nat) : String :=
  ":".intercalate (pieces.map fun n => String.ofList (Text.hexNat n))

/-- The address, its longest run of zeros left out. -/
def text (a : Ipv6) : String :=
  match longestZeros a.pieces with
  | (_, 0) => piecesText a.pieces
  | (start, n) => piecesText (a.pieces.take start) ++ "::" ++ piecesText (a.pieces.drop (start + n))

end Ipv6

end PageScan.Url
