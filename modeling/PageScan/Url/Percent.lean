import PageScan.Text.Hex
import PageScan.Text.Utf8

/-!
# Percent encoding

Which characters each part of an address writes as the bytes of their UTF-8 form, each byte as `%`
and two capital digits, and the reading of such a text as bytes.
-/

namespace PageScan.Url

/-- A byte as `%` and two hexadecimal digits. -/
def percentByte (b : UInt8) : List Char :=
  '%' :: (Text.hexByte b).map Char.toUpper

/-- The characters that no part of an address holds as themselves: controls, and all that is not
ASCII. -/
def escapedAlways (c : Char) : Bool :=
  c.toNat < 0x20 || 0x7F ≤ c.toNat

/-- Escaped in a fragment. -/
def escapedInFragment (c : Char) : Bool :=
  escapedAlways c || [' ', '"', '<', '>', '\x60'].contains c

/-- Escaped in a path. -/
def escapedInPath (c : Char) : Bool :=
  escapedInFragment c || ['#', '?', '\x7b', '\x7d'].contains c

/-- Escaped in a user name or password. -/
def escapedInUser (c : Char) : Bool :=
  escapedInPath c || ['/', ':', ';', '=', '@', '[', '\\', ']', '^', '|'].contains c

/-- Escaped in a query. -/
def escapedInQuery (c : Char) : Bool :=
  escapedAlways c || [' ', '"', '#', '<', '>'].contains c

/-- Escaped in the query of an address with a special scheme. -/
def escapedInSpecialQuery (c : Char) : Bool :=
  escapedInQuery c || c = '\''

/-- The text with the characters that satisfy `escaped` as bytes. -/
def percentEncode (escaped : Char → Bool) (cs : List Char) : List Char :=
  cs.flatMap fun c =>
    if escaped c then (Text.utf8 (String.singleton c)).flatMap percentByte else [c]

/-- The bytes of a text, with each `%` and two digits read as the byte that they stand for. A `%`
that two digits do not follow stands for itself. -/
def percentDecode : List UInt8 → List UInt8
  | [] => []
  | 0x25 :: a :: b :: rest =>
    match Text.hexValue? (Char.ofNat a.toNat), Text.hexValue? (Char.ofNat b.toNat) with
    | some high, some low => UInt8.ofNat (16 * high + low) :: percentDecode rest
    | _, _ => 0x25 :: percentDecode (a :: b :: rest)
  | b :: rest => b :: percentDecode rest

end PageScan.Url
