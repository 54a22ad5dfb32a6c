import PageScan.Text.Hex
import PageScan.Text.Find
import PageScan.Json.Decoder

/-!
# Scan identifiers

A scan is identified by sixteen bytes. They are written as 32 hexadecimal digits in groups of 8, 4,
4, 4 and 12, and read from that form, from the digits alone, in braces, or as a name.
-/

namespace PageScan

/-- Sixteen bytes. -/
structure ScanId where
  bytes : List UInt8
  deriving DecidableEq

namespace ScanId

/-- Why a text is no identifier. -/
inductive Error
  | character (c : Char) (index : Nat)
  | simpleLength (n : Nat)
  | groupCount (n : Nat)
  | groupLength (group expected found : Nat)
  deriving DecidableEq

/-- The wording of an error. -/
def Error.message : Error → String
  | .character c i => "invalid character: found `" ++ c.toString ++ "` at " ++ toString i
  | .simpleLength n => "invalid length: found " ++ toString n
  | .groupCount n => "invalid group count: expected 5, found " ++ toString n
  | .groupLength group expected found =>
    "invalid group length in group " ++ toString group ++ ": expected " ++ toString expected ++
      ", found " ++ toString found

/-- What stands before the identifier in a name. -/
def namePrefix : List Char := "urn:uuid:".toList

/-- The text inside braces or behind the name's prefix, where it starts, and whether it stood
alone. -/
def unwrap (cs : List Char) : List Char × Nat × Bool :=
  match cs with
  | '\x7b' :: rest =>
    if rest.getLast? = some '\x7d' then (rest.dropLast, 1, false) else (cs, 0, true)
  | cs =>
    if (cs.take 9).map Text.lowerAscii = namePrefix then (cs.drop 9, 9, false) else (cs, 0, true)

/-- The lengths of the five groups. -/
def groupLengths : List Nat := [8, 4, 4, 4, 12]

/-- The first character that may not stand in an identifier, and its offset in bytes. -/
def badCharacter (offset : Nat) : List Char → Option (Char × Nat)
  | [] => none
  | c :: cs =>
    if c = '-' ∨ (Text.hexValue? c).isSome then badCharacter (offset + c.utf8Size) cs
    else some (c, offset)

/-- The first group whose length is not the expected one. -/
def badGroup (index : Nat) : List (Nat × Nat) → Option Error
  | [] => none
  | (expected, found) :: rest =>
    if expected = found then badGroup (index + 1) rest
    else some (.groupLength index expected found)

/-- What is wrong with a text that is no identifier. -/
def diagnose (cs : List Char) : Error :=
  let (inner, start, alone) := unwrap cs
  match badCharacter start inner with
  | some (c, i) => .character c i
  | none =>
    let groups := Text.pieces (· = '-') inner
    if groups.length = 1 ∧ alone then .simpleLength cs.length
    else if groups.length ≠ 5 then .groupCount groups.length
    else
      let lengths := groups.map List.length
      let last := cs.length - 24
      (badGroup 0 (groupLengths.zip (lengths.dropLast ++ [last]))).getD (.groupLength 4 12 last)

/-- Reads an identifier. -/
def ofText (s : String) : Except Error ScanId :=
  let cs := s.toList
  let (inner, _, alone) := unwrap cs
  let groups := Text.pieces (· = '-') inner
  let wellFormed := groups.map List.length = groupLengths ∨
    (alone ∧ groups.length = 1 ∧ cs.length = 32)
  match if wellFormed then Text.bytesOfHex? groups.flatten else none with
  | some bytes => .ok ⟨bytes⟩
  | none => .error (diagnose cs)

/-- The digits in groups. -/
def text (id : ScanId) : String :=
  let hex := id.bytes.flatMap Text.hexByte
  String.ofList <| hex.take 8 ++ '-' :: (hex.drop 8).take 4 ++ '-' :: (hex.drop 12).take 4 ++
    '-' :: (hex.drop 16).take 4 ++ '-' :: hex.drop 20

/-- Reads an identifier from a document. -/
def decoder : Json.Decoder ScanId :=
  .parsed "a formatted UUID string" fun s =>
    (ofText s).mapError fun e => "UUID parsing failed: " ++ e.message

/-- The identifier as a document. -/
def toJson (id : ScanId) : Json.Value :=
  .string id.text

instance : Json.Document ScanId := ⟨decoder, toJson⟩

end ScanId

end PageScan
