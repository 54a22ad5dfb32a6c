/-!
# Base64

The standard alphabet with mandatory padding. Decoding accepts nothing but what encoding writes:
unused bits of the last symbol have to be zero and the padding has to be complete.
-/

namespace PageScan.Base64

/-- Why a text is not Base64. Offsets count bytes from the start. -/
inductive Error
  | symbol (byte : UInt8) (offset : Nat)
  | lastSymbol (byte : UInt8) (offset : Nat)
  | length (n : Nat)
  | padding
  deriving DecidableEq, Repr

/-- The wording of an error. -/
def Error.message : Error → String
  | .symbol b i => "Invalid symbol " ++ toString b.toNat ++ ", offset " ++ toString i ++ "."
  | .lastSymbol b i =>
    "Invalid last symbol " ++ toString b.toNat ++ ", offset " ++ toString i ++ "."
  | .length n => "Invalid input length: " ++ toString n
  | .padding => "Invalid padding"

/-- The padding character. -/
def pad : UInt8 := 61

/-- The symbol for a value below 64. -/
def symbolOf (n : Nat) : UInt8 :=
  if n < 26 then UInt8.ofNat (65 + n)
  else if n < 52 then UInt8.ofNat (71 + n)
  else if n < 62 then UInt8.ofNat (n - 4)
  else if n = 62 then 43
  else 47

/-- The value of a symbol. -/
def valueOf? (b : UInt8) : Option Nat :=
  let n := b.toNat
  if 65 ≤ n ∧ n ≤ 90 then some (n - 65)
  else if 97 ≤ n ∧ n ≤ 122 then some (n - 71)
  else if 48 ≤ n ∧ n ≤ 57 then some (n + 4)
  else if n = 43 then some 62
  else if n = 47 then some 63
  else none

/-- The symbols of a run of bytes. -/
def encodeBytes : List UInt8 → List UInt8
  | [] => []
  | [a] => [symbolOf (a.toNat / 4), symbolOf (a.toNat % 4 * 16), pad, pad]
  | [a, b] =>
    [symbolOf (a.toNat / 4), symbolOf (a.toNat % 4 * 16 + b.toNat / 16),
      symbolOf (b.toNat % 16 * 4), pad]
  | a :: b :: c :: rest =>
    symbolOf (a.toNat / 4) :: symbolOf (a.toNat % 4 * 16 + b.toNat / 16) ::
      symbolOf (b.toNat % 16 * 4 + c.toNat / 64) :: symbolOf (c.toNat % 64) :: encodeBytes rest

/-- The text of a run of bytes. -/
def encode (bytes : List UInt8) : String :=
  String.ofList ((encodeBytes bytes).map fun b => Char.ofNat b.toNat)

/-- The value of the symbol at an offset. -/
def valueAt (b : UInt8) (offset : Nat) : Except Error Nat :=
  match valueOf? b with
  | some n => .ok n
  | none => .error (.symbol b offset)

/-- The three bytes of four values. -/
def triple (a b c d : Nat) : List UInt8 :=
  [UInt8.ofNat (a * 4 + b / 16), UInt8.ofNat (b % 16 * 16 + c / 4), UInt8.ofNat (c % 4 * 64 + d)]

/-- The bytes of the last four symbols or fewer, the first of which has the given offset. -/
def decodeLast (offset : Nat) : List UInt8 → Except Error (List UInt8)
  | [] => .ok []
  | [a] =>
    if a = pad then .error (.symbol a offset) else do
      let _ ← valueAt a offset
      .error (.length (offset + 1))
  | a :: b :: rest =>
    if a = pad then .error (.symbol a offset) else do
    let x ← valueAt a offset
    if b = pad then .error (.symbol b (offset + 1)) else do
    let y ← valueAt b (offset + 1)
    match rest with
    | [] => .error .padding
    | c :: rest =>
      if c = pad then
        match rest with
        | [] => .error .padding
        | d :: _ =>
          if d = pad then
            if y % 16 = 0 then .ok [UInt8.ofNat (x * 4 + y / 16)]
            else .error (.lastSymbol b (offset + 1))
          else .error (.symbol c (offset + 2))
      else do
        let z ← valueAt c (offset + 2)
        match rest with
        | [] => .error .padding
        | d :: _ =>
          if d = pad then
            if z % 4 = 0 then
              .ok [UInt8.ofNat (x * 4 + y / 16), UInt8.ofNat (y % 16 * 16 + z / 4)]
            else .error (.lastSymbol c (offset + 2))
          else do
            let w ← valueAt d (offset + 3)
            .ok (triple x y z w)

/-- The bytes of symbols, the first of which has the given offset. -/
def decodeFrom (offset : Nat) : List UInt8 → Except Error (List UInt8)
  | a :: b :: c :: d :: e :: rest => do
    let x ← valueAt a offset
    let y ← valueAt b (offset + 1)
    let z ← valueAt c (offset + 2)
    let w ← valueAt d (offset + 3)
    let bytes ← decodeFrom (offset + 4) (e :: rest)
    return triple x y z w ++ bytes
  | last => decodeLast offset last

/-- The bytes that the symbols stand for. A single symbol too many is looked at first. -/
def decodeBytes (symbols : List UInt8) : Except Error (List UInt8) :=
  match symbols.getLast? with
  | some b =>
    if symbols.length % 4 = 1 ∧ b ≠ pad ∧ (valueOf? b).isNone then
      .error (.symbol b (symbols.length - 1))
    else decodeFrom 0 symbols
  | none => .ok []

/-- The bytes that a text stands for. -/
def decode (text : String) : Except Error (List UInt8) :=
  decodeBytes text.toUTF8.toList

end PageScan.Base64
