/-!
# Texts from bytes

Strict decoding refuses bytes that are not UTF-8. Lossy decoding puts one replacement character in
place of each maximal part of an ill-formed sequence.
-/

namespace PageScan.Text

/-- The bytes of a text in UTF-8. -/
def utf8 (s : String) : List UInt8 :=
  s.toUTF8.toList

/-- The text that the bytes encode, if they are well-formed. -/
def ofUtf8? (bytes : List UInt8) : Option String :=
  String.fromUTF8? (ByteArray.mk bytes.toArray)

/-- What a lead byte asks for: the number of bytes that follow, the range of the first of them, and
the bits that the lead contributes. -/
def leadByte? (b : UInt8) : Option (Nat × Nat × Nat × Nat) :=
  let n := b.toNat
  if n < 0xC2 then none
  else if n ≤ 0xDF then some (1, 0x80, 0xBF, n - 0xC0)
  else if n = 0xE0 then some (2, 0xA0, 0xBF, 0)
  else if n = 0xED then some (2, 0x80, 0x9F, 13)
  else if n ≤ 0xEF then some (2, 0x80, 0xBF, n - 0xE0)
  else if n = 0xF0 then some (3, 0x90, 0xBF, 0)
  else if n ≤ 0xF3 then some (3, 0x80, 0xBF, n - 0xF0)
  else if n = 0xF4 then some (3, 0x80, 0x8F, 4)
  else none

/-- Decodes bytes, replacing what is ill-formed. The state is the sequence in progress: how many
bytes it still wants, the range of the next one, and the value so far. -/
def lossyFrom (state : Option (Nat × Nat × Nat × Nat)) : List UInt8 → List Char
  | [] => if state.isSome then ['\uFFFD'] else []
  | b :: bs =>
    let n := b.toNat
    let fresh : Unit → List Char := fun _ =>
      if n < 0x80 then Char.ofNat n :: lossyFrom none bs
      else match leadByte? b with
        | some s => lossyFrom (some s) bs
        | none => '\uFFFD' :: lossyFrom none bs
    match state with
    | none => fresh ()
    | some (wanted, low, high, value) =>
      if low ≤ n ∧ n ≤ high then
        let value := 64 * value + (n - 0x80)
        if wanted ≤ 1 then Char.ofNat value :: lossyFrom none bs
        else lossyFrom (some (wanted - 1, 0x80, 0xBF, value)) bs
      else '\uFFFD' :: fresh ()

/-- The text of the bytes, with a replacement character for each ill-formed part. -/
def lossy (bytes : List UInt8) : String :=
  String.ofList (lossyFrom none bytes)

end PageScan.Text
