/-!
# Telling image formats apart

The format of an encoded image is read off its first bytes, whatever is said about it.
-/

namespace PageScan.Image

/-- What the first bytes of an image announce. -/
inductive Announced
  | png
  | jpeg
  /-- A known format that is not read. -/
  | other
  deriving DecidableEq, Repr

/-- The bytes that a format begins with. -/
structure Signature where
  bytes : List UInt8
  format : Announced

/-- The signatures of all known formats, in the order in which they are tried. -/
def signatures : List Signature :=
  [⟨[0x89, 0x50, 0x4e, 0x47, 0x0d, 0x0a, 0x1a, 0x0a], .png⟩,
    ⟨[0xff, 0xd8, 0xff], .jpeg⟩,
    ⟨"GIF89a".toUTF8.toList, .other⟩,
    ⟨"GIF87a".toUTF8.toList, .other⟩,
    ⟨"RIFF".toUTF8.toList, .other⟩,
    ⟨[0x4d, 0x4d, 0x00, 0x2a], .other⟩,
    ⟨[0x49, 0x49, 0x2a, 0x00], .other⟩,
    ⟨"DDS ".toUTF8.toList, .other⟩,
    ⟨"BM".toUTF8.toList, .other⟩,
    ⟨[0, 0, 1, 0], .other⟩,
    ⟨"#?RADIANCE".toUTF8.toList, .other⟩,
    ⟨"P1".toUTF8.toList, .other⟩,
    ⟨"P2".toUTF8.toList, .other⟩,
    ⟨"P3".toUTF8.toList, .other⟩,
    ⟨"P4".toUTF8.toList, .other⟩,
    ⟨"P5".toUTF8.toList, .other⟩,
    ⟨"P6".toUTF8.toList, .other⟩,
    ⟨"P7".toUTF8.toList, .other⟩,
    ⟨"farbfeld".toUTF8.toList, .other⟩,
    ⟨[0x00, 0x00, 0x00, 0x20] ++ "ftypavif".toUTF8.toList, .other⟩,
    ⟨[0x00, 0x00, 0x00, 0x1c] ++ "ftypavif".toUTF8.toList, .other⟩,
    ⟨[0x76, 0x2f, 0x31, 0x01], .other⟩,
    ⟨"qoif".toUTF8.toList, .other⟩]

/-- What an image announces, if it is any known format. -/
def announced? (bytes : List UInt8) : Option Announced :=
  (signatures.find? fun s => s.bytes.isPrefixOf bytes).map (·.format)

end PageScan.Image
