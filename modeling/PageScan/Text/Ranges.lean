import PageScan.Text.Blank
import PageScan.Text.Find
import PageScan.Text.Hex

/-!
# Tables of characters

Properties of characters in a compact written form, with code points in hexadecimal and rows
separated by blanks: ranges (`300-34e`, or a single `37e`), shifts (`410-42f/1+20`, every first
character of the range moved by a distance) and images (`132:69.6a,69.6a`, what the characters from
the first one on become).
-/

namespace PageScan.Text

/-- A code point, or zero for what is none. -/
def codePoint (cs : List Char) : Nat :=
  (hexNumber? cs).getD 0

/-- The bounds that a row names. -/
def range (row : List Char) : Nat × Nat :=
  match splitOnce? ['-'] row with
  | some (low, high) => (codePoint low, codePoint high)
  | none => (codePoint row, codePoint row)

/-- The ranges of a table. -/
def ranges (table : String) : List (Nat × Nat) :=
  (words table).map range

/-- Every `stride`-th character of a range, and how far it is moved. -/
structure Shift where
  first : Nat
  last : Nat
  stride : Nat
  distance : Int

/-- The row of a shift. -/
def shift (row : List Char) : Shift :=
  let (bounds, rest) := (splitOnce? ['/'] row).getD (row, [])
  let (first, last) := range bounds
  match splitOnce? ['+'] rest with
  | some (stride, d) => ⟨first, last, codePoint stride, codePoint d⟩
  | none =>
    let (stride, d) := (splitOnce? ['-'] rest).getD (rest, [])
    ⟨first, last, codePoint stride, - codePoint d⟩

/-- The shifts of a table. -/
def shifts (table : String) : List Shift :=
  (words table).map shift

/-- Where a table of shifts moves a character. -/
def shifted? (table : List Shift) (c : Char) : Option Char :=
  (table.find? fun s =>
    s.first ≤ c.toNat && c.toNat ≤ s.last && (c.toNat - s.first) % s.stride == 0).map
    fun s => Char.ofNat ((c.toNat : Int) + s.distance).toNat

/-- The characters from `first` on, with what each becomes. -/
structure Images where
  first : Nat
  images : Array (List Char)

/-- The row of a run of images. -/
def imageRun (row : List Char) : Images :=
  let (first, rest) := (splitOnce? [':'] row).getD (row, [])
  ⟨codePoint first,
    ((pieces (· = ',') rest).map fun image =>
      if image.isEmpty then []
      else (pieces (· = '.') image).map fun c => Char.ofNat (codePoint c)).toArray⟩

/-- The runs of images of a table. -/
def imageRuns (table : String) : List Images :=
  (words table).map imageRun

/-- What a table of images makes of a character. -/
def image? (table : List Images) (c : Char) : Option (List Char) :=
  table.findSome? fun run =>
    if run.first ≤ c.toNat then run.images[c.toNat - run.first]? else none

end PageScan.Text
