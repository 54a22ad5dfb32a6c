import PageScan.Text.Blank

/-!
# Wrapping text

Text is wrapped greedily: words are cut into pieces that fit a line, and a line takes pieces as
long as they fit.

* `pieces` cuts a word.
* `fill` gathers pieces into lines.
* `wrap` is the whole.
-/

namespace PageScan.Text.Wrap

/-- A word in pieces of `width` characters, of which the last may be shorter. A width of zero cuts
nothing. -/
def pieces (width : Nat) (word : List Char) : List (List Char) :=
  if 0 < width ∧ width < word.length then
    word.take width :: pieces width (word.drop width)
  else [word]
termination_by word.length
decreasing_by
  simp only [List.length_drop]
  omega

/-- Adds pieces to `line` as long as they fit, and goes on with the next line. -/
def fill (width : Nat) (line : List Char) : List (List Char) → List (List Char)
  | [] => [line]
  | piece :: rest =>
    if line.length + 1 + piece.length ≤ width then fill width (line ++ ' ' :: piece) rest
    else line :: fill width piece rest

/-- Gathers pieces into lines. -/
def gather (width : Nat) : List (List Char) → List (List Char)
  | [] => []
  | piece :: rest => fill width piece rest

/-- The lines of a text at a width. -/
def wrap (width : Nat) (text : String) : List String :=
  (gather width ((words text).flatMap (pieces width))).map String.ofList

end PageScan.Text.Wrap
