/-!
# Searching a text

Prefixes, suffixes, substrings and splitting, on lists of characters.
-/

namespace PageScan.Text

/-- What follows `lead`, if the text starts with it. -/
def stripLead? : (lead text : List Char) → Option (List Char)
  | [], text => some text
  | _ :: _, [] => none
  | p :: ps, c :: cs => if p = c then stripLead? ps cs else none

/-- What stands before and after the first occurrence of `sep`. -/
def splitOnce? (sep : List Char) : List Char → Option (List Char × List Char)
  | [] => if sep.isEmpty then some ([], []) else none
  | c :: cs =>
    match stripLead? sep (c :: cs) with
    | some rest => some ([], rest)
    | none => (splitOnce? sep cs).map fun (before, after) => (c :: before, after)

/-- The text contains `part`. -/
def contains (part text : List Char) : Bool :=
  (splitOnce? part text).isSome

/-- The pieces of a text between the characters that satisfy `p`. There is one piece more than
there are such characters. -/
def splitAt (p : Char → Bool) (piece : List Char) : List Char → List (List Char)
  | [] => [piece.reverse]
  | c :: cs => if p c then piece.reverse :: splitAt p [] cs else splitAt p (c :: piece) cs

/-- The pieces of a text between the characters that satisfy `p`. -/
def pieces (p : Char → Bool) (cs : List Char) : List (List Char) :=
  splitAt p [] cs

/-- An ASCII capital as a small letter; all other characters as they are. -/
def lowerAscii (c : Char) : Char :=
  if 'A' ≤ c ∧ c ≤ 'Z' then Char.ofNat (c.toNat + 32) else c

/-- The text with its ASCII capitals as small letters. -/
def lower (s : String) : String :=
  String.ofList (s.toList.map lowerAscii)

/-- The texts joined, with `sep` between neighbours. -/
def join (sep : String) (parts : List String) : String :=
  sep.intercalate parts

end PageScan.Text
