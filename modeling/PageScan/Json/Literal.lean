import PageScan.Json.Error
import PageScan.Text.Hex

/-!
# String literals

A literal is first cut into pieces, where an escaped 16-bit unit stays apart from characters; then
the units are paired. A reader who skips a literal only asks whether the pieces come to an end; a
reader who wants its text also asks that surrogates stand in pairs.
-/

namespace PageScan.Json

/-- Why a string literal cannot be read on. -/
inductive Stop
  | ended
  | control
  | badLetter
  | badHex
  deriving DecidableEq

/-- The fault that a stop is. -/
def Stop.fault : Stop → Fault
  | .ended => .endInString
  | .control => .controlCharacter
  | .badLetter | .badHex => .invalidEscape

/-- A piece of a string literal. -/
inductive Piece
  | char (c : Char)
  | unit (n : Nat)

/-- The pieces of a literal up to its closing quote, and the text behind it or why there is none. -/
structure Literal where
  pieces : List Piece
  outcome : Except Stop (List Char)

namespace Literal

/-- A literal with one more piece in front. -/
def cons (p : Piece) (l : Literal) : Literal :=
  { l with pieces := p :: l.pieces }

/-- What a letter behind a backslash stands for. -/
def escaped? : Char → Option Char
  | '"' => some '"'
  | '\\' => some '\\'
  | '/' => some '/'
  | 'b' => some '\x08'
  | 'f' => some '\x0c'
  | 'n' => some '\n'
  | 'r' => some '\r'
  | 't' => some '\t'
  | _ => none

/-- The literal cannot be read on. -/
def stopped (s : Stop) : Literal :=
  ⟨[], .error s⟩

/-- Fewer than four bytes are left. -/
def short (cs : List Char) : Bool :=
  (cs.foldl (fun n c => n + c.utf8Size) 0) < 4

/-- Reads a literal whose opening quote has been taken. -/
def scan : List Char → Literal
  | [] => stopped .ended
  | '"' :: cs => ⟨[], .ok cs⟩
  | '\\' :: 'u' :: a :: b :: c :: d :: cs =>
    match Text.hexNumber? [a, b, c, d] with
    | some n => (scan cs).cons (.unit n)
    | none => stopped .badHex
  | '\\' :: 'u' :: cs => stopped (if short cs then .ended else .badHex)
  | '\\' :: l :: cs =>
    match escaped? l with
    | some c => (scan cs).cons (.char c)
    | none => stopped .badLetter
  | ['\\'] => stopped .ended
  | c :: cs => if c.toNat < 0x20 then stopped .control else (scan cs).cons (.char c)

/-- The unit opens a surrogate pair. -/
def isLeading (n : Nat) : Bool :=
  0xD800 ≤ n && n ≤ 0xDBFF

/-- The unit closes a surrogate pair. -/
def isTrailing (n : Nat) : Bool :=
  0xDC00 ≤ n && n ≤ 0xDFFF

/-- The text of the pieces, in which `open?` is a leading unit that waits for its partner and
`stop?` is what comes behind the last piece. -/
def textFrom (stop? : Option Stop) : (open? : Option Nat) → List Piece → Except Fault (List Char)
  | none, [] =>
    match stop? with
    | none => .ok []
    | some s => .error s.fault
  | some _, [] =>
    match stop? with
    | none | some .control | some .badLetter => .error .endOfHexEscape
    | some s => .error s.fault
  | none, .char c :: ps => (textFrom stop? none ps).map (c :: ·)
  | some _, .char _ :: _ => .error .endOfHexEscape
  | none, .unit n :: ps =>
    if isTrailing n then .error .loneSurrogate
    else if isLeading n then textFrom stop? (some n) ps
    else (textFrom stop? none ps).map (Char.ofNat n :: ·)
  | some m, .unit n :: ps =>
    if isTrailing n then
      (textFrom stop? none ps).map
        (Char.ofNat ((m - 0xD800) * 0x400 + (n - 0xDC00) + 0x10000) :: ·)
    else .error .loneSurrogate

/-- The text of a literal, for a reader who wants it. -/
def text (l : Literal) : Except Fault String :=
  let stop? := match l.outcome with
    | .ok _ => none
    | .error s => some s
  (textFrom stop? none l.pieces).map String.ofList

/-- A literal leaves less than it was given. -/
theorem length_rest_scan (cs : List Char) :
    ∀ rest, (scan cs).outcome = .ok rest → rest.length < cs.length := by
  fun_induction scan cs <;> simp_all [stopped, cons] <;> grind

end Literal

end PageScan.Json
