import PageScan.Json.Numeral
import PageScan.Json.Literal

/-!
# Tokens of a JSON text

`tokens` cuts a text into tokens. A text that breaks off inside a token, or holds a character that
starts none, ends the list there: nothing behind such a place can be read. `leadingText?` reads one
string literal and asks for no more.
-/

namespace PageScan.Json

/-- A value that is neither an array nor an object. A number may be too large and a text may hold
unpaired surrogates; either fault shows only to a reader who wants the value. -/
inductive Scalar
  | null
  | bool (b : Bool)
  | number (n : Except Fault Number)
  | string (s : Except Fault String)

/-- What a text that cannot be read on set out to be. -/
inductive Attempt
  | nothing
  | null
  | string
  | other
  deriving DecidableEq

/-- A token. -/
inductive Token
  | arrayOpen
  | arrayClose
  | objectOpen
  | objectClose
  | comma
  | colon
  | scalar (s : Scalar)
  /-- A scalar that cannot be read on, with the fault that a strict and a lenient reader see. -/
  | broken (what : Attempt) (strict lenient : Fault)
  /-- A character that starts no token. -/
  | stray

/-- White space between tokens. -/
def isSpace (c : Char) : Bool :=
  c = ' ' || c = '\n' || c = '\t' || c = '\r'

namespace Token

/-- The rest of a word of the grammar: its token and what follows. -/
def word (what : Attempt) (rest : List Char) (scalar : Scalar) :
    List Char → Token × Option (List Char)
  | [] =>
    if rest.isEmpty then (.scalar scalar, some [])
    else (.broken what .endInValue .endInValue, none)
  | c :: cs =>
    match rest with
    | [] => (.scalar scalar, some (c :: cs))
    | r :: rs =>
      if r = c then word what rs scalar cs
      else (.broken what .expectedWord .expectedWord, none)

/-- The token of a string literal, and what follows it if the literal came to its end. -/
def ofLiteral (l : Literal) : Token × Option (List Char) :=
  match l.outcome with
  | .ok rest => (.scalar (.string l.text), some rest)
  | .error s =>
    match l.text with
    | .error f => (.broken .string f s.fault, none)
    | .ok _ => (.broken .string s.fault s.fault, none)

/-- The token that starts with the character `c`, and what follows it if reading can go on. -/
def next (c : Char) (cs : List Char) : Token × Option (List Char) :=
  match c with
  | '[' => (.arrayOpen, some cs)
  | ']' => (.arrayClose, some cs)
  | '{' => (.objectOpen, some cs)
  | '}' => (.objectClose, some cs)
  | ',' => (.comma, some cs)
  | ':' => (.colon, some cs)
  | 'n' => word .null ['u', 'l', 'l'] .null cs
  | 't' => word .other ['r', 'u', 'e'] (.bool true) cs
  | 'f' => word .other ['a', 'l', 's', 'e'] (.bool false) cs
  | '"' => ofLiteral (Literal.scan cs)
  | c =>
    if isDigit c || c = '-' then
      match Numeral.scan (c :: cs) with
      | .ok (n, rest) => (.scalar (.number n.value), some rest)
      | .error b => (.broken .other b.strict b.lenient, none)
    else (.stray, none)

theorem length_word {what : Attempt} {rest cs left : List Char} {scalar : Scalar}
    (h : (word what rest scalar cs).2 = some left) : left.length ≤ cs.length := by
  induction cs generalizing rest with
  | nil => unfold word at h; grind
  | cons c cs ih => unfold word at h; grind

/-- A token takes its first character at least. -/
theorem length_next {c : Char} {cs left : List Char} (h : (next c cs).2 = some left) :
    left.length ≤ cs.length := by
  unfold next at h
  split at h
  case h_7 => exact length_word h
  case h_8 => exact length_word h
  case h_9 => exact length_word h
  case h_10 =>
    unfold ofLiteral at h
    split at h
    · rename_i rest ho
      have := Literal.length_rest_scan cs rest ho
      grind
    · split at h <;> simp at h
  case h_11 =>
    split at h
    · split at h
      · rename_i hs
        have := Numeral.length_scan hs
        simp only [List.length_cons] at this
        grind
      · simp at h
    · simp at h
  all_goals grind

end Token

/-- The tokens of a text. -/
def tokens : List Char → List Token
  | [] => []
  | c :: cs =>
    if isSpace c then tokens cs
    else
      match h : Token.next c cs with
      | (t, some rest) =>
        have : rest.length ≤ cs.length := Token.length_next (by rw [h])
        t :: tokens rest
      | (t, none) => [t]
termination_by cs => cs.length

/-- The text of the string literal that a text starts with, whatever stands behind the literal. -/
def leadingText? (cs : List Char) : Option String :=
  match cs.dropWhile isSpace with
  | '"' :: cs => (Literal.scan cs).text.toOption
  | _ => none

end PageScan.Json
