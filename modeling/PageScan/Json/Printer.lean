import PageScan.Json.Error
import PageScan.Text.Hex

/-!
# Writing JSON

The compact form has no white space. The indented form puts each item and member on a line of its
own, two spaces deeper than what holds it; empty arrays and objects stay on one line.
-/

namespace PageScan.Json

/-- A character inside a string literal. -/
def escapedChar (c : Char) : List Char :=
  match c with
  | '"' => ['\\', '"']
  | '\\' => ['\\', '\\']
  | '\x08' => ['\\', 'b']
  | '\x0c' => ['\\', 'f']
  | '\n' => ['\\', 'n']
  | '\r' => ['\\', 'r']
  | '\t' => ['\\', 't']
  | c =>
    if c.toNat < 0x20 then
      ['\\', 'u', '0', '0', Text.hexDigit (c.toNat / 16), Text.hexDigit (c.toNat % 16)]
    else [c]

/-- The string literal of a text. -/
def literalChars (s : String) : List Char :=
  '"' :: s.toList.flatMap escapedChar ++ ['"']

/-- The string literal of a text. -/
def literal (s : String) : String :=
  String.ofList (literalChars s)

/-- The text of a number. A float that is not finite is written as null. -/
def Number.chars (n : Number) : List Char :=
  match n with
  | .int i => (toString i).toList
  | .float x => if x.isFinite then (numberLayout.float64 x).toList else "null".toList

namespace Value

mutual

/-- The compact form of a value, in front of `after`. -/
def compactOnto (after : List Char) : Value → List Char
  | .null => "null".toList ++ after
  | .bool b => (if b then "true" else "false").toList ++ after
  | .number n => n.chars ++ after
  | .string s => literalChars s ++ after
  | .array items => '[' :: itemsOnto (']' :: after) items
  | .object members => '{' :: membersOnto ('}' :: after) members

/-- The compact forms of items with commas between them. -/
def itemsOnto (after : List Char) : List Value → List Char
  | [] => after
  | [v] => compactOnto after v
  | v :: w :: vs => compactOnto (',' :: itemsOnto after (w :: vs)) v

/-- The compact forms of members with commas between them. -/
def membersOnto (after : List Char) : List (String × Value) → List Char
  | [] => after
  | [(k, v)] => literalChars k ++ ':' :: compactOnto after v
  | (k, v) :: m :: ms =>
    literalChars k ++ ':' :: compactOnto (',' :: membersOnto after (m :: ms)) v

end

/-- The compact form of a value. -/
def compact (v : Value) : String :=
  String.ofList (v.compactOnto [])

/-- A new line at a depth. -/
def newLine (depth : Nat) : List Char :=
  '\n' :: List.replicate (2 * depth) ' '

mutual

/-- The indented form of a value at a depth, in front of `after`. -/
def indentedOnto (depth : Nat) (after : List Char) : Value → List Char
  | .array [] => '[' :: ']' :: after
  | .object [] => '{' :: '}' :: after
  | .array (v :: vs) =>
    '[' :: newLine (depth + 1) ++
      indentedOnto (depth + 1) (indentedItems (depth + 1) (newLine depth ++ ']' :: after) vs) v
  | .object ((k, v) :: ms) =>
    '{' :: newLine (depth + 1) ++ literalChars k ++ ':' :: ' ' ::
      indentedOnto (depth + 1) (indentedMembers (depth + 1) (newLine depth ++ '}' :: after) ms) v
  | .null => "null".toList ++ after
  | .bool b => (if b then "true" else "false").toList ++ after
  | .number n => n.chars ++ after
  | .string s => literalChars s ++ after

/-- The items behind the first. -/
def indentedItems (depth : Nat) (after : List Char) : List Value → List Char
  | [] => after
  | v :: vs => ',' :: newLine depth ++ indentedOnto depth (indentedItems depth after vs) v

/-- The members behind the first. -/
def indentedMembers (depth : Nat) (after : List Char) : List (String × Value) → List Char
  | [] => after
  | (k, v) :: ms =>
    ',' :: newLine depth ++ literalChars k ++ ':' :: ' ' ::
      indentedOnto depth (indentedMembers depth after ms) v

end

/-- The indented form of a value. -/
def indented (v : Value) : String :=
  String.ofList (v.indentedOnto 0 [])

end Value

end PageScan.Json
