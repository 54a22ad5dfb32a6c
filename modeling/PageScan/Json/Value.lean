/-!
# JSON values

Integers and floating-point numbers are kept apart, since they are written differently. An object
is the list of its members in the order in which they are written; `insertMember` builds the
objects that are sorted by key and hold each key once.
-/

namespace PageScan.Json

/-- A number. Integers are those that fit in 64 bits, signed or unsigned. -/
inductive Number
  | int (i : Int)
  | float (x : Float)

/-- A JSON value. -/
inductive Value
  | null
  | bool (b : Bool)
  | number (n : Number)
  | string (s : String)
  | array (items : List Value)
  | object (members : List (String × Value))

namespace Value

instance : Inhabited Value := ⟨.null⟩

/-- The value of a natural number. -/
def ofNat (n : Nat) : Value :=
  .number (.int n)

/-- The value of an integer. -/
def ofInt (i : Int) : Value :=
  .number (.int i)

/-- The value of a floating-point number. What is no finite number is written as null. -/
def ofFloat (x : Float) : Value :=
  if x.isFinite then .number (.float x) else .null

/-- The value of a text that may be absent. -/
def ofOption {α : Type} (f : α → Value) : Option α → Value
  | none => .null
  | some a => f a

/-- An array of texts. -/
def ofStrings (texts : List String) : Value :=
  .array (texts.map .string)

/-- The member with the given key. -/
def member? (key : String) : Value → Option Value
  | .object members => members.lookup key
  | _ => none

/-- The text, if the value is one. -/
def string? : Value → Option String
  | .string s => some s
  | _ => none

/-- The number as a float, if the value is one. -/
def float? : Value → Option Float
  | .number (.int i) => some (if i < 0 then -(Float.ofNat i.natAbs) else Float.ofNat i.natAbs)
  | .number (.float x) => some x
  | _ => none

/-- The natural number, if the value is one. -/
def nat? : Value → Option Nat
  | .number (.int i) => if 0 ≤ i then some i.toNat else none
  | _ => none

end Value

/-- Puts a member into a list sorted by key, in place of any member with that key. -/
def insertMember (key : String) (value : Value) :
    List (String × Value) → List (String × Value)
  | [] => [(key, value)]
  | (k, v) :: rest =>
    if key < k then (key, value) :: (k, v) :: rest
    else if key = k then (key, value) :: rest
    else (k, v) :: insertMember key value rest

/-- The members sorted by key; of members with one key the last stays. -/
def sortMembers (members : List (String × Value)) : List (String × Value) :=
  members.foldl (fun sorted m => insertMember m.1 m.2 sorted) []

/-- An array that is left out when it is empty. -/
def presentItems (key : String) (items : List Value) : List (String × Value) :=
  if items.isEmpty then [] else [(key, .array items)]

/-- A member that is left out when there is nothing to say. -/
def presentMember (key : String) (value : Option Value) : List (String × Value) :=
  match value with
  | none => []
  | some v => [(key, v)]

end PageScan.Json
