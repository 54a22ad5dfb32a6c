import PageScan.Json.Node

/-!
# Decoders

A `Decoder α` reads an `α` out of a document and reports the first objection in the order of the
text. Where the document comes from matters in three places: only a text limits how deep it may
nest, and each source has its own words for an array that is too long and for an enumeration that
is neither a string nor an object.
-/

namespace PageScan.Json

/-- Where a document comes from. -/
inductive Source
  /-- A text that may nest this much deeper. -/
  | text (depth : Nat)
  /-- A value that was read before. -/
  | value
  /-- A part of a document that was set aside until it was known what to read it as. -/
  | aside
  deriving DecidableEq

/-- A text may nest below this depth. -/
def depthLimit : Nat := 128

/-- Reads an `α` out of a document. -/
abbrev Decoder (α : Type) := Source → Node → Except Error α

namespace Node

/-- The objection of a reader who wants something of another kind. -/
def mismatch (expected : String) : Node → Error
  | .scalar .null => .mismatch (.invalidType .null expected)
  | .scalar (.bool b) => .mismatch (.invalidType (.bool b) expected)
  | .scalar (.number (.ok n)) => .mismatch (.invalidType (.number n) expected)
  | .scalar (.number (.error f)) => .fault f
  | .scalar (.string (.ok s)) => .mismatch (.invalidType (.string s) expected)
  | .scalar (.string (.error f)) => .fault f
  | .array _ _ => .mismatch (.invalidType .sequence expected)
  | .object _ _ => .mismatch (.invalidType .map expected)
  | .broken _ strict _ => .fault strict

end Node

namespace Source

/-- Goes into an array or object. -/
def enter : Source → Except Error Source
  | .text 0 => .error (.fault .tooDeep)
  | .text 1 => .error (.fault .tooDeep)
  | .text (d + 1) => .ok (.text d)
  | s => .ok s

end Source

namespace ArrayStop

/-- The objection of a reader who wants the items. -/
def strict : ArrayStop → Except Error Unit
  | .closed => .ok ()
  | .ended => .error (.fault .endInList)
  | .endedAfterComma => .error (.fault .endInValue)
  | .closedAfterComma => .error (.fault .trailingComma)
  | .noComma => .error (.fault .expectedCommaInList)

/-- The objection of a reader who skips the array. -/
def lenient : ArrayStop → Except Error Unit
  | .closed => .ok ()
  | .ended => .error (.fault .endInList)
  | .endedAfterComma => .error (.fault .endInValue)
  | .closedAfterComma => .error (.fault .expectedValue)
  | .noComma => .error (.fault .expectedCommaInList)

end ArrayStop

/-- The text of a key, for a reader who wants it. -/
def Key.text (k : Key) : Except Error String :=
  k.mapError .fault

namespace ObjectStop

/-- The fault of a key without a colon. -/
def colonFault (atEnd : Bool) : Fault :=
  if atEnd then .endInObject else .expectedColon

/-- The objection of a reader who wants the members. -/
def strict : ObjectStop → Except Error Unit
  | .closed => .ok ()
  | .ended => .error (.fault .endInObject)
  | .endedAfterComma => .error (.fault .endInValue)
  | .closedAfterComma => .error (.fault .trailingComma)
  | .noComma => .error (.fault .expectedCommaInObject)
  | .firstKeyNotString _ | .keyNotString => .error (.fault .keyMustBeString)
  | .brokenKey s _ => .error (.fault s)
  | .noColon key atEnd => do
    let _ ← Key.text key
    .error (.fault (colonFault atEnd))

/-- The objection of a reader who skips the object. -/
def lenient : ObjectStop → Except Error Unit
  | .closed => .ok ()
  | .ended | .endedAfterComma => .error (.fault .endInObject)
  | .closedAfterComma => .error (.fault .keyMustBeString)
  | .noComma => .error (.fault .expectedCommaInObject)
  | .firstKeyNotString _ | .keyNotString => .error (.fault .keyMustBeString)
  | .brokenKey _ l => .error (.fault l)
  | .noColon _ atEnd => .error (.fault (colonFault atEnd))

end ObjectStop

namespace Node

mutual

/-- Skips a document. -/
def skip : Node → Except Error Unit
  | .scalar _ => .ok ()
  | .broken _ _ lenient => .error (.fault lenient)
  | .array items stop => do
    skipItems items
    stop.lenient
  | .object members stop => do
    skipMembers members
    stop.lenient

/-- Skips the items of an array. -/
def skipItems : List Node → Except Error Unit
  | [] => .ok ()
  | n :: ns => do
    skip n
    skipItems ns

/-- Skips the members of an object. -/
def skipMembers : List (Key × Node) → Except Error Unit
  | [] => .ok ()
  | (_, n) :: ms => do
    skip n
    skipMembers ms

end

mutual

/-- The value that a document is, with the members of its objects in the order of the text. -/
def plain (src : Source) : Node → Except Error Value
  | .scalar .null => .ok .null
  | .scalar (.bool b) => .ok (.bool b)
  | .scalar (.number n) => (n.mapError .fault).map .number
  | .scalar (.string s) => (s.mapError .fault).map .string
  | .broken _ strict _ => .error (.fault strict)
  | .array items stop => do
    let src ← src.enter
    let vs ← plainItems src items
    stop.strict
    return .array vs
  | .object members stop => do
    let src ← src.enter
    let ms ← plainMembers src members
    stop.strict
    return .object ms

/-- The values of the items of an array. -/
def plainItems (src : Source) : List Node → Except Error (List Value)
  | [] => .ok []
  | n :: ns => do
    let v ← plain src n
    let vs ← plainItems src ns
    return v :: vs

/-- The members of an object. -/
def plainMembers (src : Source) : List (Key × Node) → Except Error (List (String × Value))
  | [] => .ok []
  | (k, n) :: ms => do
    let k ← Key.text k
    let v ← plain src n
    let ms ← plainMembers src ms
    return (k, v) :: ms

end

end Node

mutual

/-- The value with the members of its objects sorted, the last of those with one key staying. -/
def Value.normal : Value → Value
  | .array items => .array (normalItems items)
  | .object members => .object (sortMembers (normalMembers members))
  | v => v

/-- The items, each normal. -/
def normalItems : List Value → List Value
  | [] => []
  | v :: vs => v.normal :: normalItems vs

/-- The members, each normal. -/
def normalMembers : List (String × Value) → List (String × Value)
  | [] => []
  | (k, v) :: ms => (k, v.normal) :: normalMembers ms

end

namespace Decoder

/-- Any value. -/
def any : Decoder Value := fun src n =>
  (n.plain src).map Value.normal

/-- A text. -/
def string : Decoder String := fun _ n =>
  match n with
  | .scalar (.string s) => s.mapError .fault
  | n => .error (n.mismatch "a string")

/-- A truth value. -/
def bool : Decoder Bool := fun _ n =>
  match n with
  | .scalar (.bool b) => .ok b
  | n => .error (n.mismatch "a boolean")

/-- Null. -/
def unit : Decoder Unit := fun _ n =>
  match n with
  | .scalar .null => .ok ()
  | n => .error (n.mismatch "unit")

/-- An integer in a range, under the name of its type. -/
def integer (low high : Int) (name : String) : Decoder Int := fun _ n =>
  match n with
  | .scalar (.number (.ok (.int i))) =>
    if low ≤ i ∧ i ≤ high then .ok i
    else .error (.mismatch (.invalidValue (.number (.int i)) name))
  | n => .error (n.mismatch name)

/-- A natural number of so many bits. -/
def natural (bits : Nat) (name : String) : Decoder Nat := fun src n =>
  (integer 0 (Nat.pow 2 bits - 1 : Nat) name src n).map Int.toNat

/-- A natural number of 64 bits. -/
def u64 : Decoder Nat := natural 64 "u64"

/-- A natural number of 32 bits. -/
def u32 : Decoder Nat := natural 32 "u32"

/-- A natural number of 16 bits. -/
def u16 : Decoder Nat := natural 16 "u16"

/-- A natural number of 8 bits. -/
def u8 : Decoder Nat := natural 8 "u8"

/-- A count. -/
def count : Decoder Nat := natural 64 "usize"

/-- A signed integer of 64 bits. -/
def i64 : Decoder Int := integer (-9223372036854775808) 9223372036854775807 "i64"

/-- A number as a float. -/
def float : Decoder Float := fun _ n =>
  match n with
  | .scalar (.number (.ok (.int i))) =>
    .ok (if i < 0 then i.toInt64.toFloat else i.toNat.toUInt64.toFloat)
  | .scalar (.number (.ok (.float x))) => .ok x
  | n => .error (n.mismatch "f64")

/-- Null or what `d` reads. -/
def nullable {α : Type} (d : Decoder α) : Decoder (Option α) := fun src n =>
  match n with
  | .scalar .null => .ok none
  | .broken .null strict _ => .error (.fault strict)
  | n => (d src n).map some

/-- An array of what `d` reads. -/
def list {α : Type} (d : Decoder α) : Decoder (List α) := fun src n =>
  match n with
  | .array items stop => do
    let src ← src.enter
    let vs ← items.mapM (d src)
    stop.strict
    return vs
  | n => .error (n.mismatch "a sequence")

/-- What `f` makes of what `d` reads; a refusal of `f` is the objection. -/
def refine {α β : Type} (d : Decoder α) (f : α → Except String β) : Decoder β := fun src n => do
  let a ← d src n
  (f a).mapError .custom

/-- A text in which the document says what it expects, as read by `parse`. -/
def parsed {α : Type} (expected : String) (parse : String → Except String α) : Decoder α :=
  fun _ n =>
    match n with
    | .scalar (.string s) => do
      let s ← s.mapError .fault
      (parse s).mapError .custom
    | n => .error (n.mismatch expected)

/-- Reads a text. -/
def decodeText {α : Type} (d : Decoder α) (text : String) : Except Error α := do
  let (n, more) := Node.ofText text
  let a ← d (.text depthLimit) n
  if more then .error (.fault .trailingCharacters) else .ok a

/-- Reads a value. -/
def decodeValue {α : Type} (d : Decoder α) (v : Value) : Except Error α :=
  d .value (.ofValue v)

end Decoder

/-- A type whose values are read from documents and written as documents. -/
class Document (α : Type) where
  decoder : Decoder α
  toJson : α → Value

end PageScan.Json
