import PageScan.Json.Decoder

/-!
# Decoders of records

A record is read from an object, by the names of its fields in any order, or from an array of its
fields in the order of declaration. Unknown members are skipped, a field may not come twice, and a
field that does not come takes its default if it has one.
-/

namespace PageScan.Json

/-- A field of a record. -/
structure Field (α : Type) where
  name : String
  decode : Decoder α
  /-- The value of a field that an object does not hold. -/
  absent? : Option α
  /-- The value of a field that an array is too short for. -/
  beyond? : Option α

namespace Field

/-- A field that has to come. -/
def required {α : Type} (name : String) (d : Decoder α) : Field α :=
  ⟨name, d, none, none⟩

/-- A field with a default. -/
def defaulted {α : Type} (name : String) (d : Decoder α) (value : α) : Field α :=
  ⟨name, d, some value, some value⟩

/-- A field that may be null, and may be left out of an object. -/
def optional {α : Type} (name : String) (d : Decoder α) : Field (Option α) :=
  ⟨name, d.nullable, some none, none⟩

/-- A field that may be null or left out. -/
def omissible {α : Type} (name : String) (d : Decoder α) : Field (Option α) :=
  ⟨name, d.nullable, some none, some none⟩

end Field

/-- The fields of a record, in the order of declaration. -/
inductive Fields : List Type → Type 1
  | nil : Fields []
  | cons {α : Type} {αs : List Type} (f : Field α) (fs : Fields αs) : Fields (α :: αs)

/-- The values of the fields of a record. -/
def Row : List Type → Type
  | [] => Unit
  | α :: αs => α × Row αs

/-- The values of the fields that have come so far. -/
def Slots : List Type → Type
  | [] => Unit
  | α :: αs => Option α × Slots αs

namespace Fields

/-- The number of fields. -/
def size : {αs : List Type} → Fields αs → Nat
  | _, .nil => 0
  | _, .cons _ fs => fs.size + 1

/-- No field has come. -/
def none : {αs : List Type} → Fields αs → Slots αs
  | _, .nil => ()
  | _, .cons _ fs => (Option.none, fs.none)

/-- Whether a field of that name has come: nothing for a name that no field has. -/
def hasCome? (name : String) : {αs : List Type} → Fields αs → Slots αs → Option Bool
  | _, .nil, _ => Option.none
  | _, .cons f fs, (slot, slots) =>
    if f.name = name then some slot.isSome else hasCome? name fs slots

/-- Reads the field of that name. -/
def feed (src : Source) (name : String) (n : Node) :
    {αs : List Type} → Fields αs → Slots αs → Except Error (Slots αs)
  | _, .nil, slots => .ok slots
  | _, .cons f fs, (slot, slots) =>
    if f.name = name then do
      let a ← f.decode src n
      return (some a, slots)
    else do
      let slots ← feed src name n fs slots
      return (slot, slots)

/-- Reads the members of an object into the slots. -/
def feedAll (src : Source) {αs : List Type} (fs : Fields αs) :
    Slots αs → List (Key × Node) → Except Error (Slots αs)
  | slots, [] => .ok slots
  | slots, (k, n) :: ms => do
    let k ← Key.text k
    match fs.hasCome? k slots with
    | Option.none =>
      n.skip
      feedAll src fs slots ms
    | some true => .error (.mismatch (.duplicateField k))
    | some false =>
      let slots ← fs.feed src k n slots
      feedAll src fs slots ms

/-- The row of the slots, with defaults for the fields that have not come. -/
def finish : {αs : List Type} → Fields αs → Slots αs → Except Error (Row αs)
  | _, .nil, _ => .ok ()
  | _, .cons f fs, (slot, slots) =>
    match slot, f.absent? with
    | some a, _ | Option.none, some a => do
      let row ← finish fs slots
      return (a, row)
    | Option.none, Option.none => .error (.mismatch (.missingField f.name))

/-- Reads the members of an object. -/
def ofMembers (src : Source) {αs : List Type} (fs : Fields αs) (ms : List (Key × Node))
    (stop : ObjectStop) : Except Error (Row αs) := do
  let slots ← fs.feedAll src fs.none ms
  match stop with
  | .noColon key _ =>
    let key ← Key.text key
    if fs.hasCome? key slots = some true then .error (.mismatch (.duplicateField key))
  | _ => pure ()
  stop.strict
  fs.finish slots

/-- Reads the items of an array, the first of which has the index `i`. -/
def ofItemsFrom (src : Source) (expected : String) (stop : ArrayStop) :
    {αs : List Type} → Fields αs → (i : Nat) → List Node → Except Error (Row αs × List Node)
  | _, .nil, _, ns => .ok ((), ns)
  | _, .cons f fs, i, n :: ns => do
    let a ← f.decode src n
    let (row, rest) ← ofItemsFrom src expected stop fs (i + 1) ns
    return ((a, row), rest)
  | _, .cons f fs, i, [] => do
    stop.strict
    match f.beyond? with
    | some a =>
      let (row, rest) ← ofItemsFrom src expected stop fs (i + 1) []
      return ((a, row), rest)
    | Option.none => .error (.mismatch (.invalidLength i expected))

end Fields

/-- A count of things, in the singular for one. -/
def countOf (n : Nat) (one many : String) : String :=
  toString n ++ " " ++ (if n = 1 then one else many)

/-- The objection to items that are left over after the first `taken` of an array of `total`. -/
def leftOver (src : Source) (taken total : Nat) (rest : List Node) (stop : ArrayStop) :
    Except Error Unit :=
  match src with
  | .text _ =>
    if ¬ rest.isEmpty then .error (.fault .trailingCharacters)
    else
      match stop with
      | .closed => .ok ()
      | .ended => .error (.fault .endInList)
      | .closedAfterComma => .error (.fault .trailingComma)
      | .endedAfterComma | .noComma => .error (.fault .trailingCharacters)
  | .value =>
    if rest.isEmpty then .ok ()
    else .error (.mismatch (.invalidLength total "fewer elements in array"))
  | .aside =>
    if rest.isEmpty then .ok ()
    else .error (.mismatch (.invalidLength total
      (countOf taken "element in sequence" "elements in sequence")))

namespace Decoder

/-- A record, under the name by which messages speak of it. -/
def row (name : String) {αs : List Type} (fs : Fields αs) : Decoder (Row αs) := fun src n =>
  match n with
  | .array items stop => do
    let src ← src.enter
    let expected := name ++ " with " ++ countOf fs.size "element" "elements"
    let (r, rest) ← fs.ofItemsFrom src expected stop 0 items
    leftOver src fs.size items.length rest stop
    return r
  | .object ms stop => do
    let src ← src.enter
    fs.ofMembers src ms stop
  | n => .error (n.mismatch name)

/-- A structure, built from the values of its fields. -/
def record {β : Type} (name : String) {αs : List Type} (fs : Fields αs) (make : Row αs → β) :
    Decoder β := fun src n =>
  (row ("struct " ++ name) fs src n).map make

end Decoder

end PageScan.Json
