import PageScan.Json.Record

/-!
# Decoders of choices

A choice between named variants is written in one of three ways: as the name, or an object whose
one key is the name (`choice`); as an object in which one member holds the name and the others the
fields of the variant (`tagged`); or as an object with one member for the name and one for the
content (`labelled`).
-/

namespace PageScan.Json

/-- What a variant holds. -/
inductive Payload (α : Type)
  | nothing (a : α)
  | holds (d : Decoder α)

/-- A variant of a choice. -/
structure Variant (α : Type) where
  name : String
  payload : Payload α
  /-- How messages about its content speak of it. -/
  title : String := name

namespace Variant

/-- A variant that is its name. -/
def plain {α : Type} (name : String) (a : α) : Variant α :=
  { name, payload := .nothing a }

/-- A variant that holds one thing. -/
def holding {α β : Type} (name : String) (d : Decoder β) (f : β → α) : Variant α :=
  { name, payload := .holds fun src n => (d src n).map f }

/-- The variant of that name. -/
def find {α : Type} (variants : List (Variant α)) (name : String) : Except Error (Variant α) :=
  match variants.find? fun v => v.name = name with
  | some v => .ok v
  | none => .error (.mismatch (.unknownVariant name (variants.map (·.name))))

/-- The variant without content. -/
def bare {α : Type} (v : Variant α) : Except Error α :=
  match v.payload with
  | .nothing a => .ok a
  | .holds _ => .error (.mismatch (.invalidType .unitVariant "newtype variant"))

/-- The variant with content. -/
def filled {α : Type} (v : Variant α) : Decoder α := fun src n =>
  match v.payload with
  | .nothing a => (Decoder.unit src n).map fun _ => a
  | .holds d => d src n

end Variant

namespace Decoder

/-- The fault of a text whose first key is missing where a variant is named. -/
def variantKeyStop (stop : ObjectStop) : Except Error String :=
  match stop with
  | .ended => .error (.fault .endInValue)
  | .firstKeyNotString (.ok found) => .error (.mismatch (.invalidType found "variant identifier"))
  | .firstKeyNotString (.error f) => .error (.fault f)
  | .brokenKey s _ => .error (.fault s)
  | .noColon key _ => Key.text key
  | _ => .error (.fault .expectedValue)

/-- A choice that is read from a text. -/
def choiceOfText {α : Type} (variants : List (Variant α)) : Decoder α := fun src n =>
  match n with
  | .scalar (.string s) => do
    let v ← Variant.find variants (← s.mapError .fault)
    v.bare
  | .object [] stop => do
    let _ ← src.enter
    let name ← variantKeyStop stop
    let _ ← Variant.find variants name
    stop.strict
    .error (.fault .expectedValue)
  | .object ((k, n) :: rest) stop => do
    let src ← src.enter
    let v ← Variant.find variants (← Key.text k)
    let a ← v.filled src n
    match rest, stop with
    | [], .closed => return a
    | [], .ended => .error (.fault .endInObject)
    | _, _ => .error (.fault .expectedValue)
  | .broken .nothing strict _ | .broken .string strict _ => .error (.fault strict)
  | _ => .error (.fault .expectedValue)

/-- A choice that is read from a value. -/
def choiceOfValue {α : Type} (variants : List (Variant α)) : Decoder α := fun src n =>
  match n with
  | .scalar (.string s) => do
    let v ← Variant.find variants (← s.mapError .fault)
    v.bare
  | .object [(k, n)] _ => do
    let v ← Variant.find variants (← Key.text k)
    v.filled src n
  | .object _ _ => .error (.mismatch (.invalidValue .map "map with a single key"))
  | n => .error (n.mismatch "string or map")

/-- A choice written as a name, or as an object whose one key is the name. -/
def choice {α : Type} (variants : List (Variant α)) : Decoder α := fun src n =>
  match src with
  | .text _ => choiceOfText variants src n
  | _ => choiceOfValue variants src n

/-- A choice between names. -/
def names {α : Type} (variants : List (String × α)) : Decoder α :=
  choice (variants.map fun (name, a) => Variant.plain name a)

/-- The name of a variant where nothing but a name can stand. -/
def variantName {α : Type} (variants : List (Variant α)) : Decoder (Variant α) := fun _ n =>
  match n with
  | .scalar (.string s) => do Variant.find variants (← s.mapError .fault)
  | n => .error (n.mismatch "variant identifier")

/-- A document set aside until it is known what to read it as. -/
def aside : Decoder Node := fun src n =>
  (n.plain src).map Node.ofValue

/-- The members of an object, one of which holds the name of the variant. -/
def taggedMembers {α : Type} (tag : String) (variants : List (Variant α)) (src : Source)
    (found : Option (Variant α)) (restRev : List (Key × Node)) :
    List (Key × Node) → Except Error (Option (Variant α) × List (Key × Node))
  | [] => .ok (found, restRev.reverse)
  | (k, n) :: ms => do
    let k ← Key.text k
    if k = tag then
      if found.isSome then .error (.mismatch (.duplicateField tag))
      else
        let v ← variantName variants src n
        taggedMembers tag variants src (some v) restRev ms
    else
      let content ← aside src n
      taggedMembers tag variants src found ((.ok k, content) :: restRev) ms

/-- A choice in which one member names the variant and the others are its fields. An array of the
name and the fields is read too. -/
def tagged {α : Type} (name tag : String) (variants : List (Variant α)) : Decoder α := fun src n =>
  match n with
  | .array [] stop => do
    let _ ← src.enter
    stop.strict
    .error (.mismatch (.missingField tag))
  | .array (first :: rest) stop => do
    let src ← src.enter
    let v ← variantName variants src first
    let content ← rest.mapM (aside src)
    stop.strict
    v.filled .aside (.array content .closed)
  | .object ms stop => do
    let src ← src.enter
    let (v?, content) ← taggedMembers tag variants src none [] ms
    match stop with
    | .noColon key _ =>
      if (← Key.text key) = tag ∧ v?.isSome then .error (.mismatch (.duplicateField tag))
    | _ => pure ()
    stop.strict
    match v? with
    | none => .error (.mismatch (.missingField tag))
    | some v => v.filled .aside (.object content .closed)
  | n => .error (n.mismatch ("internally tagged enum " ++ name))

/-- The payload of a tagged variant without fields: any object, or an empty array. -/
def noFields : Decoder Unit := fun _ n =>
  match n with
  | .array items _ =>
    if items.isEmpty then .ok ()
    else .error (.mismatch (.invalidLength items.length "0 elements in sequence"))
  | _ => .ok ()

/-- The state of reading an object of a name and a content. -/
structure LabelState (α : Type) where
  variant? : Option (Variant α)
  /-- The content that came before the name. -/
  early? : Option Node
  /-- The choice, once both have come. -/
  done? : Option α

/-- Reads the content of a variant. One without content takes null. -/
def labelledContent {α : Type} (name : String) (v : Variant α) : Decoder α := fun src n =>
  match v.payload, n with
  | .holds d, n => d src n
  | .nothing a, .scalar .null => .ok a
  | .nothing _, n => .error (n.mismatch ("unit variant " ++ name ++ "::" ++ v.title))

/-- Reads a member of an object of a name and a content. -/
def labelledMember {α : Type} (name label content : String) (variants : List (Variant α))
    (src : Source) (state : LabelState α) (k : String) (n : Node) :
    Except Error (LabelState α) :=
  if k = label then
    if state.variant?.isSome then .error (.mismatch (.duplicateField label))
    else do
      let v ← choice (variants.map fun v => Variant.plain v.name v) src n
      match state.early? with
      | none => return { state with variant? := some v }
      | some early =>
        let a ← labelledContent name v .aside early
        return { state with variant? := some v, done? := some a }
  else if k = content then
    if state.early?.isSome ∨ state.done?.isSome then .error (.mismatch (.duplicateField content))
    else
      match state.variant? with
      | none => do
        let early ← aside src n
        return { state with early? := some early }
      | some v => do
        let a ← labelledContent name v src n
        return { state with done? := some a }
  else do
    n.skip
    return state

/-- Reads the members of an object of a name and a content. -/
def labelledMembers {α : Type} (name label content : String) (variants : List (Variant α))
    (src : Source) : LabelState α → List (Key × Node) → Except Error (LabelState α)
  | state, [] => .ok state
  | state, (k, n) :: ms => do
    let state ← labelledMember name label content variants src state (← Key.text k) n
    labelledMembers name label content variants src state ms

/-- A choice written as an object with one member for the name and one for the content. An array
of the two is read too. -/
def labelled {α : Type} (name label content : String) (variants : List (Variant α)) :
    Decoder α := fun src n =>
  let expected := "adjacently tagged enum " ++ name
  match n with
  | .array items stop => do
    let src ← src.enter
    match items with
    | [] =>
      stop.strict
      .error (.mismatch (.invalidLength 0 expected))
    | first :: rest =>
      let v ← choice (variants.map fun v => Variant.plain v.name v) src first
      match rest with
      | [] =>
        stop.strict
        .error (.mismatch (.invalidLength 1 expected))
      | second :: rest =>
        let a ← labelledContent name v src second
        leftOver src 2 items.length rest stop
        return a
  | .object ms stop => do
    let src ← src.enter
    let state ← labelledMembers name label content variants src ⟨none, none, none⟩ ms
    match stop with
    | .noColon key _ =>
      let key ← Key.text key
      if key = label ∧ state.variant?.isSome then .error (.mismatch (.duplicateField label))
      if key = content ∧ (state.early?.isSome ∨ state.done?.isSome) then
        .error (.mismatch (.duplicateField content))
    | _ => pure ()
    stop.strict
    match state.done?, state.variant? with
    | some a, _ => return a
    | none, none => .error (.mismatch (.missingField label))
    | none, some v =>
      match v.payload with
      | .nothing a => return a
      | .holds _ => .error (.mismatch (.missingField content))
  | n => .error (n.mismatch expected)

end Decoder

end PageScan.Json
