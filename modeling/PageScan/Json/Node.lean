import PageScan.Json.Token

/-!
# Documents as they are read

A `Node` is a document with its faults left where they stand. Reading a document for a purpose
meets them in the order of the text, so a reader that already objects to what comes before a fault
never gets to it. `Node.ofText` builds the tree with a machine that takes one token a step;
`Node.ofValue` is the tree of a value, which has no faults.
-/

namespace PageScan.Json

/-- A key as it stands in the text: its text may hold unpaired surrogates. -/
abbrev Key := Except Fault String

/-- What stands behind the last item of an array. -/
inductive ArrayStop
  | closed
  | ended
  | endedAfterComma
  | closedAfterComma
  | noComma
  deriving DecidableEq

/-- What stands behind the last member of an object. -/
inductive ObjectStop
  | closed
  | ended
  | endedAfterComma
  | closedAfterComma
  | noComma
  /-- The first key is no string: the fault in it, or what it is. -/
  | firstKeyNotString (found : Except Fault Found)
  | keyNotString
  | brokenKey (strict lenient : Fault)
  | noColon (key : Key) (atEnd : Bool)

/-- A document with its faults in place. -/
inductive Node
  | scalar (s : Scalar)
  | array (items : List Node) (stop : ArrayStop)
  | object (members : List (Key × Node)) (stop : ObjectStop)
  /-- Nothing can be read here: the fault that a strict and a lenient reader see. -/
  | broken (what : Attempt) (strict lenient : Fault)

namespace Node

instance : Inhabited Node := ⟨.scalar .null⟩

/-- An array or object that is being read. -/
inductive Frame
  | items (itemsRev : List Node)
  | members (membersRev : List (Key × Node)) (key : Key)

/-- What may come next. -/
inductive Place
  | value
  | firstItem
  | nextItem
  | firstKey
  | nextKey (membersRev : List (Key × Node))
  | colon (membersRev : List (Key × Node)) (key : Key)
  | behind (n : Node)

/-- A configuration of the reading machine. -/
structure State where
  place : Place
  frames : List Frame

/-- Puts a node into the frames around it, where reading ended. -/
def unwind : List Frame → Node → Node
  | [], n => n
  | .items itemsRev :: fs, n => unwind fs (.array (n :: itemsRev).reverse .ended)
  | .members membersRev key :: fs, n => unwind fs (.object ((key, n) :: membersRev).reverse .ended)

/-- A step: the next configuration, or the tree if reading cannot go on. -/
abbrev Step := State ⊕ Node

/-- The step at a place where a value has to come. -/
def stepValue (frames : List Frame) : Token → Step
  | .scalar s => .inl ⟨.behind (.scalar s), frames⟩
  | .arrayOpen => .inl ⟨.firstItem, frames⟩
  | .objectOpen => .inl ⟨.firstKey, frames⟩
  | .broken what strict lenient => .inr (unwind frames (.broken what strict lenient))
  | _ => .inr (unwind frames (.broken .other .expectedValue .expectedValue))

/-- What a token is to a reader who wants a string there. -/
def foundAt : Token → Except Fault Found
  | .scalar .null => .ok .null
  | .scalar (.bool b) => .ok (.bool b)
  | .scalar (.number n) => n.map .number
  | .scalar (.string s) => s.map .string
  | .arrayOpen => .ok .sequence
  | .objectOpen => .ok .map
  | .broken _ strict _ => .error strict
  | _ => .error .expectedValue

/-- One step of the machine. -/
def step (s : State) (t : Token) : Step :=
  match s.place with
  | .value => stepValue s.frames t
  | .firstItem =>
    match t with
    | .arrayClose => .inl ⟨.behind (.array [] .closed), s.frames⟩
    | t => stepValue (.items [] :: s.frames) t
  | .nextItem =>
    match t, s.frames with
    | .arrayClose, .items itemsRev :: fs =>
      .inr (unwind fs (.array itemsRev.reverse .closedAfterComma))
    | t, fs => stepValue fs t
  | .firstKey =>
    match t with
    | .objectClose => .inl ⟨.behind (.object [] .closed), s.frames⟩
    | .scalar (.string k) => .inl ⟨.colon [] k, s.frames⟩
    | .broken .string strict lenient =>
      .inr (unwind s.frames (.object [] (.brokenKey strict lenient)))
    | t => .inr (unwind s.frames (.object [] (.firstKeyNotString (foundAt t))))
  | .nextKey membersRev =>
    let stop (o : ObjectStop) : Step := .inr (unwind s.frames (.object membersRev.reverse o))
    match t with
    | .scalar (.string k) => .inl ⟨.colon membersRev k, s.frames⟩
    | .objectClose => stop .closedAfterComma
    | .broken .string strict lenient => stop (.brokenKey strict lenient)
    | _ => stop .keyNotString
  | .colon membersRev key =>
    match t with
    | .colon => .inl ⟨.value, .members membersRev key :: s.frames⟩
    | _ => .inr (unwind s.frames (.object membersRev.reverse (.noColon key false)))
  | .behind n =>
    match s.frames with
    | [] => .inr n
    | .items itemsRev :: fs =>
      match t with
      | .comma => .inl ⟨.nextItem, .items (n :: itemsRev) :: fs⟩
      | .arrayClose => .inl ⟨.behind (.array (n :: itemsRev).reverse .closed), fs⟩
      | _ => .inr (unwind fs (.array (n :: itemsRev).reverse .noComma))
    | .members membersRev key :: fs =>
      let members := (key, n) :: membersRev
      match t with
      | .comma => .inl ⟨.nextKey members, fs⟩
      | .objectClose => .inl ⟨.behind (.object members.reverse .closed), fs⟩
      | _ => .inr (unwind fs (.object members.reverse .noComma))

/-- The tree if the text ends here. -/
def atEnd (s : State) : Node :=
  match s.place with
  | .value => unwind s.frames (.broken .nothing .endInValue .endInValue)
  | .firstItem => unwind s.frames (.array [] .ended)
  | .nextItem =>
    match s.frames with
    | .items itemsRev :: fs => unwind fs (.array itemsRev.reverse .endedAfterComma)
    | fs => unwind fs (.broken .nothing .endInValue .endInValue)
  | .firstKey => unwind s.frames (.object [] .ended)
  | .nextKey membersRev => unwind s.frames (.object membersRev.reverse .endedAfterComma)
  | .colon membersRev key => unwind s.frames (.object membersRev.reverse (.noColon key true))
  | .behind n =>
    match s.frames with
    | [] => n
    | .items itemsRev :: fs => unwind fs (.array (n :: itemsRev).reverse .ended)
    | .members membersRev key :: fs => unwind fs (.object ((key, n) :: membersRev).reverse .ended)

/-- Runs the machine: the tree, and whether text is left behind the document. -/
def run (s : State) : List Token → Node × Bool
  | [] => (atEnd s, false)
  | t :: ts =>
    match step s t with
    | .inl s' => run s' ts
    | .inr n => (n, true)

/-- The document in a text, and whether something stands behind it. -/
def ofText (text : String) : Node × Bool :=
  run ⟨.value, []⟩ (tokens text.toList)

mutual

/-- The document that a value is. -/
def ofValue : Value → Node
  | .null => .scalar .null
  | .bool b => .scalar (.bool b)
  | .number n => .scalar (.number (.ok n))
  | .string s => .scalar (.string (.ok s))
  | .array items => .array (ofItems items) .closed
  | .object members => .object (ofMembers members) .closed

/-- The documents that the items are. -/
def ofItems : List Value → List Node
  | [] => []
  | v :: vs => ofValue v :: ofItems vs

/-- The documents that the members are. -/
def ofMembers : List (String × Value) → List (Key × Node)
  | [] => []
  | (k, v) :: ms => (.ok k, ofValue v) :: ofMembers ms

end

end Node

end PageScan.Json
