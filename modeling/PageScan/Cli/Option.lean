import PageScan.Export.Format
import PageScan.Text.Find

/-!
# Reading a command line

How the words of a command line are told apart into options, values and operands, for any command.

* `Grammar` says what a command takes.
* `Reading` is the state of reading, and `read` reads the words up to the name of a subcommand.
* `Words` is what has been read.

An option takes its value from the same word or from the next one. A value is looked at when the
next option or operand begins, or at the end.
-/

namespace PageScan.Cli

/-- Why a command line is not carried out. -/
inductive UsageError
  | displayHelp
  | displayVersion
  | helpOnMissing
  | missingSubcommand
  | invalidSubcommand
  | unknownArgument
  | argumentConflict
  | missingRequired
  | invalidValue
  | valueValidation
  | tooManyValues
  deriving DecidableEq, Repr

/-- What a value has to be. -/
inductive ValueKind
  | text
  /-- A path, which is not empty. -/
  | path
  /-- A number of 64 bits. -/
  | count
  /-- The name of an export format. -/
  | format
  deriving DecidableEq, Repr

/-- What an option does. -/
inductive Meaning
  | flag
  | value (kind : ValueKind)
  | help
  | version
  deriving DecidableEq, Repr

/-- An option of a command. -/
structure OptionSpec where
  long : String
  short : Option Char
  meaning : Meaning
  deriving DecidableEq, Repr

/-- An operand of a command. -/
structure Operand where
  name : String
  kind : ValueKind
  /-- There may be any number of them. -/
  many : Bool
  deriving DecidableEq, Repr

/-- What a command takes. -/
structure Grammar where
  options : List OptionSpec
  operand : Option Operand
  subcommands : List String

/-- What has been read: flags, and the values of options and operands in order. -/
structure Words where
  flags : List String := []
  values : List (String × String) := []

namespace Words

/-- The flag was given. -/
def has (w : Words) (name : String) : Bool :=
  w.flags.contains name

/-- The values that were given under a name. -/
def all (w : Words) (name : String) : List String :=
  (w.values.filter fun v => v.1 = name).map (·.2)

/-- The value that was given under a name. -/
def get? (w : Words) (name : String) : Option String :=
  w.values.lookup name

end Words

/-- The decimal digits of a number that fits 64 bits, perhaps with a plus sign. -/
def countOf? (text : String) : Option Nat :=
  let digits := match text.toList with
    | '+' :: rest => rest
    | cs => cs
  if digits.isEmpty || !digits.all Char.isDigit then none
  else
    let n := digits.foldl (fun n c => 10 * n + (c.toNat - '0'.toNat)) 0
    if n < Nat.pow 2 64 then some n else none

/-- Refuses a value that is not of its kind. -/
def ValueKind.check (kind : ValueKind) (text : String) : Except UsageError Unit :=
  match kind with
  | .text => .ok ()
  | .path => if text = "" then .error .invalidValue else .ok ()
  | .count => if (countOf? text).isSome then .ok () else .error .valueValidation
  | .format =>
    if (ExportFormat.ofText text).toOption.isSome then .ok () else .error .valueValidation

/-- An option or operand whose values are still being read. -/
structure Unfinished where
  name : String
  kind : ValueKind
  many : Bool
  value : Option String

/-- The state of reading a command line. -/
structure Reading where
  words : Words := {}
  unfinished : Option Unfinished := none
  /-- The next word is the value of an option. -/
  awaiting : Bool := false
  /-- Only operands follow. -/
  operandsOnly : Bool := false
  /-- How many operands that stand alone have been read. -/
  operands : Nat := 0

namespace Reading

/-- Enters a value under a name. -/
def enter (r : Reading) (u : Unfinished) (value : String) : Except UsageError Reading := do
  if !u.many && (r.words.get? u.name).isSome then .error .argumentConflict
  u.kind.check value
  return { r with words.values := r.words.values ++ [(u.name, value)] }

/-- Enters what is unfinished. -/
def settled (r : Reading) : Except UsageError Reading :=
  match r.unfinished with
  | none => .ok r
  | some u =>
    let r := { r with unfinished := none }
    match u.value with
    | none => .error .invalidValue
    | some value => r.enter u value

/-- Reads an option that takes no value from another word: a flag, or what shows a text. -/
def act (r : Reading) (o : OptionSpec) : Except UsageError Reading := do
  let r ← r.settled
  match o.meaning with
  | .help => .error .displayHelp
  | .version => .error .displayVersion
  | _ =>
    if r.words.has o.long then .error .argumentConflict
    else return { r with words.flags := r.words.flags ++ [o.long], awaiting := false }

/-- Reads an option with a value in the same word. -/
def attached (r : Reading) (o : OptionSpec) (kind : ValueKind) (value : String) :
    Except UsageError Reading := do
  let r ← r.settled
  let r ← r.enter ⟨o.long, kind, false, none⟩ value
  return { r with awaiting := false }

/-- Reads an option whose value is the next word. -/
def expecting (r : Reading) (o : OptionSpec) (kind : ValueKind) : Except UsageError Reading := do
  let r ← r.settled
  return { r with unfinished := some ⟨o.long, kind, false, none⟩, awaiting := true }

/-- Reads an option by its long name, perhaps with a value behind an equals sign. -/
def long (r : Reading) (g : Grammar) (body : List Char) : Except UsageError Reading :=
  let (name, value?) := match Text.splitOnce? ['='] body with
    | some (name, value) => (name, some (String.ofList value))
    | none => (body, none)
  match g.options.find? fun o => o.long = String.ofList name with
  | none => .error .unknownArgument
  | some o =>
    match o.meaning, value? with
    | .value kind, some value => r.attached o kind value
    | .value kind, none => r.expecting o kind
    | _, some _ => .error .tooManyValues
    | _, none => r.act o

/-- Reads options by their letters; the first that takes a value takes the rest of the word. -/
def short (r : Reading) (g : Grammar) : List Char → Except UsageError Reading
  | [] => .ok r
  | c :: rest =>
    match g.options.find? fun o => o.short = some c with
    | none => .error .unknownArgument
    | some o =>
      match o.meaning, rest with
      | .value kind, [] => r.expecting o kind
      | .value kind, '=' :: value => r.attached o kind (String.ofList value)
      | .value kind, value => r.attached o kind (String.ofList value)
      | _, _ => do short (← r.act o) g rest

/-- What is wrong with a word that is no operand. -/
def stray (r : Reading) (g : Grammar) (word : String) : UsageError :=
  if r.operandsOnly && g.subcommands.contains word then .unknownArgument
  else if g.subcommands.isEmpty then .unknownArgument
  else .invalidSubcommand

/-- Reads an operand. -/
def operand (r : Reading) (g : Grammar) (word : String) : Except UsageError Reading := do
  match g.operand with
  | none => .error (r.stray g word)
  | some o =>
    if !o.many && 0 < r.operands then .error .unknownArgument
    else
      let r ← r.settled
      return { r with
        unfinished := some ⟨o.name, o.kind, o.many, some word⟩
        operands := r.operands + 1
        awaiting := false }

/-- Reads a word that is the value of the option before it. -/
def fill (r : Reading) (word : String) : Reading :=
  { r with
    unfinished := r.unfinished.map fun u => { u with value := some word }
    awaiting := false }

end Reading

/-- Reads words up to the end or to the name of a subcommand, which is given with the words behind
it. -/
def read (g : Grammar) (r : Reading) :
    List String → Except UsageError (Words × Option (String × List String))
  | [] => do return ((← r.settled).words, none)
  | word :: rest =>
    if r.operandsOnly then do read g (← r.operand g word) rest
    else if !r.awaiting && g.subcommands.contains word then do
      return ((← r.settled).words, some (word, rest))
    else if word = "--" then read g { r with operandsOnly := true } rest
    else
      match word.toList with
      | '-' :: '-' :: body => do read g (← r.long g body) rest
      | '-' :: c :: body => do read g (← r.short g (c :: body)) rest
      | _ =>
        if r.awaiting then read g (r.fill word) rest
        else do read g (← r.operand g word) rest

end PageScan.Cli
