import PageScan.Url.Host

/-!
# Addresses

An address on the web, taken apart as browsers do it: scheme, user, host, port, path, query and
fragment. `Url.ofText` accepts what a browser accepts and brings it into one form, `Url.text`
prints that form.
-/

namespace PageScan

/-- What follows the host. -/
inductive Url.Path
  | flat (text : String)
  | segments (parts : List String)
  deriving DecidableEq

/-- An address. -/
structure Url where
  scheme : String
  username : String
  password : String
  host : Option Url.Host
  port : Option Nat
  path : Url.Path
  query : Option String
  fragment : Option String
  deriving DecidableEq

namespace Url

/-- How addresses of a scheme are taken apart. -/
inductive SchemeKind
  | file
  | special
  | other
  deriving DecidableEq

/-- The kind of a scheme. -/
def schemeKind (scheme : String) : SchemeKind :=
  if scheme = "file" then .file
  else if ["http", "https", "ws", "wss", "ftp"].contains scheme then .special
  else .other

/-- The port that a scheme uses if an address names none. -/
def defaultPort? (scheme : String) : Option Nat :=
  match scheme with
  | "http" | "ws" => some 80
  | "https" | "wss" => some 443
  | "ftp" => some 21
  | _ => none

/-- The character ends the user, host and port. -/
def endsAuthority (kind : SchemeKind) (c : Char) : Bool :=
  c = '/' || c = '?' || c = '#' || (kind ≠ .other && c = '\\')

/-- The character parts two segments of a path. -/
def isSeparator (kind : SchemeKind) (c : Char) : Bool :=
  c = '/' || (kind ≠ .other && c = '\\')

/-- What counts in a text: no blanks or controls at its ends, and no tabs or line ends. -/
def significant (s : String) : List Char :=
  let isEdge (c : Char) : Bool := c.toNat ≤ 0x20
  let inner := ((s.toList.dropWhile isEdge).reverse.dropWhile isEdge).reverse
  inner.filter fun c => !(c = '\t' || c = '\n' || c = '\r')

/-- The scheme at the start, in small letters, and what follows its colon. -/
def scheme? (cs : List Char) : Option (String × List Char) :=
  match cs with
  | c :: _ =>
    if c.isAlpha then
      let name := cs.takeWhile fun d => d.isAlphanum || ['+', '-', '.'].contains d
      match cs.drop name.length with
      | ':' :: rest => some (String.ofList (name.map Text.lowerAscii), rest)
      | _ => none
    else none
  | [] => none

/-! ## User, host and port -/

/-- The user name and password before an `@`, escaped. -/
def userInfo (cs : List Char) : String × String :=
  let name := cs.takeWhile (· ≠ ':')
  let secret := cs.drop (name.length + 1)
  (String.ofList (percentEncode escapedInUser name),
    String.ofList (percentEncode escapedInUser secret))

/-- The text before the last `@`, and what follows it. -/
def splitUser? (cs : List Char) : Option (List Char × List Char) :=
  let after := (cs.reverse.takeWhile (· ≠ '@')).reverse
  if after.length = cs.length then none
  else some (cs.take (cs.length - after.length - 1), after)

/-- The host at the start, up to a colon outside brackets, and what follows. -/
def splitHost (inBrackets : Bool) : List Char → List Char × List Char
  | [] => ([], [])
  | c :: cs =>
    if c = ':' && !inBrackets then ([], c :: cs)
    else
      let (host, rest) := splitHost (c = '[' || (inBrackets && c ≠ ']')) cs
      (c :: host, rest)

/-- Reads a port, at most 65535; none if no digits are there. -/
def port? (digits : List Char) : Option (Option Nat) :=
  if digits.isEmpty then some none
  else match Ipv4.number? 10 digits with
    | some n => if n ≤ 65535 then some (some n) else none
    | none => none

/-- Reads a host with the port after it. -/
def hostAndPort (kind : SchemeKind) (scheme : String) (cs : List Char) :
    Except Fault (Option Host × Option Nat) := do
  let (name, rest) := splitHost false cs
  if name.isEmpty then
    if kind = .other && rest.isEmpty then return (none, none) else .error .emptyHost
  let host ← if kind = .other then Host.ofOther name else Host.ofSpecial name
  match port? (rest.drop 1) with
  | none => .error .port
  | some port => return (host, if port = defaultPort? scheme then none else port)

/-! ## Path -/

/-- The segment stands for the folder that it is in. -/
def isHere (segment : String) : Bool :=
  [".", "%2e"].contains (Text.lower segment)

/-- The segment stands for the folder above. -/
def isAbove (segment : String) : Bool :=
  ["..", ".%2e", "%2e.", "%2e%2e"].contains (Text.lower segment)

/-- The segment is a letter with a colon or a bar, as disks are named. -/
def isDrive (segment : String) : Bool :=
  match segment.toList with
  | [c, ':'] | [c, '|'] => c.isAlpha
  | _ => false

/-- Takes the last segment away, unless it names a disk; `done` is last first. -/
def above (done : List String) : List String :=
  match done with
  | [] => []
  | last :: rest => if isDrive last then done else rest

/-- Resolves the segments that stand for folders; `done` holds the segments so far, last first. -/
def resolve (done : List String) : List String → List String
  | [] => done.reverse
  | [last] =>
    if isAbove last then ("" :: above done).reverse
    else if isHere last then ("" :: done).reverse
    else (last :: done).reverse
  | segment :: rest =>
    if isAbove segment then resolve (above done) rest
    else if isHere segment then resolve done rest
    else resolve (segment :: done) rest

/-- The segments of a path that starts after its first separator. -/
def segments (kind : SchemeKind) (cs : List Char) : List String :=
  resolve []
    ((Text.pieces (isSeparator kind) cs).map fun s => String.ofList (percentEncode escapedInPath s))

/-! ## The whole -/

/-- Parts a text at the first character that satisfies `p`; the character is dropped. -/
def cut (p : Char → Bool) (cs : List Char) : List Char × Option (List Char) :=
  let before := cs.takeWhile (!p ·)
  if before.length = cs.length then (before, none) else (before, some (cs.drop (before.length + 1)))

/-- Takes fragment and query off the end. -/
def tails (kind : SchemeKind) (cs : List Char) : List Char × Option String × Option String :=
  let (cs, fragment) := cut (· = '#') cs
  let (cs, query) := cut (· = '?') cs
  let escaped := if kind = .other then escapedInQuery else escapedInSpecialQuery
  (cs, query.map fun q => String.ofList (percentEncode escaped q),
    fragment.map fun f => String.ofList (percentEncode escapedInFragment f))

/-- Reads what follows the two slashes: user, host, port and path. -/
def ofAuthority (kind : SchemeKind) (scheme : String) (cs : List Char) : Except Fault Url := do
  let (cs, query, fragment) := tails kind cs
  let authority := cs.takeWhile (!endsAuthority kind ·)
  let path := cs.drop authority.length
  let segments := match path with
    | [] => if kind = .other then [] else [""]
    | _ :: rest => segments kind rest
  let (user, rest) := match splitUser? authority with
    | some (user, rest) => (userInfo user, rest)
    | none => (("", ""), authority)
  if authority = ['@'] && !(path.isEmpty && query.isNone && fragment.isNone) then .error .emptyHost
  let (host, port) ← hostAndPort kind scheme rest
  if host.isNone && (user.1 ≠ "" || user.2 ≠ "") then .error .emptyHost
  return ⟨scheme, user.1, user.2, host, port, .segments segments, query, fragment⟩

/-- Reads what follows the colon of the `file` scheme. -/
def ofFile (cs : List Char) : Except Fault Url := do
  let (cs, query, fragment) := tails .file cs
  let make (host : Option Host) (path : List Char) : Url :=
    ⟨"file", "", "", host, none, .segments (segments .file path), query, fragment⟩
  match cs with
  | a :: b :: rest =>
    if isSeparator .file a && isSeparator .file b then
      let name := rest.takeWhile (!isSeparator .file ·)
      let path := rest.drop name.length
      if isDrive (String.ofList name) then return make none rest
      if name.isEmpty then return make none (path.drop 1)
      let host ← Host.ofSpecial name
      let drive := (Text.pieces (isSeparator .file) (path.drop 1)).head?.any
        fun s => isDrive (String.ofList s)
      return make (if host = .domain "localhost" || drive then none else some host) (path.drop 1)
    else return make none (if isSeparator .file a then b :: rest else cs)
  | cs => return make none (cs.dropWhile (isSeparator .file))

/-- Reads what follows the colon of a scheme that is not special. -/
def ofOther (scheme : String) (cs : List Char) : Except Fault Url :=
  match cs with
  | '/' :: '/' :: rest => ofAuthority .other scheme rest
  | _ =>
    let (cs, query, fragment) := tails .other cs
    let path := match cs with
      | '/' :: rest => .segments (segments .other rest)
      | cs => .flat (String.ofList (percentEncode escapedAlways cs))
    .ok ⟨scheme, "", "", none, none, path, query, fragment⟩

/-- Reads an address. -/
def ofText (s : String) : Except Fault Url :=
  match scheme? (significant s) with
  | none => .error .noScheme
  | some (scheme, rest) =>
    match schemeKind scheme with
    | .file => ofFile rest
    | .special => ofAuthority .special scheme (rest.dropWhile (isSeparator .special))
    | .other => ofOther scheme rest

/-- The path as it is printed. -/
def Path.text : Path → String
  | .flat text => text
  | .segments parts => String.join (parts.map ("/" ++ ·))

/-- User and password as they are printed before a host. -/
def userText (u : Url) : String :=
  if u.username = "" && u.password = "" then ""
  else u.username ++ (if u.password = "" then "" else ":" ++ u.password) ++ "@"

/-- The address in its one form. -/
def text (u : Url) : String :=
  u.scheme ++ ":" ++
    (match u.host with
      | some host =>
        "//" ++ u.userText ++ host.text ++ ((u.port.map fun n => ":" ++ toString n).getD "")
      | none => if schemeKind u.scheme = .file then "//" else "") ++
    u.path.text ++
    ((u.query.map ("?" ++ ·)).getD "") ++
    ((u.fragment.map ("#" ++ ·)).getD "")

/-- The host as it is printed. -/
def hostText? (u : Url) : Option String :=
  u.host.map Host.text

end Url

end PageScan
