import PageScan.Url.Domain.Label
import PageScan.Url.Domain.Mapping
import PageScan.Url.Punycode

/-!
# Domain names

The ASCII form of a domain name. Capitals become small, characters outside ASCII are replaced by
their plain forms, and a label that still holds any is written in Punycode after `xn--`.
-/

namespace PageScan.Url.Domain

/-- The ASCII characters that a domain name cannot hold. -/
def isForbidden (c : Char) : Bool :=
  c.toNat ≤ 0x20 || c.toNat = 0x7F ||
    ['%', '#', '/', ':', '<', '>', '?', '@', '[', '\\', ']', '^', '|'].contains c

/-- What a character of a domain name becomes. -/
def fold (c : Char) : List Char :=
  if c.toNat < 0x80 then [Text.lowerAscii c] else image c

/-- No character is refused, also after folding. -/
def isClean (cs : List Char) : Bool :=
  cs.all fun c => if c.toNat < 0x80 then !isForbidden c else !isRefused c

/-- What marks a label as written in Punycode. -/
def encodedLead : List Char := ['x', 'n', '-', '-']

/-- The characters that a label stands for, and none if it marks itself as Punycode and is not what
Punycode makes of characters that may stand in a name. -/
def unfoldLabel? (label : List Char) : Option (List Char) :=
  match Text.stripLead? encodedLead label with
  | none => if isLabel label then some label else none
  | some code =>
    if code.length > 2000 || !code.all (·.toNat < 0x80) then none
    else match Punycode.decode? code with
      | none => none
      | some meant =>
        if !meant.all (·.toNat < 0x80) && isClean meant && meant.flatMap fold == meant &&
            composed meant == meant && isLabel meant then some meant
        else none

/-- A label in ASCII. -/
def labelToAscii? (label : List Char) : Option (List Char) :=
  if label.all (·.toNat < 0x80) then some label
  else if label.length > 1000 then none
  else some (encodedLead ++ Punycode.encode label)

/-- A domain name in ASCII, and none for what is no domain name. -/
def toAscii? (name : List Char) : Option (List Char) :=
  if !name.all (fun c => c.toNat < 0x80 || !isRefused c) then none
  else
    let folded := name.flatMap fold
    let plain := if folded.all (·.toNat < 0x80) then folded else composed folded
    if !isClean plain then none
    else
      let labels := Text.pieces (· = '.') plain
      match labels.mapM unfoldLabel? with
      | none => none
      | some meant =>
        if meant.any (·.any runsBackward) && !meant.all hasOneDirection then none
        else (labels.mapM labelToAscii?).map fun out => ['.'].intercalate out

end PageScan.Url.Domain
