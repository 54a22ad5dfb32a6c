import PageScan.Page.Call

/-!
# Scripted pages

A page whose answers are laid down in advance: for each kind of call a list of replies, used one
after another, of which the last is used again and again. Where nothing is laid down the page
answers like a plain page without violations.
-/

namespace PageScan

/-- Replies in the order of their use; an answer left out is the one of a plain page. -/
abbrev Slot (α : Type) := List (Reply PageError (Option α))

/-- A page as it is laid down. -/
structure ScriptedPage where
  navigate : Slot String := []
  /-- The replies to scripts, by the name of the script. -/
  evaluate : List (String × Slot Json.Value) := []
  injectScript : Slot Unit := []
  injectStyle : Slot Unit := []
  screenshot : Slot (List UInt8) := []
  interceptRequests : Slot Unit := []
  /-- What the page answers about elements, by selector. -/
  elements : List (String × Json.Value) := []

namespace Slot

variable {α β : Type}

/-- The reply to use, and what is left. -/
def next : Slot α → Reply PageError (Option α) × Slot α
  | [] => (.now none, [])
  | [reply] => (reply, [reply])
  | reply :: rest => (reply, rest)

/-- The reply with its answer, or the one of a plain page, as an answer to the call. -/
def fill (plain : α) (f : α → β) (r : Reply PageError (Option α)) : Reply PageError β :=
  ⟨r.delayMs, r.outcome.map fun o => o.map fun a => f (a.getD plain)⟩

end Slot

namespace ScriptedPage

/-- What a plain page answers to a script. -/
def plainAnswer (elements : List (String × Json.Value)) : Script → Json.Value
  | .fontsReady | .scrollToTop | .auditProbe => .bool true
  | .scrollBy _ => .ofNat 0
  | .documentSize => .object [("height", .ofNat 2400), ("width", .ofNat 1280)]
  | .auditRun =>
    .object [("incomplete", .array []), ("passes", .array []), ("violations", .array [])]
  | .resolve selector => (elements.lookup selector).getD .null

/-- The image that a plain page shows. -/
def plainScreenshot : List UInt8 := [0xff, 0xd8, 0xff, 0xd9]

/-- The replies to a script, and the page with them replaced. -/
def scriptSlot (p : ScriptedPage) (tag : String) : Slot Json.Value :=
  (p.evaluate.lookup tag).getD []

/-- The page with the replies to a script replaced. -/
def withScriptSlot (p : ScriptedPage) (tag : String) (slot : Slot Json.Value) : ScriptedPage :=
  { p with evaluate := p.evaluate.map fun (t, s) => if t = tag then (t, slot) else (t, s) }

/-- What the page answers to a call, and the page after it. -/
def answer (call : PageCall) (p : ScriptedPage) : Reply PageError call.Answer × ScriptedPage :=
  match call with
  | .navigate url policy _ =>
    let (reply, rest) := p.navigate.next
    (Slot.fill url (fun final => ⟨final, policy⟩) reply, { p with navigate := rest })
  | .evaluate script =>
    let (reply, rest) := (p.scriptSlot script.tag).next
    (Slot.fill (plainAnswer p.elements script) id reply, p.withScriptSlot script.tag rest)
  | .injectScript _ =>
    let (reply, rest) := p.injectScript.next
    (Slot.fill () id reply, { p with injectScript := rest })
  | .injectStyle _ =>
    let (reply, rest) := p.injectStyle.next
    (Slot.fill () id reply, { p with injectStyle := rest })
  | .screenshot _ =>
    let (reply, rest) := p.screenshot.next
    (Slot.fill plainScreenshot id reply, { p with screenshot := rest })
  | .interceptRequests _ =>
    let (reply, rest) := p.interceptRequests.next
    (Slot.fill () id reply, { p with interceptRequests := rest })

/-- Scripted pages as pages. -/
def page : Page ScriptedPage := ⟨answer⟩

end ScriptedPage

end PageScan
