import PageScan.Browser.Paused

/-!
# The connection to a browser

A connection carries any number of commands at once. A command gets a number, enters the table of
commands that wait for an answer, and is queued; a writer sends what is queued, and a reader takes
what arrives: an answer goes to the command with its number, an event to everyone who listens for
it. `Connection.step` says which steps are possible and what they do; in which order they come is
left open.

* A command that is abandoned stays in the table until its answer arrives or the reader ends.
* When the reader ends it empties the table, and after that it lets go of the listeners, each once.
-/

namespace PageScan

/-- Where the answer to a command is left. -/
inductive AnswerSlot
  | empty
  | answered (r : Except RemoteError Json.Value)
  /-- No answer will come. -/
  | gone

/-- How far a command has come. -/
inductive CommandPhase
  | numbered
  /-- It is in the table of commands that wait. -/
  | registered
  /-- Its frame is queued, and it waits for its answer. -/
  | waiting
  | finished (r : Except DevToolsError Json.Value)
  /-- Whoever sent it does not wait for it any more. -/
  | abandoned

/-- A command that somebody waits for. -/
structure SentCommand where
  id : Nat
  command : Command
  phase : CommandPhase
  slot : AnswerSlot

/-- Somebody who listens for the events of a name. -/
structure Listener where
  key : Nat
  method : String
  /-- The events that have not been taken yet. -/
  inbox : List DevToolsEvent
  /-- Events are still brought here. -/
  registered : Bool
  /-- Nobody takes events from here any more. -/
  dropped : Bool

/-- Somebody who follows all events, as far as `Subscriber.capacity` allows. -/
structure Subscriber where
  inbox : List DevToolsEvent
  /-- How many events were lost for want of room. -/
  missed : Nat

/-- Somebody who resumes the paused requests of a page. -/
structure Interceptor where
  /-- The listener that the events come from. -/
  key : Nat
  session : String
  filter : RequestFilter
  running : Bool

/-- A connection at a moment. -/
structure Connection where
  commandTimeoutMs : Nat
  /-- The number of the next command. It is taken to stay below `2 ^ 64`, from where on numbers would
  be used again. -/
  nextId : Nat := 1
  /-- The commands that were begun, in order. -/
  sent : List SentCommand := []
  /-- The table: the numbers of the commands that an answer is kept for. -/
  table : List Nat := []
  queue : List String := []
  /-- What the browser has been sent. -/
  written : List String := []
  reading : Bool := true
  writing : Bool := true
  /-- The reader has not let go of the listeners. -/
  listening : Bool := true
  listeners : List Listener := []
  subscribers : List Subscriber := []
  interceptors : List Interceptor := []

/-- One step of a connection or of somebody who uses it. -/
inductive ConnectionAction
  /-- A command is begun and gets its number. -/
  | send (c : Command)
  /-- A command enters the table. -/
  | register (id : Nat)
  /-- The frame of a command is queued. -/
  | enqueue (id : Nat)
  /-- The time of a command is over. -/
  | expire (id : Nat)
  | abandon (id : Nat)
  /-- A command is queued that nobody waits for. -/
  | dispatch (c : Command)
  /-- A frame arrives. -/
  | receive (text : String)
  /-- The reader ends, and empties the table. -/
  | endReading
  /-- The reader, which has ended, lets go of the listeners. -/
  | releaseListeners
  /-- The first frame of the queue is sent. -/
  | write
  | failWriting
  | listen (method : String)
  | dropListener (key : Nat)
  | subscribe
  /-- An interceptor starts on a listener, which is its own from then on. -/
  | intercept (key : Nat) (session : String) (filter : RequestFilter)
  /-- An interceptor takes its next event. -/
  | resume (key : Nat)
  | stopIntercepting (key : Nat)

namespace SentCommand

/-- What an answer means to whoever sent the command. -/
def result (s : SentCommand) : Except RemoteError Json.Value → Except DevToolsError Json.Value
  | .ok v => .ok v
  | .error e => .error (.remote s.command.method e.code e.message)

/-- The command ends if it waits and there is something in its slot. -/
def settled (s : SentCommand) : SentCommand :=
  match s.phase, s.slot with
  | .waiting, .answered r => { s with phase := .finished (s.result r) }
  | .waiting, .gone => { s with phase := .finished (.error .closed) }
  | _, _ => s

/-- Something is left in the slot of the command. -/
def leave (s : SentCommand) (slot : AnswerSlot) : SentCommand :=
  settled { s with slot }

end SentCommand

namespace Listener

/-- Nothing more will come from here. -/
def isOver (l : Listener) : Bool :=
  !l.registered && l.inbox.isEmpty

/-- Brings an event here, if it is listened for. A listener that nobody takes from is let go. -/
def hear (l : Listener) (e : DevToolsEvent) : Listener :=
  if l.registered && l.method = e.method then
    if l.dropped then { l with registered := false } else { l with inbox := l.inbox ++ [e] }
  else l

end Listener

namespace Subscriber

/-- How many events are kept for a subscriber. -/
def capacity : Nat := 1024

/-- Brings an event here; where there is no room, the oldest is lost. -/
def hear (s : Subscriber) (e : DevToolsEvent) : Subscriber :=
  if s.inbox.length < capacity then { s with inbox := s.inbox ++ [e] }
  else ⟨s.inbox.drop 1 ++ [e], s.missed + 1⟩

end Subscriber

namespace Connection

/-- A connection that was just opened. -/
def opened (commandTimeoutMs : Nat) : Connection := { commandTimeoutMs }

/-- The command with a number. -/
def command? (c : Connection) (id : Nat) : Option SentCommand :=
  c.sent.find? fun s => s.id = id

/-- How far the command with a number has come. -/
def phase? (c : Connection) (id : Nat) : Option CommandPhase :=
  (c.command? id).map fun s => s.phase

/-- The connection with the command of a number changed. -/
def update (c : Connection) (id : Nat) (f : SentCommand → SentCommand) : Connection :=
  { c with sent := c.sent.map fun s => if s.id = id then f s else s }

/-- The connection with a number taken out of the table. -/
def forget (c : Connection) (id : Nat) : Connection :=
  { c with table := c.table.filter (· ≠ id) }

/-- A command is queued that nobody waits for; nothing is queued once the writer has ended. -/
def dispatched (c : Connection) (command : Command) : Connection :=
  { c with
    nextId := c.nextId + 1
    queue := if c.writing then c.queue ++ [command.frame c.nextId] else c.queue }

/-- Takes an answer: it goes to the command in the table that has its number. -/
def takeResponse (c : Connection) (id : Nat) (r : Except RemoteError Json.Value) : Connection :=
  if c.table.contains id then (c.forget id).update id fun s => s.leave (.answered r) else c

/-- Takes an event: it goes to all listeners for it and to all subscribers. -/
def takeEvent (c : Connection) (e : DevToolsEvent) : Connection :=
  { c with
    listeners := c.listeners.map fun l => l.hear e
    subscribers := c.subscribers.map fun s => s.hear e }

/-- Takes a frame. One that cannot be read is passed over. -/
def take (c : Connection) (text : String) : Connection :=
  match Inbound.ofText text with
  | .ok (.response id r) => c.takeResponse id r
  | .ok (.event e) => c.takeEvent e
  | .error _ => c

/-- The reader ends: every command in the table learns that no answer will come. -/
def close (c : Connection) : Connection :=
  { c with
    reading := false
    sent := c.sent.map fun s => if c.table.contains s.id then s.leave .gone else s
    table := [] }

/-- The listeners are let go. -/
def release (c : Connection) : Connection :=
  { c with
    listening := false
    listeners := c.listeners.map fun l => { l with registered := false } }

/-- A command in the table is queued. If the writer has ended it fails at once. -/
def enqueue (c : Connection) (s : SentCommand) : Connection :=
  if c.writing then
    { c with queue := c.queue ++ [s.command.frame s.id] }.update s.id fun s =>
      SentCommand.settled { s with phase := .waiting }
  else
    (c.forget s.id).update s.id fun s => { s with phase := .finished (.error .closed) }

/-- An interceptor takes the next event of its listener. It ends if its command cannot be
queued. -/
def resume (c : Connection) (i : Interceptor) (l : Listener) : Option Connection :=
  match l.inbox with
  | [] => none
  | e :: rest =>
    let taken :=
      { c with
        listeners := c.listeners.map fun other =>
          if other.key = l.key then { other with inbox := rest } else other }
    match PausedRequest.resume? i.filter i.session e with
    | none => some taken
    | some command =>
      if c.writing then some (taken.dispatched command)
      else
        some
          { taken.dispatched command with
            interceptors := c.interceptors.map fun other =>
              if other.key = i.key then { other with running := false } else other }

/-- The connection after a step, if that step is possible. -/
def step (c : Connection) : ConnectionAction → Option Connection
  | .send command =>
    some
      { c with
        nextId := c.nextId + 1
        sent := c.sent ++ [⟨c.nextId, command, .numbered, .empty⟩] }
  | .register id =>
    match c.phase? id with
    | some .numbered =>
      some ({ c with table := c.table ++ [id] }.update id fun s => { s with phase := .registered })
    | _ => none
  | .enqueue id =>
    match c.command? id with
    | some s =>
      match s.phase with
      | .registered => some (c.enqueue s)
      | _ => none
    | none => none
  | .expire id =>
    match c.command? id with
    | some s =>
      match s.phase with
      | .waiting =>
        some ((c.forget id).update id fun s =>
          { s with phase := .finished (.error (.timeout s.command.method c.commandTimeoutMs)) })
      | _ => none
    | none => none
  | .abandon id =>
    match c.phase? id with
    | some .numbered | some .registered | some .waiting =>
      some (c.update id fun s => { s with phase := .abandoned })
    | _ => none
  | .dispatch command => some (c.dispatched command)
  | .receive text => if c.reading then some (c.take text) else none
  | .endReading => if c.reading then some c.close else none
  | .releaseListeners => if !c.reading && c.listening then some c.release else none
  | .write =>
    match c.writing, c.queue with
    | true, frame :: rest => some { c with queue := rest, written := c.written ++ [frame] }
    | _, _ => none
  | .failWriting => if c.writing then some { c with writing := false } else none
  | .listen method =>
    some
      { c with
        listeners := c.listeners ++ [⟨c.listeners.length, method, [], true, false⟩] }
  | .dropListener key =>
    some
      { c with
        listeners := c.listeners.map fun l =>
          if l.key = key then { l with dropped := true, inbox := [] } else l }
  | .subscribe => some { c with subscribers := c.subscribers ++ [⟨[], 0⟩] }
  | .intercept key session filter =>
    if (c.listeners.any fun l => l.key = key) && !(c.interceptors.any fun i => i.key = key) then
      some { c with interceptors := c.interceptors ++ [⟨key, session, filter, true⟩] }
    else none
  | .resume key =>
    match c.interceptors.find? fun i => i.key = key && i.running,
        c.listeners.find? fun l => l.key = key && !l.dropped with
    | some i, some l => c.resume i l
    | _, _ => none
  | .stopIntercepting key =>
    some
      { c with
        interceptors := c.interceptors.map fun i =>
          if i.key = key then { i with running := false } else i }

/-- The connection after a run of steps, if each is possible in its turn. -/
def run (c : Connection) : List ConnectionAction → Option Connection
  | [] => some c
  | a :: rest => (c.step a).bind fun c => c.run rest

/-- What a command came to, if it is over. -/
def outcome? (c : Connection) (id : Nat) : Option (Except DevToolsError Json.Value) :=
  match c.phase? id with
  | some (.finished r) => some r
  | _ => none

end Connection

end PageScan
