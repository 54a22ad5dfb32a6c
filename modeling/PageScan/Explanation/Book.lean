import PageScan.Explanation.Prompt
import PageScan.Explanation.State
import PageScan.Page.Call

/-!
# The book of explanations

The book holds one state for each finding. Asking for an explanation calls the service, unless a
call for that finding is under way or has brought an explanation; a failed one is asked for again.
A `Desk` keeps a book on a clock, with the calls that are under way.
-/

namespace PageScan

/-- What the service says: an explanation, or why there is none. -/
abbrev ServiceAnswer := Except String String

/-- The states of findings. A finding without an entry is unrequested. -/
structure ExplanationBook where
  entries : List (ExplanationKey × ExplanationState) := []

namespace ExplanationBook

/-- The state of a finding. -/
def state (b : ExplanationBook) (key : ExplanationKey) : ExplanationState :=
  (b.entries.lookup key).getD .unrequested

/-- The book with the state of one finding replaced. -/
def set (b : ExplanationBook) (key : ExplanationKey) (state : ExplanationState) :
    ExplanationBook :=
  ⟨(key, state) :: b.entries.filter fun e => e.1 ≠ key⟩

/-- What comes of asking for an explanation. -/
inductive Asked
  /-- The finding has this state, and nobody is called. -/
  | known (state : ExplanationState)
  /-- The service has to be called. -/
  | call
  deriving DecidableEq

/-- Asks for an explanation. -/
def ask (b : ExplanationBook) (key : ExplanationKey) : Asked × ExplanationBook :=
  match b.state key with
  | .resolved text => (.known (.resolved text), b)
  | .pending => (.known .pending, b)
  | .unrequested | .failed _ => (.call, b.set key .pending)

/-- The state that an answer of the service leads to. A blank explanation is none. -/
def stateOf : ServiceAnswer → ExplanationState
  | .ok text =>
    if Text.isBlankText text then .failed ExplanationState.unavailable
    else .resolved (Text.trim text)
  | .error _ => .failed ExplanationState.unavailable

/-- Enters the answer of the service. -/
def enter (b : ExplanationBook) (key : ExplanationKey) (answer : ServiceAnswer) :
    ExplanationState × ExplanationBook :=
  (stateOf answer, b.set key (stateOf answer))

end ExplanationBook

/-- A call of the service that is under way. -/
structure ExplanationCall where
  request : Nat
  key : ExplanationKey
  /-- When the answer comes, and what it is. -/
  due : Nat
  answer : ServiceAnswer

/-- What a request came to: a state of its finding, or nothing if it was abandoned. -/
abbrev RequestResult := Option ExplanationState

/-- A book on a clock. Requests are numbered in the order in which they are made. -/
structure ExplanationDesk where
  now : Nat := 0
  book : ExplanationBook := {}
  calls : List ExplanationCall := []
  results : List (Nat × RequestResult) := []
  /-- What the service was asked. -/
  prompts : List String := []
  requests : Nat := 0

namespace ExplanationDesk

/-- Enters the answer to a call. -/
def answer (d : ExplanationDesk) (c : ExplanationCall) : ExplanationDesk :=
  let (state, book) := d.book.enter c.key c.answer
  { d with
    book := book
    calls := d.calls.filter fun other => other.request ≠ c.request
    results := d.results ++ [(c.request, some state)] }

/-- Makes a request about a text, to which the service would answer after a delay. -/
def request (d : ExplanationDesk) (key : ExplanationKey) (text : String) (delayMs : Nat)
    (reply : ServiceAnswer) : Nat × ExplanationDesk :=
  let number := d.requests
  match d.book.ask key with
  | (.known state, _) =>
    (number,
      { d with requests := number + 1, results := d.results ++ [(number, some state)] })
  | (.call, book) =>
    let call : ExplanationCall := ⟨number, key, d.now + delayMs, reply⟩
    let asked :=
      { d with
        book := book, calls := d.calls ++ [call], requests := number + 1
        prompts := d.prompts ++ [explanationPrompt text] }
    (number, if delayMs = 0 then asked.answer call else asked)

/-- Lets time pass to a moment; the answers that are due by then are entered. -/
def passTo (d : ExplanationDesk) (time : Nat) : ExplanationDesk :=
  let due := d.calls.filter fun c => c.due ≤ time
  { due.foldl answer d with now := max d.now time }

/-- What a request came to, if it is over. -/
def result? (d : ExplanationDesk) (request : Nat) : Option RequestResult :=
  d.results.lookup request

/-- Waits until a request is over. -/
def await (d : ExplanationDesk) (request : Nat) : ExplanationDesk :=
  match d.calls.find? fun c => c.request = request with
  | some c => d.passTo c.due
  | none => d

/-- Abandons a request: nobody waits for its answer any more. -/
def abandon (d : ExplanationDesk) (request : Nat) : ExplanationDesk :=
  if d.calls.any fun c => c.request = request then
    { d with
      calls := d.calls.filter fun c => c.request ≠ request
      results := d.results ++ [(request, none)] }
  else d

end ExplanationDesk

end PageScan
