import PageScan.Browser.Frame
import PageScan.Proofs.Json.Parts

/-!
# What frames say

A frame from the browser is a record of six members, each of which may be null or left out. With a
number it is an answer to the command of that number, else with a name it is an event; what has
neither is nothing.

* `Inbound.Members.StandIn`: the members that stand in a text.
* `Inbound.Answers`, `Inbound.Announces`: the texts that are answers, and those that are events.
* `Inbound.ofText_eq_response_iff`, `Inbound.ofText_eq_event_iff`: as such they are read, and no
  others.
* `Command.standsIn_frame`: what stands in the frame of a command.
-/

namespace PageScan

open Json

namespace RemoteError

/-- The document is this error: a code of 64 bits and a message. -/
def StandsIn (n : Node) (e : RemoteError) : Prop :=
  ∃ code message : Node, n.Parts ["code", "message"] [[code], [message]] ∧
    code.IsInteger 64 e.code ∧ message.IsText e.message

/-- The fields of an error. -/
def fields : Fields [Int, String] :=
  .cons (.required "code" Decoder.i64) <| .cons (.required "message" Decoder.string) .nil

theorem skips_fields : fields.Skips :=
  ⟨Decoder.skips_integer _ _ _, Decoder.skips_string, trivial⟩

theorem decoder_eq_ok_iff {depth depth' : Nat} {n : Node} {e : RemoteError}
    (henter : (Source.text depth).enter = .ok (.text depth')) :
    decoder (.text depth) n = .ok e ↔ StandsIn n e := by
  have hrecord : decoder (.text depth) n = .ok e ↔ _ :=
    Decoder.record_eq_ok_iff henter (by decide) skips_fields rfl
  rw [hrecord]
  constructor
  · rintro ⟨parts, ⟨code, message, ⟨⟩⟩, hparts, htake, rfl⟩
    match parts, htake with
    | [codes, messages], ⟨hcodes, hmessages, _⟩ =>
      obtain ⟨n₁, rfl, hcode⟩ := Field.takes_required_iff.1 hcodes
      obtain ⟨n₂, rfl, hmessage⟩ := Field.takes_required_iff.1 hmessages
      exact ⟨n₁, n₂, hparts, Decoder.i64_eq_ok_iff.1 hcode, Decoder.string_eq_ok_iff.1 hmessage⟩
  · rintro ⟨n₁, n₂, hparts, hcode, hmessage⟩
    refine ⟨_, (e.code, e.message, ()), hparts, ⟨Field.takes_required_iff.2 ⟨n₁, rfl, ?_⟩,
      Field.takes_required_iff.2 ⟨n₂, rfl, ?_⟩, trivial⟩, rfl⟩
    · exact Decoder.i64_eq_ok_iff.2 hcode
    · exact Decoder.string_eq_ok_iff.2 hmessage

theorem skips_decoder : decoder.Skips :=
  Decoder.skips_record (by decide) skips_fields rfl

end RemoteError

namespace Inbound

/-- The documents that come for the members of a frame. -/
structure Documents where
  id : List Node
  method : List Node
  sessionId : List Node
  params : List Node
  result : List Node
  error : List Node

/-- The text is a record of these documents, and nothing else. -/
def Documents.MakeUp (ds : Documents) (text : String) : Prop :=
  ∃ n, Node.ofText text = (n, false) ∧
    n.Parts ["id", "method", "sessionId", "params", "result", "error"]
      [ds.id, ds.method, ds.sessionId, ds.params, ds.result, ds.error]

/-- The members that the documents are. -/
structure Members.AreIn (m : Members) (ds : Documents) : Prop where
  id : Node.Optional (Node.IsNatural 64) ds.id m.id
  method : Node.Optional Node.IsText ds.method m.method
  sessionId : Node.Optional Node.IsText ds.sessionId m.sessionId
  params : ds.params = [] ∧ m.params = .null ∨
    ∃ n, ds.params = [n] ∧ n.IsValue (.text (depthLimit - 1)) m.params
  result : Node.Optional (Node.IsValue (.text (depthLimit - 1))) ds.result m.result
  error : Node.Optional RemoteError.StandsIn ds.error m.error

/-- The members that stand in a text. -/
def Members.StandIn (m : Members) (text : String) : Prop :=
  ∃ ds : Documents, ds.MakeUp text ∧ m.AreIn ds

/-- The fields of a frame. -/
def Members.fields : Fields [Option Nat, Option String, Option String, Value, Option Value,
    Option RemoteError] :=
  .cons (.optional "id" Decoder.u64) <|
    .cons (.optional "method" Decoder.string) <|
    .cons (.optional "sessionId" Decoder.string) <|
    .cons (.defaulted "params" Decoder.any .null) <|
    .cons (.optional "result" Decoder.any) <|
    .cons (.optional "error" RemoteError.decoder) .nil

theorem Members.skips_fields : fields.Skips :=
  ⟨(Decoder.skips_natural _ _).nullable, Decoder.skips_string.nullable,
    Decoder.skips_string.nullable, Decoder.skips_any, Decoder.skips_any.nullable,
    RemoteError.skips_decoder.nullable, trivial⟩

theorem Members.take_fields_iff {ds : Documents} {m : Members} :
    fields.Take (.text (depthLimit - 1))
        [ds.id, ds.method, ds.sessionId, ds.params, ds.result, ds.error]
        (m.id, m.method, m.sessionId, m.params, m.result, m.error, ()) ↔ m.AreIn ds := by
  have hid : (Field.optional "id" Decoder.u64).Takes (.text (depthLimit - 1)) ds.id m.id ↔ _ :=
    (Field.takes_optional_iff (Decoder.skips_natural _ _)).trans
      (Node.optional_congr Decoder.natural_eq_ok_iff)
  have htext (name : String) (ns : List Node) (o : Option String) :
      (Field.optional name Decoder.string).Takes (.text (depthLimit - 1)) ns o ↔ _ :=
    (Field.takes_optional_iff Decoder.skips_string).trans
      (Node.optional_congr Decoder.string_eq_ok_iff)
  have hparams : (Field.defaulted "params" Decoder.any .null).Takes (.text (depthLimit - 1))
        ds.params m.params ↔
      ds.params = [] ∧ m.params = .null ∨
        ∃ n, ds.params = [n] ∧ n.IsValue (.text (depthLimit - 1)) m.params := by
    rw [Field.takes_iff]
    simp only [Field.defaulted, Decoder.any_eq_ok_iff, Option.some.injEq, eq_comm (b := m.params)]
  have hresult : (Field.optional "result" Decoder.any).Takes (.text (depthLimit - 1))
      ds.result m.result ↔ _ :=
    (Field.takes_optional_iff Decoder.skips_any).trans (Node.optional_congr Decoder.any_eq_ok_iff)
  have henter : (Source.text (depthLimit - 1)).enter = .ok (.text (depthLimit - 2)) := rfl
  have herror : (Field.optional "error" RemoteError.decoder).Takes (.text (depthLimit - 1))
      ds.error m.error ↔ _ :=
    (Field.takes_optional_iff RemoteError.skips_decoder).trans
      (Node.optional_congr (RemoteError.decoder_eq_ok_iff henter))
  constructor
  · rintro ⟨h₁, h₂, h₃, h₄, h₅, h₆, -⟩
    exact ⟨hid.1 h₁, (htext _ _ _).1 h₂, (htext _ _ _).1 h₃, hparams.1 h₄, hresult.1 h₅,
      herror.1 h₆⟩
  · intro h
    exact ⟨hid.2 h.id, (htext _ _ _).2 h.method, (htext _ _ _).2 h.sessionId, hparams.2 h.params,
      hresult.2 h.result, herror.2 h.error, trivial⟩

theorem Members.decoder_eq_ok_iff {n : Node} {m : Members} :
    decoder (.text depthLimit) n = .ok m ↔
      ∃ ds : Documents, n.Parts fields.names
        [ds.id, ds.method, ds.sessionId, ds.params, ds.result, ds.error] ∧ m.AreIn ds := by
  have hrecord : decoder (.text depthLimit) n = .ok m ↔ _ :=
    Decoder.record_eq_ok_iff Source.enter_limit (by decide) skips_fields rfl
  rw [hrecord]
  constructor
  · rintro ⟨parts, ⟨id, method, sessionId, params, result, error, ⟨⟩⟩, hparts, htake, rfl⟩
    obtain ⟨ids, parts, rfl, hid, htake⟩ := Fields.exists_of_take_cons htake
    obtain ⟨methods, parts, rfl, hmethod, htake⟩ := Fields.exists_of_take_cons htake
    obtain ⟨sessionIds, parts, rfl, hsessionId, htake⟩ := Fields.exists_of_take_cons htake
    obtain ⟨paramss, parts, rfl, hparams, htake⟩ := Fields.exists_of_take_cons htake
    obtain ⟨results, parts, rfl, hresult, htake⟩ := Fields.exists_of_take_cons htake
    obtain ⟨errors, parts, rfl, herror, htake⟩ := Fields.exists_of_take_cons htake
    obtain rfl := Fields.eq_nil_of_take htake
    exact ⟨⟨ids, methods, sessionIds, paramss, results, errors⟩, hparts,
      take_fields_iff.1 ⟨hid, hmethod, hsessionId, hparams, hresult, herror, trivial⟩⟩
  · rintro ⟨ds, hparts, hm⟩
    exact ⟨_, _, hparts, take_fields_iff.2 hm, rfl⟩

theorem Members.decodeText_eq_ok_iff {text : String} {m : Members} :
    decoder.decodeText text = .ok m ↔ m.StandIn text := by
  simp only [Decoder.decodeText_eq_ok_iff, decoder_eq_ok_iff, StandIn, Documents.MakeUp]
  constructor
  · rintro ⟨n, htext, ds, hparts, hm⟩
    exact ⟨ds, ⟨n, htext, hparts⟩, hm⟩
  · rintro ⟨ds, ⟨n, htext, hparts⟩, hm⟩
    exact ⟨n, htext, ds, hparts, hm⟩

/-- The text is the answer with this content to the command with a number: an error if it has one,
else its result. -/
inductive Answers (text : String) (id : Nat) : Except RemoteError Value → Prop
  | refused {m : Members} {e : RemoteError} (hm : m.StandIn text) (hid : m.id = some id)
    (herror : m.error = some e) : Answers text id (.error e)
  | fulfilled {m : Members} (hm : m.StandIn text) (hid : m.id = some id) (herror : m.error = none) :
    Answers text id (.ok (m.result.getD .null))

/-- The text is an event: it has a name and no number. -/
inductive Announces (text : String) : DevToolsEvent → Prop
  | mk {m : Members} {method : String} (hm : m.StandIn text) (hid : m.id = none)
    (hmethod : m.method = some method) : Announces text ⟨method, m.sessionId, m.params⟩

theorem ofText_eq_ok_iff {text : String} {inbound : Inbound} :
    ofText text = .ok inbound ↔ ∃ m : Members, m.StandIn text ∧ ofMembers m = .ok inbound := by
  simp only [ofText, Node.bind_eq_ok, ← Members.decodeText_eq_ok_iff]
  cases Members.decoder.decodeText text <;> simp [Except.mapError]

theorem ofText_eq_response_iff {text : String} {id : Nat} {x : Except RemoteError Value} :
    ofText text = .ok (.response id x) ↔ Answers text id x := by
  rw [ofText_eq_ok_iff]
  constructor
  · rintro ⟨m, hm, h⟩
    unfold ofMembers at h
    split at h
    · next hid =>
      split at h
      · next herror =>
        cases h
        exact .refused hm hid herror
      · next herror =>
        cases h
        exact .fulfilled hm hid herror
    · cases h
    · cases h
  · rintro (⟨hm, hid, herror⟩ | ⟨hm, hid, herror⟩)
    all_goals exact ⟨_, hm, by simp only [ofMembers, hid, herror]⟩

theorem ofText_eq_event_iff {text : String} {e : DevToolsEvent} :
    ofText text = .ok (.event e) ↔ Announces text e := by
  rw [ofText_eq_ok_iff]
  constructor
  · rintro ⟨m, hm, h⟩
    unfold ofMembers at h
    split at h
    · cases h
    · next hid hmethod =>
      cases h
      exact .mk hm hid hmethod
    · cases h
  · rintro ⟨hm, hid, hmethod⟩
    exact ⟨_, hm, by simp only [ofMembers, hid, hmethod]⟩

end Inbound

/-- The text tells to do this, under that number. -/
def Command.StandsIn (c : Command) (id : Nat) (frame : String) : Prop :=
  ∃ members, Node.ofText frame = (.ofValue (.object members), false) ∧
    valuesOf "id" members = [.ofNat id] ∧ valuesOf "method" members = [.string c.method] ∧
    valuesOf "params" members = [c.params] ∧
    valuesOf "sessionId" members = (c.sessionId.map Value.string).toList

theorem Command.standsIn_frame {c : Command} {id : Nat} (hid : id < 2 ^ 64)
    (hparams : c.params.Legible) : c.StandsIn id (c.frame id) := by
  refine ⟨_, Node.ofText_compact ?_, ?_⟩
  · simp only [Value.legible_object, List.forall_mem_append, Value.forall_mem_presentMember]
    simp [Value.legible_ofNat hid, hparams]
  · cases c.sessionId <;> simp [valuesOf, presentMember]

end PageScan
