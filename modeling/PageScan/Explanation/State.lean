import PageScan.Json.Choice

/-!
# Explanations of findings

A finding can be explained in plain words on request. An `ExplanationKey` says which finding, an
`ExplanationState` how far its explanation has come.
-/

namespace PageScan

/-- A finding that can be explained. -/
inductive ExplanationKey
  | violation (id : String)
  | auditItem (id : String)
  deriving DecidableEq

/-- How far an explanation has come. -/
inductive ExplanationState
  | unrequested
  | pending
  | resolved (text : String)
  | failed (text : String)
  deriving DecidableEq

namespace ExplanationKey

/-- Reads a key. -/
def decoder : Json.Decoder ExplanationKey :=
  .labelled "ExplanationKey" "kind" "id"
    [.holding "violation" .string .violation, .holding "audit_item" .string .auditItem]

/-- The key as a document. -/
def toJson : ExplanationKey → Json.Value
  | .violation id => .object [("kind", .string "violation"), ("id", .string id)]
  | .auditItem id => .object [("kind", .string "audit_item"), ("id", .string id)]

instance : Json.Document ExplanationKey := ⟨decoder, toJson⟩

end ExplanationKey

namespace ExplanationState

/-- Reads a state. -/
def decoder : Json.Decoder ExplanationState :=
  .labelled "ExplanationState" "state" "text"
    [{ name := "unrequested", payload := .nothing .unrequested, title := "Unrequested" },
      { name := "pending", payload := .nothing .pending, title := "Pending" },
      .holding "resolved" .string .resolved, .holding "failed" .string .failed]

/-- The state as a document. -/
def toJson : ExplanationState → Json.Value
  | .unrequested => .object [("state", .string "unrequested")]
  | .pending => .object [("state", .string "pending")]
  | .resolved text => .object [("state", .string "resolved"), ("text", .string text)]
  | .failed text => .object [("state", .string "failed"), ("text", .string text)]

/-- What a reader sees of an explanation that could not be had. -/
def unavailable : String := "Explanation unavailable."

instance : Json.Document ExplanationState := ⟨decoder, toJson⟩

end ExplanationState

end PageScan
