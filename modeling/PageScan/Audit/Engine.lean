import PageScan.Config
import PageScan.Text.Utf8

/-!
# The rule engine

The script that audits a page, and the styles that mark what it finds.
-/

namespace PageScan

/-- The source of the rule engine, which is injected into each page. -/
structure RuleEngine where
  source : String
  deriving DecidableEq

namespace RuleEngine

/-- The engine in a file. `content` is what the file system answers: the bytes of the file or the
reason why there are none. -/
def ofFile (path : String) (content : Except String (List UInt8)) :
    Except ConfigError RuleEngine :=
  match content with
  | .error reason => .error (.io path reason)
  | .ok bytes =>
    match Text.ofUtf8? bytes with
    | none => .error (.io path "stream did not contain valid UTF-8")
    | some source =>
      if Text.isBlankText source then
        .error (.invalid ("rule engine source " ++ path ++ " is empty"))
      else .ok ⟨source⟩

/-- What is shown of an engine where its source would be in the way. -/
def outline (e : RuleEngine) : String :=
  "AccessibilityEngine \x7b source_len: " ++ toString (Text.utf8 e.source).length ++ " \x7d"

end RuleEngine

/-- The styles that mark the elements of violations. -/
def highlightStyles : String :=
  let tier (name outline fill : String) : String :=
    ".violation-highlight-" ++ name ++ " \x7b outline-color: " ++ outline ++
      " !important; background-color: rgba(" ++ fill ++ ", 0.15) !important; \x7d\n"
  "\n.violation-highlight \x7b outline: 3px solid #dc2626 !important; " ++
    "outline-offset: 2px !important; \x7d\n" ++
    tier "critical" "#dc2626" "220, 38, 38" ++
    tier "serious" "#f59e0b" "245, 158, 11" ++
    tier "moderate" "#3498db" "52, 152, 219" ++
    tier "minor" "#64748b" "100, 116, 139"

end PageScan
