import PageScan.Browser.Dialogue
import PageScan.Proofs.Json.Tokens
import PageScan.Proofs.Text.Find
import PageScan.Simulated.Page

/-!
# Texts in scripts

A selector and a style sheet stand in their scripts as string literals. Whatever they are, they
stay inside: what stands around the literal is the same for all of them, and whoever looks for the
literal and reads it gets the text.

* `Inert`: no character ends a literal early. `Quotes`: the literal of a text.
* `tagOf?_text`: each script is known by its name.
* `resolve_sealed`: selectors and style sheets stay in their literals and are read back.
-/

namespace PageScan

/-! ## Quoted texts -/

namespace Json

/-- None of the characters is a control character, and a quote among them, like a backslash, stands
only behind a backslash that takes it. -/
inductive Inert : List Char → Prop
  | nil : Inert []
  | plain {c : Char} {cs : List Char} (hquote : c ≠ '"') (hslash : c ≠ '\\')
    (hcontrol : 0x20 ≤ c.toNat) (h : Inert cs) : Inert (c :: cs)
  | escaped {c : Char} {cs : List Char} (hcontrol : 0x20 ≤ c.toNat) (h : Inert cs) :
    Inert ('\\' :: c :: cs)

/-- The characters stand for the text between the quotes of a literal: they do not end it, and
whatever comes behind the closing quote, a reader of the literal stops there with the text. -/
structure Quotes (inner : List Char) (text : String) : Prop where
  inert : Inert inner
  ends (after : List Char) : (Literal.scan (inner ++ '"' :: after)).outcome = .ok after
  reads (after : List Char) : leadingText? ('"' :: (inner ++ '"' :: after)) = some text

theorem inert_hexDigit {n : Nat} {cs : List Char} (hn : n < 16) (h : Inert cs) :
    Inert (Text.hexDigit n :: cs) := by
  interval_cases n <;> exact .plain (by decide) (by decide) (by decide) h

theorem inert_escapedChar (c : Char) {cs : List Char} (h : Inert cs) :
    Inert (escapedChar c ++ cs) := by
  unfold escapedChar
  split
  all_goals try exact .escaped (by decide) h
  next hquote hslash _ _ _ _ _ =>
    split
    · next hcontrol =>
      refine .escaped (by decide) (.plain (by decide) (by decide) (by decide) ?_)
      refine .plain (by decide) (by decide) (by decide) (inert_hexDigit (by omega) ?_)
      exact inert_hexDigit (Nat.mod_lt _ (by decide)) h
    · next hcontrol => exact .plain hquote hslash (Nat.le_of_not_lt hcontrol) h

theorem inert_flatMap_escapedChar (cs : List Char) : Inert (cs.flatMap escapedChar) := by
  induction cs with
  | nil => exact .nil
  | cons c cs ih => exact inert_escapedChar c ih

theorem quotes_escaped (s : String) : Quotes (s.toList.flatMap escapedChar) s where
  inert := inert_flatMap_escapedChar s.toList
  ends after := by
    obtain ⟨ps, hscan, -⟩ := Literal.scan_literal s.toList after
    rw [hscan]
  reads after := by
    obtain ⟨ps, hscan, htext⟩ := Literal.scan_literal s.toList after
    have hread : leadingText? ('"' :: (s.toList.flatMap escapedChar ++ '"' :: after)) =
        (Literal.scan (s.toList.flatMap escapedChar ++ '"' :: after)).text.toOption := rfl
    rw [hread, hscan, Literal.text, htext]
    exact congrArg some String.ofList_toList

end Json

/-! ## Scripts -/

namespace Script

theorem toList_text (s : Script) :
    s.text.toList =
      tagLead.toList ++ (s.tag.toList ++ (tagEnd.toList ++ (' ' :: s.body.toList))) := by
  rw [text]
  simp only [String.toList_append, List.append_assoc]
  rfl

/-- Each script is known by its name, whatever stands in it. -/
theorem tagOf?_text (s : Script) : tagOf? s.text = some s.tag := by
  have htrim (rest : List Char) : Text.trimLeft (tagLead.toList ++ rest) = tagLead.toList ++ rest :=
    rfl
  have hstar : '*' ∉ s.tag.toList := by
    cases s <;> simp [tag]
  have hend : Text.splitOnce? tagEnd.toList
      (s.tag.toList ++ (tagEnd.toList ++ (' ' :: s.body.toList))) =
        some (s.tag.toList, ' ' :: s.body.toList) := Text.splitOnce?_of_not_mem hstar _
  rw [tagOf?, toList_text, htrim, Text.stripLead?_eq_some_iff.2 rfl]
  show (Text.splitOnce? tagEnd.toList _).bind _ = _
  rw [hend]
  exact congrArg some String.ofList_toList

theorem toList_resolve (selector : String) :
    (resolve selector).text.toList =
      "/*uxa:resolve*/ (() => \x7b ".toList ++ (selectorLead.toList ++
        '"' :: (selector.toList.flatMap Json.escapedChar ++ '"' :: selectorTail.toList)) := by
  have hstart : "/*uxa:resolve*/ (() => \x7b ".toList = tagLead.toList ++
      ("resolve".toList ++ (tagEnd.toList ++ ' ' :: "(() => \x7b ".toList)) := rfl
  have hbody : (resolve selector).body =
      "(() => \x7b " ++ selectorLead ++ Json.literal selector ++ selectorTail := rfl
  rw [toList_text, tag, hbody, hstart]
  simp only [String.toList_append, List.append_assoc, Json.literal, String.toList_ofList,
    Json.literalChars, List.cons_append, List.nil_append]

theorem toList_styleScript (css : String) :
    (styleScript css).toList = styleLead.toList ++
      '"' :: (css.toList.flatMap Json.escapedChar ++ '"' :: styleTail.toList) := by
  simp only [styleScript, String.toList_append, List.append_assoc, Json.literal,
    String.toList_ofList, Json.literalChars, List.cons_append, List.nil_append]

theorem splitOnce?_resolve (selector : String) :
    Text.splitOnce? selectorLead.toList (resolve selector).text.toList =
      some ("/*uxa:resolve*/ (() => \x7b ".toList,
        '"' :: (selector.toList.flatMap Json.escapedChar ++ '"' :: selectorTail.toList)) := by
  rw [toList_resolve]
  exact Text.splitOnce?_of_not_mem (by decide) _

theorem selectorOf?_resolve (selector : String) :
    selectorOf? (resolve selector).text = some selector := by
  rw [selectorOf?, splitOnce?_resolve]
  exact (Json.quotes_escaped selector).reads _

/-- A selector stays in its literal, which is the first to stand where a selector is named, and is
read back out of it; what stands around the literal is the same for all selectors. So it is with
style sheets. -/
theorem resolve_sealed :
    (∀ selector, ∃ inner, Json.Quotes inner selector ∧
      tagOf? (resolve selector).text = some "resolve" ∧
      Text.splitOnce? selectorLead.toList (resolve selector).text.toList =
        some ("/*uxa:resolve*/ (() => \x7b ".toList,
          '"' :: (inner ++ '"' :: selectorTail.toList)) ∧
      selectorOf? (resolve selector).text = some selector) ∧
    ∀ css, ∃ inner, Json.Quotes inner css ∧
      (styleScript css).toList = styleLead.toList ++ '"' :: (inner ++ '"' :: styleTail.toList) :=
  ⟨fun selector => ⟨_, Json.quotes_escaped selector, tagOf?_text _, splitOnce?_resolve selector,
    selectorOf?_resolve selector⟩, fun css => ⟨_, Json.quotes_escaped css, toList_styleScript css⟩⟩

end Script

/-- The simulated page looks up the selector itself. -/
theorem SimulatedPage.box_text (p : SimulatedPage) (selector : String) :
    p.box (Script.resolve selector).text =
      match p.elements.lookup selector with
      | some g =>
        .object
          [("height", .ofFloat g.height), ("left", .ofFloat (g.left + p.scrollX)),
            ("top", .ofFloat (g.top + p.scrollY)), ("width", .ofFloat g.width)]
      | none => .null := by
  rw [box, Script.selectorOf?_resolve]
  rfl

end PageScan
