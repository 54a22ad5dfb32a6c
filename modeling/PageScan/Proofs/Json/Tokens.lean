import PageScan.Json.Token
import PageScan.Proofs.Json.Values

/-!
# The tokens of what is written

Both forms of a value, compact and indented, are cut into the same tokens.

* `scan_literal`: a text is read out of the literal that is written for it.
* `tokens_compactOnto`, `tokens_indentedOnto`: the two forms, in front of any text at which a number
  literal ends.
-/

namespace PageScan.Json

/-! ## String literals -/

namespace Literal

/-- The characters that are written as themselves are read as themselves. -/
theorem scan_cons {c : Char} (hquote : c ≠ '"') (hslash : c ≠ '\\') (hcontrol : ¬c.toNat < 0x20)
    (cs : List Char) : scan (c :: cs) = (scan cs).cons (.char c) := by
  rw [scan]
  · rw [if_neg hcontrol]
  all_goals simp_all

theorem hexNumber?_control {n : Nat} (h : n < 0x20) :
    Text.hexNumber? ['0', '0', Text.hexDigit (n / 16), Text.hexDigit (n % 16)] = some n := by
  interval_cases n <;> rfl

/-- What is written for a character is one piece of a literal, which stands for that character. -/
theorem exists_piece (c : Char) :
    ∃ p, (∀ cs, scan (escapedChar c ++ cs) = (scan cs).cons p) ∧
      ∀ ps, textFrom none none (p :: ps) = (textFrom none none ps).map (c :: ·) := by
  unfold escapedChar
  split
  all_goals try exact ⟨.char _, fun _ => rfl, fun _ => rfl⟩
  next hquote hslash _ _ _ _ _ =>
    split
    · next hcontrol =>
      refine ⟨.unit c.toNat, fun cs => ?_, fun ps => ?_⟩
      · simp [scan, hexNumber?_control hcontrol]
      · have htrailing : isTrailing c.toNat = false := by
          simp only [isTrailing]
          grind
        have hleading : isLeading c.toNat = false := by
          simp only [isLeading]
          grind
        simp [textFrom, htrailing, hleading, Char.ofNat_toNat]
    · next hcontrol =>
      exact ⟨.char c, fun cs => scan_cons hquote hslash hcontrol cs, fun _ => rfl⟩

theorem scan_literal (cs after : List Char) :
    ∃ ps, scan (cs.flatMap escapedChar ++ '"' :: after) = ⟨ps, .ok after⟩ ∧
      textFrom none none ps = .ok cs := by
  induction cs with
  | nil => exact ⟨[], rfl, rfl⟩
  | cons c cs ih =>
    obtain ⟨ps, hscan, htext⟩ := ih
    obtain ⟨p, hp, hps⟩ := exists_piece c
    refine ⟨p :: ps, ?_, ?_⟩
    · rw [List.flatMap_cons, List.append_assoc, hp, hscan]
      rfl
    · rw [hps, htext]
      rfl

end Literal

/-! ## Single tokens -/

theorem tokens_of_next {c : Char} {cs rest : List Char} {t : Token} (hspace : isSpace c = false)
    (h : Token.next c cs = (t, some rest)) : tokens (c :: cs) = t :: tokens rest := by
  rw [tokens, if_neg (by simp [hspace])]
  split
  · next heq =>
    rw [h] at heq
    cases heq
    rfl
  · next heq =>
    rw [h] at heq
    cases heq

theorem tokens_space {c : Char} (hspace : isSpace c = true) (cs : List Char) :
    tokens (c :: cs) = tokens cs := by
  rw [tokens, if_pos hspace]

theorem tokens_newLine (depth : Nat) (cs : List Char) :
    tokens (Value.newLine depth ++ cs) = tokens cs := by
  have hspaces (n : Nat) : tokens (List.replicate n ' ' ++ cs) = tokens cs := by
    induction n with
    | zero => rfl
    | succ n ih =>
      rw [List.replicate_succ, List.cons_append, tokens_space rfl, ih]
  rw [Value.newLine, List.cons_append, tokens_space rfl, hspaces]

theorem Token.word_append (what : Attempt) (scalar : Scalar) (word after : List Char) :
    Token.word what word scalar (word ++ after) = (.scalar scalar, some after) := by
  induction word with
  | nil => cases after <;> rfl
  | cons c cs ih => rw [List.cons_append, Token.word, if_pos rfl, ih]

theorem tokens_null (after : List Char) :
    tokens ("null".toList ++ after) = .scalar .null :: tokens after :=
  tokens_of_next rfl (Token.word_append .null .null ['u', 'l', 'l'] after)

theorem tokens_bool (b : Bool) (after : List Char) :
    tokens ((if b then "true" else "false").toList ++ after) =
      .scalar (.bool b) :: tokens after := by
  cases b
  · exact tokens_of_next rfl (Token.word_append .other (.bool false) ['a', 'l', 's', 'e'] after)
  · exact tokens_of_next rfl (Token.word_append .other (.bool true) ['r', 'u', 'e'] after)

theorem tokens_literalChars (s : String) (after : List Char) :
    tokens (literalChars s ++ after) = .scalar (.string (.ok s)) :: tokens after := by
  obtain ⟨ps, hscan, htext⟩ := Literal.scan_literal s.toList after
  rw [literalChars, List.cons_append, List.cons_append, List.append_assoc, List.singleton_append]
  refine tokens_of_next rfl ?_
  rw [Token.next, hscan]
  simp [Token.ofLiteral, Literal.text, htext, Except.map]

theorem tokens_number {n : Number} (h : n.ReadsBack) {after : List Char}
    (hafter : Delimited after) :
    tokens (n.chars ++ after) = .scalar (.number (.ok n)) :: tokens after := by
  obtain ⟨l, hscan, hvalue⟩ := h
  obtain ⟨c, tail, hchars, hc⟩ := Numeral.exists_of_scan hscan
  have hscan := Numeral.scan_append hafter hscan
  rw [hchars, List.cons_append] at hscan ⊢
  have hspace : isSpace c = false := by
    by_contra hspace
    simp only [Bool.not_eq_false, isSpace, Bool.or_eq_true, decide_eq_true_eq] at hspace
    rcases hspace with ((rfl | rfl) | rfl) | rfl <;> exact absurd hc (by decide)
  refine tokens_of_next hspace ?_
  unfold Token.next
  split
  case h_11 =>
    rw [if_pos (by simpa using hc), hscan]
    dsimp only
    rw [hvalue, List.nil_append]
  all_goals exact absurd hc (by decide)

/-! ## Values -/

namespace Value

mutual

/-- The tokens of a value. -/
def tokens : Value → List Token
  | .null => [.scalar .null]
  | .bool b => [.scalar (.bool b)]
  | .number n => [.scalar (.number (.ok n))]
  | .string s => [.scalar (.string (.ok s))]
  | .array [] => [.arrayOpen, .arrayClose]
  | .object [] => [.objectOpen, .objectClose]
  | .array (v :: vs) => .arrayOpen :: v.tokens ++ furtherItems vs ++ [.arrayClose]
  | .object ((k, v) :: ms) =>
    .objectOpen :: .scalar (.string (.ok k)) :: .colon :: v.tokens ++ furtherMembers ms ++
      [.objectClose]

/-- The tokens of the items behind the first. -/
def furtherItems : List Value → List Token
  | [] => []
  | v :: vs => .comma :: v.tokens ++ furtherItems vs

/-- The tokens of the members behind the first. -/
def furtherMembers : List (String × Value) → List Token
  | [] => []
  | (k, v) :: ms =>
    .comma :: .scalar (.string (.ok k)) :: .colon :: v.tokens ++ furtherMembers ms

end

/-- Whatever a form puts in front of it, a value starts as its tokens. -/
def WrittenAs (onto : List Char → List Char) (v : Value) : Prop :=
  ∀ after, Delimited after → Json.tokens (onto after) = v.tokens ++ Json.tokens after

section Compact

theorem tokens_itemsOnto {after : List Char} (hafter : Delimited after) (v : Value)
    (vs : List Value) (hv : ∀ w ∈ v :: vs, w.WrittenAs fun after => w.compactOnto after) :
    Json.tokens (itemsOnto after (v :: vs)) =
      v.tokens ++ (furtherItems vs ++ Json.tokens after) := by
  induction vs generalizing v with
  | nil => exact hv v List.mem_cons_self after hafter
  | cons w vs ih =>
    obtain ⟨hv, hvs⟩ := List.forall_mem_cons.1 hv
    rw [itemsOnto, hv _ (by simp; decide), furtherItems,
      tokens_of_next (t := .comma) rfl rfl, ih w hvs]
    simp

theorem tokens_membersOnto {after : List Char} (hafter : Delimited after) (k : String) (v : Value)
    (ms : List (String × Value))
    (hv : ∀ m ∈ (k, v) :: ms, m.2.WrittenAs fun after => m.2.compactOnto after) :
    Json.tokens (membersOnto after ((k, v) :: ms)) =
      .scalar (.string (.ok k)) :: .colon ::
        (v.tokens ++ (furtherMembers ms ++ Json.tokens after)) := by
  induction ms generalizing k v with
  | nil =>
    rw [membersOnto, tokens_literalChars, tokens_of_next (t := .colon) rfl rfl]
    simpa [furtherMembers] using hv (k, v) List.mem_cons_self after hafter
  | cons m ms ih =>
    obtain ⟨hv, hms⟩ := List.forall_mem_cons.1 hv
    rw [membersOnto, tokens_literalChars, tokens_of_next (t := .colon) rfl rfl,
      hv _ (by simp; decide), furtherMembers, tokens_of_next (t := .comma) rfl rfl,
      ih m.1 m.2 hms]
    simp

theorem tokens_compactOnto {v : Value} (h : v.Legible) :
    v.WrittenAs fun after => v.compactOnto after := by
  induction v using Value.induction with
  | null => exact fun after _ => tokens_null after
  | bool b => exact fun after _ => tokens_bool b after
  | number n => exact fun after hafter => tokens_number (legible_number.1 h) hafter
  | string s => exact fun after _ => tokens_literalChars s after
  | array items ih =>
    intro after _
    have hitems := legible_array.1 h
    dsimp only
    rw [compactOnto, tokens_of_next (t := .arrayOpen) rfl rfl]
    cases items with
    | nil =>
      rw [itemsOnto, tokens_of_next (t := .arrayClose) rfl rfl]
      rfl
    | cons v vs =>
      rw [tokens_itemsOnto (by simp; decide) v vs fun w hw => ih w hw (hitems w hw),
        tokens_of_next (t := .arrayClose) rfl rfl]
      simp [tokens]
  | object members ih =>
    intro after _
    have hmembers := legible_object.1 h
    dsimp only
    rw [compactOnto, tokens_of_next (t := .objectOpen) rfl rfl]
    cases members with
    | nil =>
      rw [membersOnto, tokens_of_next (t := .objectClose) rfl rfl]
      rfl
    | cons m ms =>
      rw [tokens_membersOnto (by simp; decide) m.1 m.2 ms fun m hm => ih m hm (hmembers m hm),
        tokens_of_next (t := .objectClose) rfl rfl]
      simp [tokens]

end Compact

section Indented

theorem delimited_newLine (depth : Nat) (after : List Char) : Delimited (newLine depth ++ after) := by
  rw [newLine, List.cons_append, delimited_cons]
  decide

theorem delimited_indentedItems {after : List Char} (hafter : Delimited after) (depth : Nat)
    (vs : List Value) : Delimited (indentedItems depth after vs) := by
  cases vs with
  | nil => exact hafter
  | cons v vs =>
    rw [indentedItems, List.cons_append, delimited_cons]
    decide

theorem delimited_indentedMembers {after : List Char} (hafter : Delimited after) (depth : Nat)
    (ms : List (String × Value)) : Delimited (indentedMembers depth after ms) := by
  cases ms with
  | nil => exact hafter
  | cons m ms =>
    rw [indentedMembers, List.cons_append, List.cons_append, delimited_cons]
    decide

variable {after : List Char} (depth : Nat)

theorem tokens_indentedItems (hafter : Delimited after) (vs : List Value)
    (hv : ∀ w ∈ vs, ∀ depth, w.WrittenAs fun after => w.indentedOnto depth after) :
    Json.tokens (indentedItems depth after vs) = furtherItems vs ++ Json.tokens after := by
  induction vs with
  | nil => rfl
  | cons v vs ih =>
    obtain ⟨hv, hvs⟩ := List.forall_mem_cons.1 hv
    rw [indentedItems, List.cons_append, tokens_of_next (t := .comma) rfl rfl, tokens_newLine,
      hv depth _ (delimited_indentedItems hafter depth vs), ih hvs]
    simp [furtherItems]

theorem tokens_indentedMembers (hafter : Delimited after) (ms : List (String × Value))
    (hv : ∀ m ∈ ms, ∀ depth, m.2.WrittenAs fun after => m.2.indentedOnto depth after) :
    Json.tokens (indentedMembers depth after ms) = furtherMembers ms ++ Json.tokens after := by
  induction ms with
  | nil => rfl
  | cons m ms ih =>
    obtain ⟨hv, hms⟩ := List.forall_mem_cons.1 hv
    rw [indentedMembers, List.cons_append, List.cons_append, List.append_assoc,
      tokens_of_next (t := .comma) rfl rfl, tokens_newLine, tokens_literalChars,
      tokens_of_next (t := .colon) rfl rfl, tokens_space rfl,
      hv depth _ (delimited_indentedMembers hafter depth ms), ih hms]
    simp [furtherMembers]

theorem tokens_indentedOnto {v : Value} (h : v.Legible) :
    v.WrittenAs fun after => v.indentedOnto depth after := by
  induction v using Value.induction generalizing depth with
  | null => exact fun after _ => tokens_null after
  | bool b => exact fun after _ => tokens_bool b after
  | number n => exact fun after hafter => tokens_number (legible_number.1 h) hafter
  | string s => exact fun after _ => tokens_literalChars s after
  | array items ih =>
    intro after _
    have hitems := legible_array.1 h
    cases items with
    | nil =>
      dsimp only
      rw [indentedOnto, tokens_of_next (t := .arrayOpen) rfl rfl,
        tokens_of_next (t := .arrayClose) rfl rfl]
      rfl
    | cons v vs =>
      obtain ⟨hv, hvs⟩ := List.forall_mem_cons.1 fun w hw depth => ih w hw depth (hitems w hw)
      have hclose := delimited_newLine depth (']' :: after)
      dsimp only
      rw [indentedOnto, List.cons_append, tokens_of_next (t := .arrayOpen) rfl rfl, tokens_newLine,
        hv _ _ (delimited_indentedItems hclose _ vs), tokens_indentedItems _ hclose vs hvs,
        tokens_newLine, tokens_of_next (t := .arrayClose) rfl rfl]
      simp [tokens]
  | object members ih =>
    intro after _
    have hmembers := legible_object.1 h
    cases members with
    | nil =>
      dsimp only
      rw [indentedOnto, tokens_of_next (t := .objectOpen) rfl rfl,
        tokens_of_next (t := .objectClose) rfl rfl]
      rfl
    | cons m ms =>
      obtain ⟨hv, hms⟩ := List.forall_mem_cons.1 fun m hm depth => ih m hm depth (hmembers m hm)
      have hclose := delimited_newLine depth ('\x7d' :: after)
      dsimp only
      rw [indentedOnto, List.cons_append, List.cons_append, List.append_assoc,
        tokens_of_next (t := .objectOpen) rfl rfl, tokens_newLine, tokens_literalChars,
        tokens_of_next (t := .colon) rfl rfl, tokens_space rfl,
        hv _ _ (delimited_indentedMembers hclose _ ms), tokens_indentedMembers _ hclose ms hms,
        tokens_newLine, tokens_of_next (t := .objectClose) rfl rfl]
      simp [tokens]

end Indented

theorem tokens_compact {v : Value} (h : v.Legible) : Json.tokens v.compact.toList = v.tokens := by
  rw [compact, String.toList_ofList, tokens_compactOnto h [] delimited_nil, Json.tokens,
    List.append_nil]

theorem tokens_indented {v : Value} (h : v.Legible) :
    Json.tokens v.indented.toList = v.tokens := by
  rw [indented, String.toList_ofList, tokens_indentedOnto 0 h [] delimited_nil, Json.tokens,
    List.append_nil]

end Value

end PageScan.Json
