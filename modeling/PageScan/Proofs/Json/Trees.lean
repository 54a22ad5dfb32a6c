import PageScan.Json.Decoder
import PageScan.Proofs.Json.Tokens

/-!
# The tree of what is written

* `run_tokens`: the reading machine makes of the tokens of a value the tree of the value, whatever
  surrounds it.
* `ofText_compact`, `ofText_indented`: hence both forms of a value are read as its tree.
* `all_run`, `all_ofText`: the machine invents no scalar.
-/

namespace PageScan.Json

namespace Node

/-! ## What is written -/

/-- Induction over documents: of arrays and objects with the claim for what they hold. -/
theorem induction {P : Node → Prop} (scalar : ∀ s, P (.scalar s))
    (array : ∀ items stop, (∀ n ∈ items, P n) → P (.array items stop))
    (object : ∀ members stop, (∀ m ∈ members, P m.2) → P (.object members stop))
    (broken : ∀ what strict lenient, P (.broken what strict lenient)) (n : Node) : P n :=
  Node.rec (motive_1 := P) (motive_2 := fun items => ∀ n ∈ items, P n)
    (motive_3 := fun members => ∀ m ∈ members, P m.2) (motive_4 := fun m => P m.2)
    scalar array object broken (by simp)
    (fun _ _ hn hns => List.forall_mem_cons.2 ⟨hn, hns⟩) (by simp)
    (fun _ _ hm hms => List.forall_mem_cons.2 ⟨hm, hms⟩) (fun _ _ hn => hn) n

theorem ofItems_eq_map (items : List Value) : ofItems items = items.map ofValue := by
  induction items with
  | nil => rfl
  | cons v vs ih => rw [ofItems, ih, List.map_cons]

theorem ofMembers_eq_map (members : List (String × Value)) :
    ofMembers members = members.map fun m => (.ok m.1, ofValue m.2) := by
  induction members with
  | nil => rfl
  | cons m ms ih => rw [ofMembers, ih, List.map_cons]

/-- The tokens of a value are read as its tree, wherever a value has to come. -/
def IsRead (v : Value) : Prop :=
  ∀ frames ts, run ⟨.value, frames⟩ (v.tokens ++ ts) = run ⟨.behind (ofValue v), frames⟩ ts

theorem run_of_step {s s' : State} {t : Token} (h : step s t = .inl s') (ts : List Token) :
    run s (t :: ts) = run s' ts := by
  rw [run, h]

/-- A value starts with a token that closes nothing. -/
theorem exists_token (v : Value) : ∃ t ts, v.tokens = t :: ts ∧ t ≠ .arrayClose := by
  cases v with
  | null | bool | number | string => exact ⟨_, _, rfl, nofun⟩
  | array items => cases items <;> exact ⟨_, _, rfl, nofun⟩
  | object members => cases members <;> exact ⟨_, _, rfl, nofun⟩

theorem run_firstItem (v : Value) (frames : List Frame) (ts : List Token) :
    run ⟨.firstItem, frames⟩ (v.tokens ++ ts) = run ⟨.value, .items [] :: frames⟩ (v.tokens ++ ts) := by
  obtain ⟨t, rest, heq, hclose⟩ := exists_token v
  have hstep : step ⟨.firstItem, frames⟩ t = step ⟨.value, .items [] :: frames⟩ t := by
    cases t <;> first | rfl | exact absurd rfl hclose
  rw [heq, List.cons_append, run, run, hstep]

theorem run_nextItem (v : Value) (frames : List Frame) (ts : List Token) :
    run ⟨.nextItem, frames⟩ (v.tokens ++ ts) = run ⟨.value, frames⟩ (v.tokens ++ ts) := by
  obtain ⟨t, rest, heq, hclose⟩ := exists_token v
  have hstep : step ⟨.nextItem, frames⟩ t = step ⟨.value, frames⟩ t := by
    cases t <;> first | rfl | exact absurd rfl hclose
  rw [heq, List.cons_append, run, run, hstep]

theorem run_furtherItems {vs : List Value} (hvs : ∀ v ∈ vs, IsRead v) (n : Node)
    (itemsRev : List Node) (frames : List Frame) (ts : List Token) :
    run ⟨.behind n, .items itemsRev :: frames⟩ (Value.furtherItems vs ++ .arrayClose :: ts) =
      run ⟨.behind (.array ((n :: itemsRev).reverse ++ vs.map ofValue) .closed), frames⟩ ts := by
  induction vs generalizing n itemsRev with
  | nil =>
    rw [List.map_nil, List.append_nil]
    exact run_of_step rfl ts
  | cons v vs ih =>
    obtain ⟨hv, hvs⟩ := List.forall_mem_cons.1 hvs
    have hcomma : step ⟨.behind n, .items itemsRev :: frames⟩ .comma =
      .inl ⟨.nextItem, .items (n :: itemsRev) :: frames⟩ := rfl
    simp only [Value.furtherItems, List.cons_append, List.append_assoc]
    rw [run_of_step hcomma, run_nextItem, hv, ih hvs]
    simp

theorem run_furtherMembers {ms : List (String × Value)} (hms : ∀ m ∈ ms, IsRead m.2) (key : Key)
    (n : Node) (membersRev : List (Key × Node)) (frames : List Frame) (ts : List Token) :
    run ⟨.behind n, .members membersRev key :: frames⟩
        (Value.furtherMembers ms ++ .objectClose :: ts) =
      run ⟨.behind (.object (((key, n) :: membersRev).reverse ++
        ms.map fun m => (.ok m.1, ofValue m.2)) .closed), frames⟩ ts := by
  induction ms generalizing key n membersRev with
  | nil =>
    rw [List.map_nil, List.append_nil]
    exact run_of_step rfl ts
  | cons m ms ih =>
    obtain ⟨hm, hms⟩ := List.forall_mem_cons.1 hms
    have hcomma : step ⟨.behind n, .members membersRev key :: frames⟩ .comma =
      .inl ⟨.nextKey ((key, n) :: membersRev), frames⟩ := rfl
    have hkey : step ⟨.nextKey ((key, n) :: membersRev), frames⟩ (.scalar (.string (.ok m.1))) =
      .inl ⟨.colon ((key, n) :: membersRev) (.ok m.1), frames⟩ := rfl
    have hcolon : step ⟨.colon ((key, n) :: membersRev) (.ok m.1), frames⟩ .colon =
      .inl ⟨.value, .members ((key, n) :: membersRev) (.ok m.1) :: frames⟩ := rfl
    simp only [Value.furtherMembers, List.cons_append, List.append_assoc]
    rw [run_of_step hcomma, run_of_step hkey, run_of_step hcolon, hm, ih hms]
    simp

theorem run_tokens (v : Value) : IsRead v := by
  induction v using Value.induction with
  | null | bool | number | string => exact fun frames ts => run_of_step rfl ts
  | array items ih =>
    intro frames ts
    have hopen : step ⟨.value, frames⟩ .arrayOpen = .inl ⟨.firstItem, frames⟩ := rfl
    cases items with
    | nil =>
      exact (run_of_step hopen _).trans (run_of_step rfl ts)
    | cons v vs =>
      obtain ⟨hv, hvs⟩ := List.forall_mem_cons.1 ih
      simp only [Value.tokens, List.cons_append, List.append_assoc, List.nil_append]
      rw [run_of_step hopen, run_firstItem, hv, run_furtherItems hvs, ofValue, ofItems_eq_map]
      rfl
  | object members ih =>
    intro frames ts
    have hopen : step ⟨.value, frames⟩ .objectOpen = .inl ⟨.firstKey, frames⟩ := rfl
    cases members with
    | nil =>
      exact (run_of_step hopen _).trans (run_of_step rfl ts)
    | cons m ms =>
      obtain ⟨hm, hms⟩ := List.forall_mem_cons.1 ih
      have hkey : step ⟨.firstKey, frames⟩ (.scalar (.string (.ok m.1))) =
        .inl ⟨.colon [] (.ok m.1), frames⟩ := rfl
      have hcolon : step ⟨.colon [] (.ok m.1), frames⟩ .colon =
        .inl ⟨.value, .members [] (.ok m.1) :: frames⟩ := rfl
      simp only [Value.tokens, List.cons_append, List.append_assoc, List.nil_append]
      rw [run_of_step hopen, run_of_step hkey, run_of_step hcolon, hm, run_furtherMembers hms,
        ofValue, ofMembers_eq_map]
      rfl

theorem ofText_of_tokens {v : Value} {text : String} (h : tokens text.toList = v.tokens) :
    ofText text = (ofValue v, false) := by
  rw [ofText, h, ← List.append_nil v.tokens, run_tokens]
  rfl

theorem ofText_compact {v : Value} (h : v.Legible) : ofText v.compact = (ofValue v, false) :=
  ofText_of_tokens (Value.tokens_compact h)

theorem ofText_indented {v : Value} (h : v.Legible) : ofText v.indented = (ofValue v, false) :=
  ofText_of_tokens (Value.tokens_indented h)

end Node

/-! ## What is read -/

namespace Node

mutual

/-- The scalars in a document. -/
def scalars : Node → List Scalar
  | .scalar s => [s]
  | .array items _ => scalarsOfItems items
  | .object members _ => scalarsOfMembers members
  | .broken .. => []

/-- The scalars in the items of an array. -/
def scalarsOfItems : List Node → List Scalar
  | [] => []
  | n :: ns => n.scalars ++ scalarsOfItems ns

/-- The scalars in the members of an object. -/
def scalarsOfMembers : List (Key × Node) → List Scalar
  | [] => []
  | (_, n) :: ms => n.scalars ++ scalarsOfMembers ms

end

theorem scalarsOfItems_eq (items : List Node) : scalarsOfItems items = items.flatMap scalars := by
  induction items with
  | nil => rfl
  | cons n ns ih => rw [scalarsOfItems, ih, List.flatMap_cons]

theorem scalarsOfMembers_eq (members : List (Key × Node)) :
    scalarsOfMembers members = members.flatMap fun m => m.2.scalars := by
  induction members with
  | nil => rfl
  | cons m ms ih => rw [scalarsOfMembers, ih, List.flatMap_cons]

/-- Every scalar in the document is of that kind. -/
def All (p : Scalar → Prop) (n : Node) : Prop :=
  ∀ x ∈ n.scalars, p x

variable {p : Scalar → Prop}

@[simp]
theorem all_scalar {x : Scalar} : (scalar x).All p ↔ p x := by
  simp [All, scalars]

@[simp]
theorem all_broken {what : Attempt} {strict lenient : Fault} :
    (broken what strict lenient).All p := by
  simp [All, scalars]

@[simp]
theorem all_array {items : List Node} {stop : ArrayStop} :
    (array items stop).All p ↔ ∀ n ∈ items, n.All p := by
  simp only [All, scalars, scalarsOfItems_eq, List.mem_flatMap]
  exact ⟨fun h n hn x hx => h x ⟨n, hn, hx⟩, fun h x ⟨n, hn, hx⟩ => h n hn x hx⟩

@[simp]
theorem all_object {members : List (Key × Node)} {stop : ObjectStop} :
    (object members stop).All p ↔ ∀ m ∈ members, m.2.All p := by
  simp only [All, scalars, scalarsOfMembers_eq, List.mem_flatMap]
  exact ⟨fun h m hm x hx => h x ⟨m, hm, hx⟩, fun h x ⟨m, hm, hx⟩ => h m hm x hx⟩

theorem all_reverseItems {itemsRev : List Node} {stop : ArrayStop}
    (h : ∀ n ∈ itemsRev, n.All p) : (array itemsRev.reverse stop).All p :=
  all_array.2 fun n hn => h n (List.mem_reverse.1 hn)

theorem all_reverseMembers {membersRev : List (Key × Node)} {stop : ObjectStop}
    (h : ∀ m ∈ membersRev, m.2.All p) : (object membersRev.reverse stop).All p :=
  all_object.2 fun m hm => h m (List.mem_reverse.1 hm)

/-- The same of what was read of an array or object. -/
def Frame.All (p : Scalar → Prop) : Frame → Prop
  | .items itemsRev => ∀ n ∈ itemsRev, n.All p
  | .members membersRev _ => ∀ m ∈ membersRev, m.2.All p

/-- The same of what was read last. -/
def Place.All (p : Scalar → Prop) : Place → Prop
  | .nextKey membersRev | .colon membersRev _ => ∀ m ∈ membersRev, m.2.All p
  | .behind n => n.All p
  | _ => True

/-- The same of all that was read. -/
def State.All (p : Scalar → Prop) (s : State) : Prop :=
  s.place.All p ∧ ∀ f ∈ s.frames, f.All p

/-- The same of what a step leads to. -/
def Step.All (p : Scalar → Prop) : Step → Prop
  | .inl s => s.All p
  | .inr n => n.All p

theorem all_unwind {frames : List Frame} {n : Node} (hframes : ∀ f ∈ frames, f.All p)
    (hn : n.All p) : (unwind frames n).All p := by
  induction frames generalizing n with
  | nil => exact hn
  | cons f fs ih =>
    obtain ⟨hf, hfs⟩ := List.forall_mem_cons.1 hframes
    cases f with
    | items itemsRev => exact ih hfs (all_reverseItems (List.forall_mem_cons.2 ⟨hn, hf⟩))
    | members membersRev key => exact ih hfs (all_reverseMembers (List.forall_mem_cons.2 ⟨hn, hf⟩))

theorem all_stepValue {frames : List Frame} {t : Token} (hframes : ∀ f ∈ frames, f.All p)
    (ht : ∀ x, t = .scalar x → p x) : (stepValue frames t).All p := by
  cases t with
  | scalar x => exact ⟨all_scalar.2 (ht x rfl), hframes⟩
  | arrayOpen | objectOpen => exact ⟨trivial, hframes⟩
  | _ => exact all_unwind hframes all_broken

theorem all_step {s : State} {t : Token} (hs : s.All p) (ht : ∀ x, t = .scalar x → p x) :
    (step s t).All p := by
  obtain ⟨place, frames⟩ := s
  obtain ⟨hplace, hframes⟩ := hs
  cases place with
  | value => exact all_stepValue hframes ht
  | firstItem =>
    cases t with
    | arrayClose => exact ⟨all_array.2 (List.forall_mem_nil _), hframes⟩
    | _ => exact all_stepValue (List.forall_mem_cons.2 ⟨by simp [Frame.All], hframes⟩) ht
  | nextItem =>
    unfold step
    dsimp only
    split
    · obtain ⟨hitems, hfs⟩ := List.forall_mem_cons.1 hframes
      exact all_unwind hfs (all_reverseItems hitems)
    · exact all_stepValue hframes ht
  | firstKey =>
    unfold step
    dsimp only
    split
    · exact ⟨all_object.2 (List.forall_mem_nil _), hframes⟩
    · exact ⟨List.forall_mem_nil _, hframes⟩
    all_goals exact all_unwind hframes (all_object.2 (List.forall_mem_nil _))
  | nextKey membersRev =>
    unfold step
    dsimp only
    split
    · exact ⟨hplace, hframes⟩
    all_goals exact all_unwind hframes (all_reverseMembers hplace)
  | colon membersRev key =>
    unfold step
    dsimp only
    split
    · exact ⟨trivial, List.forall_mem_cons.2 ⟨hplace, hframes⟩⟩
    · exact all_unwind hframes (all_reverseMembers hplace)
  | behind n =>
    have hn : n.All p := hplace
    cases frames with
    | nil => exact hn
    | cons f fs =>
      obtain ⟨hf, hfs⟩ := List.forall_mem_cons.1 hframes
      cases f with
      | items itemsRev =>
        have hitems : ∀ m ∈ n :: itemsRev, m.All p := List.forall_mem_cons.2 ⟨hn, hf⟩
        unfold step
        dsimp only
        split
        · exact ⟨trivial, List.forall_mem_cons.2 ⟨hitems, hfs⟩⟩
        · exact ⟨all_reverseItems hitems, hfs⟩
        · exact all_unwind hfs (all_reverseItems hitems)
      | members membersRev key =>
        have hmembers : ∀ m ∈ (key, n) :: membersRev, m.2.All p :=
          List.forall_mem_cons.2 ⟨hn, hf⟩
        unfold step
        dsimp only
        split
        · exact ⟨hmembers, hfs⟩
        · exact ⟨all_reverseMembers hmembers, hfs⟩
        · exact all_unwind hfs (all_reverseMembers hmembers)

theorem all_atEnd {s : State} (hs : s.All p) : (atEnd s).All p := by
  obtain ⟨place, frames⟩ := s
  obtain ⟨hplace, hframes⟩ := hs
  cases place with
  | value => exact all_unwind hframes all_broken
  | firstItem => exact all_unwind hframes (all_array.2 (List.forall_mem_nil _))
  | nextItem =>
    unfold atEnd
    dsimp only
    split
    · obtain ⟨hitems, hfs⟩ := List.forall_mem_cons.1 hframes
      exact all_unwind hfs (all_reverseItems hitems)
    · exact all_unwind hframes all_broken
  | firstKey => exact all_unwind hframes (all_object.2 (List.forall_mem_nil _))
  | nextKey membersRev | colon membersRev key =>
    exact all_unwind hframes (all_reverseMembers hplace)
  | behind n =>
    have hn : n.All p := hplace
    cases frames with
    | nil => exact hn
    | cons f fs =>
      obtain ⟨hf, hfs⟩ := List.forall_mem_cons.1 hframes
      cases f with
      | items itemsRev =>
        exact all_unwind hfs (all_reverseItems (List.forall_mem_cons.2 ⟨hn, hf⟩))
      | members membersRev key =>
        exact all_unwind hfs (all_reverseMembers (List.forall_mem_cons.2 ⟨hn, hf⟩))

theorem all_run {s : State} {ts : List Token} (hs : s.All p)
    (hts : ∀ x, .scalar x ∈ ts → p x) : (run s ts).1.All p := by
  induction ts generalizing s with
  | nil => exact all_atEnd hs
  | cons t ts ih =>
    have hstep := all_step (t := t) hs fun x hx => hts x (hx ▸ List.mem_cons_self)
    rw [run]
    split
    · next s' heq =>
      rw [heq] at hstep
      exact ih hstep fun x hx => hts x (List.mem_cons_of_mem t hx)
    · next n heq =>
      rw [heq] at hstep
      exact hstep

/-- The scalars in the document of a text are among the tokens of the text. -/
theorem all_ofText {text : String} (h : ∀ x, .scalar x ∈ tokens text.toList → p x) :
    (ofText text).1.All p :=
  all_run ⟨trivial, by simp⟩ h

end Node

/-- The scalar is no integer that a document cannot hold. -/
def Scalar.InRange : Scalar → Prop
  | .number (.ok n) => n.InRange
  | _ => True

theorem Token.eq_of_word {what : Attempt} {word cs : List Char} {scalar x : Scalar}
    (h : (Token.word what word scalar cs).1 = .scalar x) : x = scalar := by
  induction cs generalizing word with
  | nil =>
    unfold Token.word at h
    split at h
    · cases h
      rfl
    · cases h
  | cons c cs ih =>
    unfold Token.word at h
    split at h
    · cases h
      rfl
    · split at h
      · exact ih h
      · cases h

theorem Token.inRange_next {c : Char} {cs : List Char} {x : Scalar}
    (h : (Token.next c cs).1 = .scalar x) : x.InRange := by
  unfold Token.next at h
  split at h
  case h_7 | h_8 | h_9 =>
    rw [eq_of_word h]
    trivial
  case h_10 =>
    unfold ofLiteral at h
    split at h
    · cases h
      trivial
    · split at h <;> cases h
  case h_11 =>
    split at h
    · split at h
      · next n rest _ =>
        cases h
        cases hvalue : n.value with
        | ok m => exact Numeral.inRange_of_value hvalue
        | error f => trivial
      · cases h
    · cases h
  all_goals cases h

theorem inRange_of_mem_tokens {cs : List Char} {x : Scalar} (h : .scalar x ∈ tokens cs) :
    x.InRange := by
  induction cs using tokens.induct with
  | case1 => simp [tokens] at h
  | case2 c cs hspace ih =>
    rw [tokens_space hspace] at h
    exact ih h
  | case3 c cs hspace t rest heq _ ih =>
    rw [tokens_of_next (by simpa using hspace) heq] at h
    rcases List.mem_cons.1 h with h | h
    · have hnext : (Token.next c cs).1 = .scalar x := by rw [heq, h]
      exact Token.inRange_next hnext
    · exact ih h
  | case4 c cs hspace t heq =>
    have htokens : tokens (c :: cs) = [t] := by
      rw [tokens, if_neg hspace]
      split
      · next heq' =>
        rw [heq] at heq'
        cases heq'
      · next heq' =>
        rw [heq] at heq'
        cases heq'
        rfl
    rw [htokens, List.mem_singleton] at h
    have hnext : (Token.next c cs).1 = .scalar x := by rw [heq, h]
    exact Token.inRange_next hnext

end PageScan.Json
