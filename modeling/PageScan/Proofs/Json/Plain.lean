import Mathlib.Data.List.Forall2
import PageScan.Proofs.Json.Trees

/-!
# Values that were read

A document is read as a value if it does not nest too deep.

* `plain_ofValue`: the tree of a value is read as the value, or is too deep.
* `admits_of_plain`, `numbers_of_plain`: how deep the values nest that are read, and which numbers
  they hold.
-/

namespace PageScan.Json

/-! ## Depth -/

namespace Source

/-- A document from there may nest that deep. -/
def Admits : Source → Nat → Prop
  | .text d, k => k < d
  | _, _ => True

instance (src : Source) (k : Nat) : Decidable (src.Admits k) :=
  match src with
  | .text d => inferInstanceAs (Decidable (k < d))
  | .value | .aside => inferInstanceAs (Decidable True)

theorem Admits.mono {src : Source} {k l : Nat} (h : src.Admits l) (hle : k ≤ l) : src.Admits k := by
  cases src with
  | text d => exact Nat.lt_of_le_of_lt hle h
  | value | aside => trivial

theorem admits_max {src : Source} {k l : Nat} :
    src.Admits (max k l) ↔ src.Admits k ∧ src.Admits l := by
  cases src with
  | text d => exact Nat.max_lt
  | value | aside => simp [Admits]

/-- An array or object can be gone into if something may nest in it, one less deep. -/
theorem enter_cases {src : Source} (h : src.Admits 0) :
    (∃ inner, src.enter = .ok inner ∧ inner.Admits 0 ∧ ∀ k, inner.Admits k ↔ src.Admits (k + 1)) ∨
      src.enter = .error (.fault .tooDeep) ∧ ∀ k, ¬src.Admits (k + 1) := by
  cases src with
  | text d =>
    match d, h with
    | 1, _ => exact .inr ⟨rfl, fun k => by simp [Admits]⟩
    | d + 2, _ => exact .inl ⟨.text (d + 1), rfl, Nat.succ_pos d, fun k => by simp [Admits]⟩
  | value | aside => exact .inl ⟨_, rfl, trivial, fun _ => .rfl⟩

theorem enter_of_admits {src : Source} {k : Nat} (h : src.Admits (k + 1)) :
    ∃ inner, src.enter = .ok inner ∧ inner.Admits k := by
  rcases enter_cases (h.mono (Nat.zero_le _)) with ⟨inner, henter, -, hinner⟩ | ⟨-, hnot⟩
  · exact ⟨inner, henter, (hinner k).2 h⟩
  · exact absurd h (hnot k)

end Source

namespace Node

variable {src : Source}

/-- What is read back of a value that nests that deep. -/
def readTo (src : Source) {α : Type} (depth : Nat) (a : α) : Except Error α :=
  if src.Admits depth then .ok a else .error (.fault .tooDeep)

theorem readTo_of_admits {α : Type} {depth : Nat} {a : α} (h : src.Admits depth) :
    readTo src depth a = .ok a :=
  if_pos h

theorem readTo_of_not_admits {α : Type} {depth : Nat} {a : α} (h : ¬src.Admits depth) :
    readTo src depth a = .error (.fault .tooDeep) :=
  if_neg h

theorem readTo_cons {α β γ : Type} (d e : Nat) (a : α) (b : β) (f : α → β → γ) :
    (do let a ← readTo src d a; let b ← readTo src e b; return f a b) =
      readTo src (max d e) (f a b) := by
  by_cases hd : src.Admits d
  · by_cases he : src.Admits e
    · rw [readTo_of_admits hd, readTo_of_admits he,
        readTo_of_admits (Source.admits_max.2 ⟨hd, he⟩)]
      rfl
    · rw [readTo_of_admits hd, readTo_of_not_admits he,
        readTo_of_not_admits fun hmax => he (Source.admits_max.1 hmax).2]
      rfl
  · rw [readTo_of_not_admits hd,
      readTo_of_not_admits fun hmax => hd (Source.admits_max.1 hmax).1]
    rfl

/-- What holds of the insides of an array or object holds of it one level up. -/
theorem readTo_enter {α β : Type} (hsrc : src.Admits 0) (d : Nat) (a : α) (f : α → β)
    {inside : Source → Except Error α}
    (hinside : ∀ {src : Source}, src.Admits 0 → inside src = readTo src d a) :
    (do let src ← src.enter; let a ← inside src; return f a) = readTo src (d + 1) (f a) := by
  rcases Source.enter_cases hsrc with ⟨inner, henter, hzero, hinner⟩ | ⟨henter, hnot⟩
  · rw [henter]
    show (inside inner >>= _) = _
    rw [hinside hzero]
    simp only [readTo, hinner]
    split <;> rfl
  · rw [henter, readTo_of_not_admits (hnot d)]
    rfl

/-- A value is read back from its tree, unless it nests too deep. -/
theorem plain_ofValue (hsrc : src.Admits 0) (v : Value) :
    plain src (ofValue v) = readTo src v.depth v := by
  induction v using Value.induction generalizing src with
  | null | bool | number | string => exact (readTo_of_admits hsrc).symm
  | array items ih =>
    refine readTo_enter (f := Value.array) hsrc _ items fun {src} hsrc => ?_
    clear * - ih hsrc
    induction items with
    | nil => exact (readTo_of_admits hsrc).symm
    | cons v vs ihs =>
      obtain ⟨hv, hvs⟩ := List.forall_mem_cons.1 ih
      rw [ofItems, plainItems, hv hsrc, ihs hvs, readTo_cons]
      rfl
  | object members ih =>
    refine readTo_enter (f := Value.object) hsrc _ members fun {src} hsrc => ?_
    clear * - ih hsrc
    induction members with
    | nil => exact (readTo_of_admits hsrc).symm
    | cons m ms ihs =>
      obtain ⟨hm, hms⟩ := List.forall_mem_cons.1 ih
      show (do
        let v ← plain src (ofValue m.2)
        let ms ← plainMembers src (ofMembers ms)
        return (m.1, v) :: ms) = _
      rw [hm hsrc, ihs hms, readTo_cons]
      rfl

/-! ## What is read as a value -/

theorem bind_eq_ok {ε α β : Type} {x : Except ε α} {f : α → Except ε β} {b : β} :
    (x >>= f) = .ok b ↔ ∃ a, x = .ok a ∧ f a = .ok b := by
  cases x with
  | error e => exact ⟨nofun, nofun⟩
  | ok a => exact ⟨fun h => ⟨a, rfl, h⟩, fun ⟨_, ha, h⟩ => by cases ha; exact h⟩

theorem map_eq_ok {ε α β : Type} {x : Except ε α} {f : α → β} {b : β} :
    x.map f = .ok b ↔ ∃ a, x = .ok a ∧ f a = b := by
  cases x with
  | error e => exact ⟨nofun, nofun⟩
  | ok a => exact ⟨fun h => ⟨a, rfl, Except.ok.inj h⟩, fun ⟨_, h, hb⟩ => by cases h; cases hb; rfl⟩

theorem mapM_eq_ok_iff {ε α β : Type} {f : α → Except ε β} {as : List α} {bs : List β} :
    as.mapM f = .ok bs ↔ List.Forall₂ (f · = .ok ·) as bs := by
  induction as generalizing bs with
  | nil =>
    rw [List.forall₂_nil_left_iff]
    exact ⟨fun h => by cases h; rfl, fun h => by cases h; rfl⟩
  | cons a as ih =>
    rw [List.mapM_cons, List.forall₂_cons_left_iff]
    constructor
    · intro h
      obtain ⟨b, hb, h⟩ := bind_eq_ok.1 h
      obtain ⟨bs, hbs, h⟩ := bind_eq_ok.1 h
      cases h
      exact ⟨b, bs, hb, ih.1 hbs, rfl⟩
    · rintro ⟨b, bs, hb, hbs, rfl⟩
      exact bind_eq_ok.2 ⟨b, hb, bind_eq_ok.2 ⟨bs, ih.2 hbs, rfl⟩⟩

end Node

/-- The items are only read if the array is closed behind them. -/
theorem ArrayStop.eq_closed {stop : ArrayStop} (h : stop.strict = .ok ()) : stop = .closed := by
  cases stop <;> first | rfl | cases h

theorem ObjectStop.eq_closed {stop : ObjectStop} (h : stop.strict = .ok ()) : stop = .closed := by
  cases stop with
  | closed => rfl
  | noColon key atEnd =>
    obtain ⟨_, -, h⟩ := Node.bind_eq_ok.1 h
    cases h
  | _ => cases h

namespace Node

variable {src : Source}

theorem flat_of_plain_scalar {x : Scalar} {v : Value} (h : plain src (.scalar x) = .ok v) :
    v.depth = 0 ∧ ∀ m ∈ v.numbers, x = .number (.ok m) := by
  cases x with
  | null | bool =>
    cases h
    exact ⟨rfl, by simp [Value.numbers]⟩
  | number n =>
    cases n with
    | error f => cases h
    | ok n =>
      cases h
      exact ⟨rfl, by simp [Value.numbers]⟩
  | string s =>
    cases s with
    | error f => cases h
    | ok s =>
      cases h
      exact ⟨rfl, by simp [Value.numbers]⟩

/-- The items of an array, and what each is read as. -/
theorem forall₂_of_plainItems {items : List Node} {vs : List Value}
    (h : plainItems src items = .ok vs) : List.Forall₂ (plain src · = .ok ·) items vs := by
  induction items generalizing vs with
  | nil =>
    cases h
    exact .nil
  | cons n ns ih =>
    obtain ⟨v, hv, h⟩ := bind_eq_ok.1 h
    obtain ⟨vs, hvs, h⟩ := bind_eq_ok.1 h
    cases h
    exact .cons hv (ih hvs)

/-- The member is read as that one. -/
def IsMember (src : Source) (member : Key × Node) (m : String × Value) : Prop :=
  member.1 = .ok m.1 ∧ member.2.plain src = .ok m.2

theorem forall₂_of_plainMembers {members : List (Key × Node)} {ms : List (String × Value)}
    (h : plainMembers src members = .ok ms) : List.Forall₂ (IsMember src) members ms := by
  induction members generalizing ms with
  | nil =>
    cases h
    exact .nil
  | cons member members ih =>
    obtain ⟨k, n⟩ := member
    obtain ⟨key, hkey, h⟩ := bind_eq_ok.1 h
    obtain ⟨v, hv, h⟩ := bind_eq_ok.1 h
    obtain ⟨ms, hms, h⟩ := bind_eq_ok.1 h
    cases h
    cases k with
    | error f => cases hkey
    | ok k =>
      cases hkey
      exact .cons ⟨rfl, hv⟩ (ih hms)

theorem exists_of_plain_array {items : List Node} {stop : ArrayStop} {v : Value}
    (h : plain src (.array items stop) = .ok v) :
    ∃ inner vs, src.enter = .ok inner ∧ List.Forall₂ (plain inner · = .ok ·) items vs ∧
      stop = .closed ∧ v = .array vs := by
  obtain ⟨inner, henter, h⟩ := bind_eq_ok.1 h
  obtain ⟨vs, hitems, h⟩ := bind_eq_ok.1 h
  obtain ⟨⟨⟩, hstop, h⟩ := bind_eq_ok.1 h
  cases h
  exact ⟨inner, vs, henter, forall₂_of_plainItems hitems, ArrayStop.eq_closed hstop, rfl⟩

theorem exists_of_plain_object {members : List (Key × Node)} {stop : ObjectStop} {v : Value}
    (h : plain src (.object members stop) = .ok v) :
    ∃ inner ms, src.enter = .ok inner ∧ List.Forall₂ (IsMember inner) members ms ∧
      stop = .closed ∧ v = .object ms := by
  obtain ⟨inner, henter, h⟩ := bind_eq_ok.1 h
  obtain ⟨ms, hmembers, h⟩ := bind_eq_ok.1 h
  obtain ⟨⟨⟩, hstop, h⟩ := bind_eq_ok.1 h
  cases h
  exact ⟨inner, ms, henter, forall₂_of_plainMembers hmembers, ObjectStop.eq_closed hstop, rfl⟩

theorem exists_of_mem_right {α β : Type} {R : α → β → Prop} {as : List α} {bs : List β}
    (h : List.Forall₂ R as bs) : ∀ b ∈ bs, ∃ a ∈ as, R a b := by
  induction h with
  | nil => nofun
  | @cons a b as bs hab _ ih =>
    refine List.forall_mem_cons.2 ⟨⟨a, List.mem_cons_self, hab⟩, fun b' hb' => ?_⟩
    obtain ⟨a', ha', hab'⟩ := ih b' hb'
    exact ⟨a', List.mem_cons_of_mem a ha', hab'⟩

theorem admits_depthOfItems (hsrc : src.Admits 0) {vs : List Value}
    (h : ∀ v ∈ vs, src.Admits v.depth) : src.Admits (Value.depthOfItems vs) := by
  induction vs with
  | nil => exact hsrc
  | cons v vs ih =>
    obtain ⟨hv, hvs⟩ := List.forall_mem_cons.1 h
    exact Source.admits_max.2 ⟨hv, ih hvs⟩

theorem admits_depthOfMembers (hsrc : src.Admits 0) {ms : List (String × Value)}
    (h : ∀ m ∈ ms, src.Admits m.2.depth) : src.Admits (Value.depthOfMembers ms) := by
  induction ms with
  | nil => exact hsrc
  | cons m ms ih =>
    obtain ⟨hm, hms⟩ := List.forall_mem_cons.1 h
    exact Source.admits_max.2 ⟨hm, ih hms⟩

/-- What is read does not nest too deep. -/
theorem admits_of_plain (hsrc : src.Admits 0) {n : Node} {v : Value} (h : plain src n = .ok v) :
    src.Admits v.depth := by
  induction n using Node.induction generalizing src v with
  | scalar x => rwa [(flat_of_plain_scalar h).1]
  | broken what strict lenient => cases h
  | array items stop ih =>
    obtain ⟨inner, vs, henter, hitems, -, rfl⟩ := exists_of_plain_array h
    rcases Source.enter_cases hsrc with ⟨inner', henter', hzero, hinner⟩ | ⟨henter', -⟩
    · cases henter.symm.trans henter'
      refine (hinner _).1 (admits_depthOfItems hzero fun v hv => ?_)
      obtain ⟨n, hn, hread⟩ := exists_of_mem_right hitems v hv
      exact ih n hn hzero hread
    · cases henter.symm.trans henter'
  | object members stop ih =>
    obtain ⟨inner, ms, henter, hmembers, -, rfl⟩ := exists_of_plain_object h
    rcases Source.enter_cases hsrc with ⟨inner', henter', hzero, hinner⟩ | ⟨henter', -⟩
    · cases henter.symm.trans henter'
      refine (hinner _).1 (admits_depthOfMembers hzero fun m hm => ?_)
      obtain ⟨member, hmember, -, hread⟩ := exists_of_mem_right hmembers m hm
      exact ih member hmember hzero hread
    · cases henter.symm.trans henter'

/-- The numbers that are read stand in the document. -/
theorem numbers_of_plain {p : Scalar → Prop} {n : Node} (hn : n.All p) {v : Value}
    (h : plain src n = .ok v) : ∀ m ∈ v.numbers, p (.number (.ok m)) := by
  induction n using Node.induction generalizing src v with
  | scalar x =>
    intro m hm
    rw [← (flat_of_plain_scalar h).2 m hm]
    exact all_scalar.1 hn
  | broken what strict lenient => cases h
  | array items stop ih =>
    obtain ⟨inner, vs, -, hitems, -, rfl⟩ := exists_of_plain_array h
    intro m hm
    rw [Value.numbers, Value.numbersOfItems_eq] at hm
    obtain ⟨v, hv, hm⟩ := List.mem_flatMap.1 hm
    obtain ⟨n, hmem, hread⟩ := exists_of_mem_right hitems v hv
    exact ih n hmem (all_array.1 hn n hmem) hread m hm
  | object members stop ih =>
    obtain ⟨inner, ms, -, hmembers, -, rfl⟩ := exists_of_plain_object h
    intro m hm
    rw [Value.numbers, Value.numbersOfMembers_eq] at hm
    obtain ⟨v, hv, hm⟩ := List.mem_flatMap.1 hm
    obtain ⟨n, hmem, -, hread⟩ := exists_of_mem_right hmembers v hv
    exact ih n hmem (all_object.1 hn n hmem) hread m hm

end Node

end PageScan.Json
