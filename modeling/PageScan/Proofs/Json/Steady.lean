import PageScan.Proofs.Json.Normal
import PageScan.Proofs.Json.Records

/-!
# Documents that are read as values first

A document may be read at once, or it may be read as a value, out of which the rest is read later.
The value no longer shows where the members of an object stood. A steady decoder reads the same
either way.

* `Fields.ofMembers_cons_eq_ok_iff`: the members of a record are read field by field, each field
  from the members of its name, wherever they stand.
* `Decoder.Steady`: what is read of a document is read of its value too.
* `steady_names`, `Steady.list`, `steady_record`: decoders that are steady.
-/

namespace PageScan.Json

open Node (bind_eq_ok map_eq_ok mapM_eq_ok_iff IsMember)

/-! ## Members by key -/

/-- The member has a key, and can be skipped. -/
def Skippable (member : Key × Node) : Prop :=
  (∃ key, member.1 = .ok key) ∧ member.2.skip = .ok ()

/-- What can be read can be skipped. -/
theorem Node.skip_of_plain {src : Source} {n : Node} {v : Value} (h : n.plain src = .ok v) :
    n.skip = .ok () := by
  induction n using Node.induction generalizing src v with
  | scalar x => rfl
  | broken what strict lenient => cases h
  | array items stop ih =>
    obtain ⟨inner, vs, -, hitems, rfl, -⟩ := exists_of_plain_array h
    have hskip : skipItems items = .ok () := by
      clear h
      induction hitems with
      | nil => rfl
      | cons hv _ ihs =>
        obtain ⟨hn, hns⟩ := List.forall_mem_cons.1 ih
        exact bind_eq_ok.2 ⟨(), hn hv, ihs hns⟩
    exact bind_eq_ok.2 ⟨(), hskip, rfl⟩
  | object members stop ih =>
    obtain ⟨inner, ms, -, hmembers, rfl, -⟩ := exists_of_plain_object h
    have hskip : skipMembers members = .ok () := by
      clear h
      induction hmembers with
      | nil => rfl
      | cons hm _ ihs =>
        obtain ⟨hn, hns⟩ := List.forall_mem_cons.1 ih
        exact bind_eq_ok.2 ⟨(), hn hm.2, ihs hns⟩
    exact bind_eq_ok.2 ⟨(), hskip, rfl⟩

theorem skippable_of_isMember {src : Source} {members : List (Key × Node)}
    {ms : List (String × Value)} (h : List.Forall₂ (IsMember src) members ms) :
    ∀ member ∈ members, Skippable member := by
  induction h with
  | nil => nofun
  | cons hm _ ih => exact List.forall_mem_cons.2 ⟨⟨⟨_, hm.1⟩, Node.skip_of_plain hm.2⟩, ih⟩

theorem plain_value_ofValue (v : Value) : (Node.ofValue v).plain .value = .ok v := by
  have hadmits (k : Nat) : Source.value.Admits k := trivial
  rw [Node.plain_ofValue (hadmits 0), Node.readTo_of_admits (hadmits v.depth)]

theorem isMember_ofMembers (ms : List (String × Value)) :
    List.Forall₂ (IsMember .value) (Node.ofMembers ms) ms := by
  induction ms with
  | nil => exact .nil
  | cons m ms ih => exact .cons ⟨rfl, plain_value_ofValue m.2⟩ ih

/-- The documents that stand under that key. -/
def nodesOf (key : String) (members : List (Key × Node)) : List Node :=
  (members.filter fun member => member.1.toOption = some key).map Prod.snd

section NodesOf

variable {key k : String} {n : Node} {members : List (Key × Node)}

theorem nodesOf_cons_of_eq (h : k = key) :
    nodesOf key ((.ok k, n) :: members) = n :: nodesOf key members := by
  simp [nodesOf, h, Except.toOption]

theorem nodesOf_cons_of_ne (h : k ≠ key) :
    nodesOf key ((.ok k, n) :: members) = nodesOf key members := by
  simp [nodesOf, h, Except.toOption]

/-- What stands under a key is read as the values of the key. -/
theorem forall₂_nodesOf {src : Source} {ms : List (String × Value)} (key : String)
    (h : List.Forall₂ (IsMember src) members ms) :
    List.Forall₂ (Node.plain src · = .ok ·) (nodesOf key members) (valuesOf key ms) := by
  induction h with
  | nil => exact .nil
  | @cons member m members ms hm _ ih =>
    obtain ⟨_, n⟩ := member
    obtain ⟨k, v⟩ := m
    obtain ⟨rfl, hplain⟩ := hm
    by_cases hk : k = key
    · rw [nodesOf_cons_of_eq hk, valuesOf_cons_of_eq hk]
      exact .cons hplain ih
    · rw [nodesOf_cons_of_ne hk, valuesOf_cons_of_ne hk]
      exact ih

theorem nodesOf_ofMembers (key : String) (ms : List (String × Value)) :
    nodesOf key (Node.ofMembers ms) = Node.ofItems (valuesOf key ms) := by
  induction ms with
  | nil => rfl
  | cons m ms ih =>
    obtain ⟨k, v⟩ := m
    by_cases hk : k = key
    · rw [Node.ofMembers, nodesOf_cons_of_eq hk, valuesOf_cons_of_eq hk, ih, Node.ofItems]
    · rw [Node.ofMembers, nodesOf_cons_of_ne hk, valuesOf_cons_of_ne hk, ih]

end NodesOf

/-! ## Reading fields by name -/

namespace Field

variable {α : Type} {f : Field α} {src : Source}

/-- What the documents that come for a field make of its slot. -/
inductive Fills (f : Field α) (src : Source) : List Node → Option α → Option α → Prop
  | left (slot : Option α) : Fills f src [] slot slot
  | filled {n : Node} {a : α} (h : f.decode src n = .ok a) : Fills f src [n] none (some a)

/-- What a field is if these are the documents that come for it. -/
inductive Takes (f : Field α) (src : Source) : List Node → α → Prop
  | absent {a : α} (h : f.absent? = some a) : Takes f src [] a
  | present {n : Node} {a : α} (h : f.decode src n = .ok a) : Takes f src [n] a

theorem takes_iff_exists_fills {ns : List Node} {a : α} :
    f.Takes src ns a ↔
      ∃ slot, f.Fills src ns none slot ∧ (slot = some a ∨ slot = none ∧ f.absent? = some a) := by
  constructor
  · intro h
    cases h with
    | absent h => exact ⟨none, .left _, .inr ⟨rfl, h⟩⟩
    | present h => exact ⟨some a, .filled h, .inl rfl⟩
  · rintro ⟨slot, hfills, hslot⟩
    cases hfills with
    | left => exact .absent (hslot.resolve_left nofun).2
    | filled h =>
      cases hslot.resolve_right nofun
      exact .present h

end Field

namespace Fields

variable {α : Type} {αs : List Type} {src : Source} {f : Field α} {fs : Fields αs}
  {members : List (Key × Node)} {slot slot' : Option α} {slots slots' : Slots αs}

theorem hasCome?_of_not_mem_names {key : String} (h : key ∉ fs.names) (slots : Slots αs) :
    fs.hasCome? key slots = .none := by
  induction fs with
  | nil => rfl
  | cons f fs ih =>
    obtain ⟨slot, slots, rfl⟩ := exists_slots_cons slots
    obtain ⟨hne, hmem⟩ := not_or.1 (mt List.mem_cons.2 h)
    rw [hasCome?_cons_of_ne (Ne.symm hne), ih hmem]

/-- Members that no field has the name of are skipped. -/
theorem feedAll_skip {key : String} {n : Node} (h : key ∉ fs.names) (hskip : n.skip = .ok ())
    (slots : Slots αs) (members : List (Key × Node)) :
    feedAll src fs slots ((.ok key, n) :: members) = feedAll src fs slots members := by
  rw [feedAll_member, hasCome?_of_not_mem_names h]
  dsimp only
  rw [hskip]
  rfl

theorem ofMembers_nil (hmembers : ∀ member ∈ members, Skippable member) :
    ofMembers src .nil members .closed = .ok () := by
  induction members with
  | nil => rfl
  | cons member members ih =>
    obtain ⟨⟨⟨key, hkey⟩, hskip⟩, hothers⟩ := List.forall_mem_cons.1 hmembers
    obtain ⟨_, n⟩ := member
    obtain rfl := hkey
    have hrest : feedAll src .nil (Fields.none .nil) ((.ok key, n) :: members) =
        feedAll src .nil (Fields.none .nil) members := feedAll_skip List.not_mem_nil hskip _ _
    rw [ofMembers_eq, hrest]
    exact ih hothers

/-- The members are dealt out: those of the name of the first field to it, the others to the other
fields. -/
theorem feedAll_cons_eq_ok_iff (h : f.name ∉ fs.names)
    (hmembers : ∀ member ∈ members, Skippable member) :
    feedAll src (.cons f fs) (.cons slot slots) members = .ok (.cons slot' slots') ↔
      f.Fills src (nodesOf f.name members) slot slot' ∧
        feedAll src fs slots members = .ok slots' := by
  induction members generalizing slot slots with
  | nil =>
    constructor
    · intro hfeed
      cases hfeed
      exact ⟨.left _, rfl⟩
    · rintro ⟨⟨⟩, hfeed⟩
      cases hfeed
      rfl
  | cons member members ih =>
    obtain ⟨⟨⟨k, hkey⟩, hskip⟩, hothers⟩ := List.forall_mem_cons.1 hmembers
    obtain ⟨_, n⟩ := member
    obtain rfl := hkey
    by_cases hk : f.name = k
    · have hrest : feedAll src fs slots ((.ok k, n) :: members) = feedAll src fs slots members :=
        feedAll_skip (hk ▸ h) hskip slots members
      rw [nodesOf_cons_of_eq hk.symm, hrest, feedAll_member, hasCome?_cons_of_eq hk,
        feed_cons_of_eq hk]
      cases slot with
      | some a =>
        refine ⟨nofun, fun ⟨hfills, _⟩ => ?_⟩
        generalize nodesOf f.name members = ns at hfills
        cases hfills
      | none =>
        constructor
        · intro hfeed
          obtain ⟨_, hfirst, hmore⟩ := bind_eq_ok.1 hfeed
          obtain ⟨a, ha, rfl⟩ := map_eq_ok.1 hfirst
          obtain ⟨hfills, hrest⟩ := (ih hothers).1 hmore
          generalize nodesOf f.name members = ns at hfills ⊢
          cases hfills
          exact ⟨.filled ha, hrest⟩
        · rintro ⟨hfills, hrest⟩
          generalize hns : nodesOf f.name members = ns at hfills
          cases hfills with
          | filled ha =>
            refine bind_eq_ok.2 ⟨_, map_eq_ok.2 ⟨_, ha, rfl⟩, (ih hothers).2 ⟨?_, hrest⟩⟩
            rw [hns]
            exact .left _
    · rw [nodesOf_cons_of_ne (Ne.symm hk), feedAll_member, feedAll_member, hasCome?_cons_of_ne hk,
        feed_cons_of_ne hk]
      rcases fs.hasCome? k slots with _ | _ | _
      · dsimp only
        rw [show n.skip = .ok () from hskip]
        exact ih hothers
      · dsimp only
        cases feed src k n fs slots with
        | error e => exact ⟨nofun, fun hread => nomatch hread.2⟩
        | ok slots => exact ih hothers
      · exact ⟨nofun, fun hread => nomatch hread.2⟩

variable {row : Row αs} {a : α}

theorem exists_row_cons (row : Row (α :: αs)) : ∃ a rest, row = .cons a rest :=
  ⟨row.1, row.2, rfl⟩

theorem finish_cons_eq_ok_iff :
    finish (.cons f fs) (.cons slot slots) = .ok (.cons a row) ↔
      (slot = some a ∨ slot = .none ∧ f.absent? = some a) ∧ finish fs slots = .ok row := by
  have hcons (a' : α) : (finish fs slots).map (Row.cons a') = .ok (.cons a row) ↔
      a' = a ∧ finish fs slots = .ok row := by
    refine map_eq_ok.trans ⟨?_, fun ⟨ha, hrow⟩ => ⟨row, hrow, ha ▸ rfl⟩⟩
    rintro ⟨row', hrow, heq⟩
    cases heq
    exact ⟨rfl, hrow⟩
  cases slot with
  | some a' =>
    rw [finish_cons_some, hcons]
    simp
  | none =>
    rcases habsent : f.absent? with _ | a'
    · rw [finish_cons_missing habsent]
      simp
    · rw [finish_cons_none habsent, hcons]
      simp

/-- The first field is read from the members of its name, and the others from the other members. -/
theorem ofMembers_cons_eq_ok_iff (h : f.name ∉ fs.names)
    (hmembers : ∀ member ∈ members, Skippable member) :
    ofMembers src (.cons f fs) members .closed = .ok (.cons a row) ↔
      f.Takes src (nodesOf f.name members) a ∧ ofMembers src fs members .closed = .ok row := by
  have hslots : Fields.none (.cons f fs) = .cons .none fs.none := rfl
  rw [ofMembers_eq, ofMembers_eq, hslots, Field.takes_iff_exists_fills, bind_eq_ok, bind_eq_ok]
  constructor
  · rintro ⟨filled, hfeed, hfinish⟩
    obtain ⟨slot, slots, rfl⟩ := exists_slots_cons filled
    obtain ⟨hfills, hrest⟩ := (feedAll_cons_eq_ok_iff h hmembers).1 hfeed
    obtain ⟨hslot, hrow⟩ := finish_cons_eq_ok_iff.1 hfinish
    exact ⟨⟨slot, hfills, hslot⟩, slots, hrest, hrow⟩
  · rintro ⟨⟨slot, hfills, hslot⟩, slots, hrest, hrow⟩
    exact ⟨.cons slot slots, (feedAll_cons_eq_ok_iff h hmembers).2 ⟨hfills, hrest⟩,
      finish_cons_eq_ok_iff.2 ⟨hslot, hrow⟩⟩

end Fields

/-! ## Steady decoders -/

namespace Decoder

variable {α : Type} {d : Decoder α}

/-- What is read of a document is also read of the value that the document is. -/
def Steady (d : Decoder α) : Prop :=
  ∀ src n v a, n.plain src = .ok v → d src n = .ok a → d.decodeValue v.normal = .ok a

/-- What is read of a text at once is read of the value in the text. -/
theorem Steady.decodeText (h : d.Steady) {text : String} {v : Value} {a : α}
    (hvalue : any.decodeText text = .ok v) (hread : d.decodeText text = .ok a) :
    d.decodeValue v = .ok a := by
  obtain ⟨normal, hany, hvalue⟩ := bind_eq_ok.1 hvalue
  obtain ⟨b, hread, hb⟩ := bind_eq_ok.1 hread
  obtain ⟨plain, hplain, rfl⟩ := map_eq_ok.1 hany
  split at hvalue
  · cases hvalue
  · next hmore =>
    rw [if_neg hmore] at hb
    cases hvalue
    cases hb
    exact h _ _ _ _ hplain hread

theorem eq_of_string_eq_ok {src : Source} {n : Node} {s : String} (h : string src n = .ok s) :
    n = .scalar (.string (.ok s)) := by
  cases n with
  | scalar x =>
    cases x with
    | string t =>
      cases t with
      | error f => cases h
      | ok t =>
        cases h
        rfl
    | null | bool => cases h
    | number m => cases m <;> cases h
  | _ => cases h

theorem eq_of_unit_eq_ok {src : Source} {n : Node} (h : unit src n = .ok ()) :
    n = .scalar .null := by
  cases n with
  | scalar x =>
    cases x with
    | null => rfl
    | bool => cases h
    | number m => cases m <;> cases h
    | string t => cases t <;> cases h
  | _ => cases h

theorem eq_string_of_string {src : Source} {v : Value} {s : String}
    (h : string src (.ofValue v) = .ok s) : v = .string s := by
  have hnode := eq_of_string_eq_ok h
  cases v with
  | string =>
    cases hnode
    rfl
  | _ => cases hnode

theorem eq_ofStrings_of_list {src : Source} {v : Value} {texts : List String}
    (h : (list string) src (.ofValue v) = .ok texts) : v = .ofStrings texts := by
  cases v with
  | array vs =>
    obtain ⟨inner, -, h⟩ := bind_eq_ok.1 h
    obtain ⟨texts, htexts, h⟩ := bind_eq_ok.1 h
    cases h
    rw [Node.ofItems_eq_map, mapM_eq_ok_iff, List.forall₂_map_left_iff] at htexts
    have heq : List.Forall₂ Eq vs (texts.map .string) :=
      List.forall₂_map_right_iff.2 (htexts.imp fun _ _ => eq_string_of_string)
    exact congrArg Value.array (List.forall₂_eq_eq_eq ▸ heq)
  | _ => cases h

theorem aside_of_plain {src : Source} {n : Node} {v : Value} (h : n.plain src = .ok v) :
    aside src n = .ok (.ofValue v) := by
  rw [aside, h]
  rfl

theorem steady_string : string.Steady := by
  intro src n v s hplain hread
  obtain rfl := eq_of_string_eq_ok hread
  cases hplain
  exact hread

theorem steady_unit : unit.Steady := by
  intro src n v a hplain hread
  obtain rfl := eq_of_unit_eq_ok hread
  cases hplain
  exact hread

theorem Steady.nullable (h : d.Steady) : d.nullable.Steady := by
  intro src n v a hplain hread
  have hsome (hn : d.nullable src n = (d src n).map some) (hv : v.normal ≠ .null) :
      d.nullable.decodeValue v.normal = .ok a := by
    obtain ⟨a, ha, rfl⟩ := map_eq_ok.1 (hn.symm.trans hread)
    rw [decodeValue, nullable_ofValue hv]
    exact map_eq_ok.2 ⟨a, h src n v a hplain ha, rfl⟩
  cases n with
  | array items stop =>
    obtain ⟨_, _, _, _, _, rfl⟩ := Node.exists_of_plain_array hplain
    exact hsome rfl nofun
  | object members stop =>
    obtain ⟨_, _, _, _, _, rfl⟩ := Node.exists_of_plain_object hplain
    exact hsome rfl nofun
  | broken => cases hplain
  | scalar x =>
    match x, hplain with
    | .null, hplain =>
      cases hplain
      exact hread
    | .bool _, hplain | .number (.ok _), hplain | .string (.ok _), hplain =>
      cases hplain
      exact hsome rfl nofun

theorem Steady.mapM (h : d.Steady) {src : Source} {items : List Node} {vs : List Value}
    {as : List α} (hplain : List.Forall₂ (Node.plain src · = .ok ·) items vs)
    (hread : items.mapM (d src) = .ok as) :
    (Node.ofItems (vs.map Value.normal)).mapM (d .value) = .ok as := by
  rw [mapM_eq_ok_iff] at hread ⊢
  induction hplain generalizing as with
  | nil =>
    cases hread
    exact .nil
  | cons hv _ ih =>
    cases hread with
    | cons ha has => exact .cons (h _ _ _ _ hv ha) (ih has)

theorem Steady.list (h : d.Steady) : (list d).Steady := by
  intro src n v as hplain hread
  cases n with
  | array items stop =>
    obtain ⟨inner, vs, henter, hitems, rfl, rfl⟩ := Node.exists_of_plain_array hplain
    obtain ⟨inner', henter', hread⟩ := bind_eq_ok.1 hread
    cases henter.symm.trans henter'
    obtain ⟨as, has, hread⟩ := bind_eq_ok.1 hread
    rw [Value.normal_array]
    exact bind_eq_ok.2 ⟨.value, rfl, bind_eq_ok.2 ⟨as, h.mapM hitems has, hread⟩⟩
  | _ => cases hread

theorem mem_of_find_eq_ok {variants : List (Variant α)} {name : String} {variant : Variant α}
    (h : Variant.find variants name = .ok variant) : variant ∈ variants := by
  unfold Variant.find at h
  split at h
  · next hfind =>
    cases h
    exact List.mem_of_find?_eq_some hfind
  · cases h

/-- The document names a variant, which is the choice, alone or together with its content. -/
inductive Chooses (variants : List (Variant α)) (src : Source) : Node → α → Prop
  | bare {name : String} {a : α} (h : (Variant.find variants name >>= Variant.bare) = .ok a) :
    Chooses variants src (.scalar (.string (.ok name))) a
  | filled {name : String} {content : Node} {stop : ObjectStop} {inner : Source}
    {variant : Variant α} {a : α} (henter : src.enter = .ok inner)
    (hfind : Variant.find variants name = .ok variant) (h : variant.filled inner content = .ok a) :
    Chooses variants src (.object [(.ok name, content)] stop) a

theorem chooses_of_choiceOfText {variants : List (Variant α)} {src : Source} {n : Node} {a : α}
    (h : choiceOfText variants src n = .ok a) : Chooses variants src n a := by
  cases n with
  | scalar x =>
    cases x with
    | string s =>
      cases s with
      | error f => cases h
      | ok name => exact .bare h
    | _ => cases h
  | array => cases h
  | broken what => cases what <;> cases h
  | object members stop =>
    cases members with
    | nil =>
      obtain ⟨_, -, h⟩ := bind_eq_ok.1 h
      obtain ⟨_, -, h⟩ := bind_eq_ok.1 h
      obtain ⟨_, -, h⟩ := bind_eq_ok.1 h
      obtain ⟨_, -, h⟩ := bind_eq_ok.1 h
      cases h
    | cons member rest =>
      obtain ⟨k, content⟩ := member
      obtain ⟨inner, henter, hmember⟩ := bind_eq_ok.1 h
      obtain ⟨name, hname, hmember⟩ := bind_eq_ok.1 hmember
      obtain ⟨variant, hfind, hmember⟩ := bind_eq_ok.1 hmember
      obtain ⟨b, hfilled, hrest⟩ := bind_eq_ok.1 hmember
      cases k with
      | error f => cases hname
      | ok k =>
        cases hname
        cases rest with
        | cons => cases hrest
        | nil =>
          cases stop with
          | closed =>
            cases hrest
            exact .filled henter hfind hfilled
          | _ => cases hrest

theorem chooses_of_choiceOfValue {variants : List (Variant α)} {src : Source} {n : Node} {a : α}
    (henter : src.enter = .ok src) (h : choiceOfValue variants src n = .ok a) :
    Chooses variants src n a := by
  cases n with
  | scalar x =>
    cases x with
    | string s =>
      cases s with
      | error f => cases h
      | ok name => exact .bare h
    | null | bool => cases h
    | number m => cases m <;> cases h
  | array | broken => cases h
  | object members stop =>
    match members with
    | [(k, content)] =>
      obtain ⟨name, hname, hmember⟩ := bind_eq_ok.1 h
      obtain ⟨variant, hfind, hfilled⟩ := bind_eq_ok.1 hmember
      cases k with
      | error f => cases hname
      | ok k =>
        cases hname
        exact .filled henter hfind hfilled
    | [] | _ :: _ :: _ => cases h

theorem chooses_of_choice {variants : List (Variant α)} {src : Source} {n : Node} {a : α}
    (h : choice variants src n = .ok a) : Chooses variants src n a := by
  cases src with
  | text => exact chooses_of_choiceOfText h
  | value | aside => exact chooses_of_choiceOfValue rfl h

theorem steady_choice {variants : List (Variant α)}
    (h : ∀ variant ∈ variants, Steady variant.filled) : (choice variants).Steady := by
  intro src n v a hplain hread
  cases chooses_of_choice hread with
  | bare hbare =>
    cases hplain
    exact hbare
  | filled henter hfind hfilled =>
    obtain ⟨inner, ms, henter', hmembers, -, rfl⟩ := Node.exists_of_plain_object hplain
    cases henter.symm.trans henter'
    rcases hmembers with _ | ⟨⟨hname, hcontent⟩, _ | _⟩
    have hvalue := h _ (mem_of_find_eq_ok hfind) _ _ _ a hcontent hfilled
    cases hname
    exact bind_eq_ok.2 ⟨_, rfl, bind_eq_ok.2 ⟨_, hfind, hvalue⟩⟩

theorem steady_names (variants : List (String × α)) : (names variants).Steady := by
  refine steady_choice fun variant hvariant => ?_
  obtain ⟨⟨name, a⟩, -, rfl⟩ := List.mem_map.1 hvariant
  intro src n v b hplain hread
  obtain ⟨⟨⟩, hunit, hb⟩ := map_eq_ok.1 hread
  exact map_eq_ok.2 ⟨(), steady_unit src n v () hplain hunit, hb⟩

end Decoder

namespace Fields

variable {α : Type} {αs : List Type} {src : Source} {f : Field α} {fs : Fields αs}

/-- Each field is read by a steady decoder. -/
inductive Steady : {αs : List Type} → Fields αs → Prop
  | nil : Steady .nil
  | cons {α : Type} {αs : List Type} {f : Field α} {fs : Fields αs} (h : f.decode.Steady)
    (hs : Steady fs) : Steady (.cons f fs)

/-- If one document at most comes for a field, its value stays when members are sorted. -/
theorem takes_values (h : f.decode.Steady) {ns : List Node} {vs : List Value} {a : α}
    (hplain : List.Forall₂ (Node.plain src · = .ok ·) ns vs) (htakes : f.Takes src ns a) :
    f.Takes .value (Node.ofItems ((vs.map Value.normal).foldl (fun _ v => [v]) [])) a := by
  cases htakes with
  | absent habsent =>
    cases hplain
    exact .absent habsent
  | present hread =>
    rcases hplain with _ | ⟨hv, _ | _⟩
    exact .present (h _ _ _ _ hv hread)

theorem Steady.ofMembers (h : fs.Steady) (hnames : fs.names.Nodup) {members : List (Key × Node)}
    {ms : List (String × Value)} {row : Row αs}
    (hplain : List.Forall₂ (IsMember src) members ms)
    (hread : Fields.ofMembers src fs members .closed = .ok row) :
    Fields.ofMembers .value fs
      (Node.ofMembers (sortMembers (ms.map fun m => (m.1, m.2.normal)))) .closed = .ok row := by
  have hmembers := skippable_of_isMember hplain
  have hsorted := skippable_of_isMember
    (isMember_ofMembers (sortMembers (ms.map fun m => (m.1, m.2.normal))))
  induction h with
  | nil => exact ofMembers_nil hsorted
  | cons hfield _ ih =>
    obtain ⟨hname, hnames⟩ := List.nodup_cons.1 hnames
    obtain ⟨a, row, rfl⟩ := exists_row_cons row
    obtain ⟨htakes, hrest⟩ := (ofMembers_cons_eq_ok_iff hname hmembers).1 hread
    refine (ofMembers_cons_eq_ok_iff hname hsorted).2 ⟨?_, ih hnames hrest⟩
    rw [nodesOf_ofMembers, valuesOf_sortMembers, valuesOf_map_normal]
    exact takes_values hfield (forall₂_nodesOf _ hplain) htakes

theorem Steady.ofItemsFrom (h : fs.Steady) {expected expected' : String} {i : Nat}
    {items : List Node} {vs : List Value} {row : Row αs}
    (hplain : List.Forall₂ (Node.plain src · = .ok ·) items vs)
    (hread : Fields.ofItemsFrom src expected .closed fs i items = .ok (row, [])) :
    Fields.ofItemsFrom .value expected' .closed fs i (Node.ofItems (vs.map Value.normal)) =
      .ok (row, []) := by
  induction h generalizing i items vs with
  | nil =>
    cases hplain with
    | nil => exact hread
    | cons => cases hread
  | @cons _ _ f _ hfield _ ih =>
    cases hplain with
    | nil =>
      obtain ⟨⟨⟩, -, hread⟩ := bind_eq_ok.1 hread
      rcases hbeyond : f.beyond? with _ | a
      · rw [hbeyond] at hread
        cases hread
      · rw [hbeyond] at hread
        obtain ⟨⟨row, rest⟩, hrest, hread⟩ := bind_eq_ok.1 hread
        cases hread
        refine bind_eq_ok.2 ⟨(), rfl, ?_⟩
        rw [hbeyond]
        exact bind_eq_ok.2 ⟨(row, []), ih .nil hrest, rfl⟩
    | cons hv hvs =>
      obtain ⟨a, ha, hread⟩ := bind_eq_ok.1 hread
      obtain ⟨⟨row, rest⟩, hrest, hread⟩ := bind_eq_ok.1 hread
      cases hread
      exact bind_eq_ok.2 ⟨a, hfield _ _ _ a hv ha, bind_eq_ok.2 ⟨(row, []), ih hvs hrest, rfl⟩⟩

end Fields

namespace Decoder

variable {αs : List Type} {fs : Fields αs}

theorem eq_nil_of_leftOver {src : Source} {taken total : Nat} {rest : List Node}
    {stop : ArrayStop} (h : leftOver src taken total rest stop = .ok ()) : rest = [] := by
  cases rest with
  | nil => rfl
  | cons n rest => cases src <;> cases h

theorem steady_row (h : fs.Steady) (hnames : fs.names.Nodup) (name : String) :
    (row name fs).Steady := by
  intro src n v r hplain hread
  cases n with
  | object members stop =>
    obtain ⟨inner, ms, henter, hmembers, rfl, rfl⟩ := Node.exists_of_plain_object hplain
    obtain ⟨inner', henter', hread⟩ := bind_eq_ok.1 hread
    cases henter.symm.trans henter'
    rw [Value.normal_object]
    exact h.ofMembers hnames hmembers hread
  | array items stop =>
    obtain ⟨inner, vs, henter, hitems, rfl, rfl⟩ := Node.exists_of_plain_array hplain
    obtain ⟨inner', henter', hread⟩ := bind_eq_ok.1 hread
    cases henter.symm.trans henter'
    obtain ⟨⟨r, rest⟩, hfields, hread⟩ := bind_eq_ok.1 hread
    obtain ⟨⟨⟩, hleft, hread⟩ := bind_eq_ok.1 hread
    cases hread
    obtain rfl := eq_nil_of_leftOver hleft
    rw [Value.normal_array]
    exact bind_eq_ok.2 ⟨.value, rfl, bind_eq_ok.2 ⟨_, h.ofItemsFrom hitems hfields, rfl⟩⟩
  | _ => cases hread

theorem steady_record {β : Type} (h : fs.Steady) (hnames : fs.names.Nodup) (name : String)
    (make : Row αs → β) : (record name fs make).Steady := by
  intro src n v b hplain hread
  obtain ⟨r, hrow, rfl⟩ := map_eq_ok.1 hread
  exact map_eq_ok.2 ⟨r, steady_row h hnames _ src n v r hplain hrow, rfl⟩

end Decoder

end PageScan.Json
