import PageScan.Proofs.Json.Records

/-!
# Decoders that accept more

A decoder is wider than another one if it reads whatever the other one reads, and to the same
effect. Records are read by a wider decoder if each field is, and if a field that may be left out
still may.

* `Decoder.Wider`: one decoder is wider than another. `Wider.list`, `wider_nullable`: parts.
* `Field.Wider`, `Fields.Wider`: the fields of two records, one by one.
* `Wider.record`: hence records as a whole.
-/

namespace PageScan.Json

open Node (bind_eq_ok map_eq_ok mapM_eq_ok_iff)

namespace Decoder

variable {α β : Type} {d : Decoder β} {strict : Decoder α} {f : α → β}

/-- Whatever `strict` reads, `d` reads too, as what `f` makes of it. -/
def Wider (d : Decoder β) (strict : Decoder α) (f : α → β) : Prop :=
  ∀ src n a, strict src n = .ok a → d src n = .ok (f a)

theorem Wider.refl (d : Decoder α) : d.Wider d id := fun _ _ _ h => h

theorem Wider.list (h : d.Wider strict f) : (list d).Wider (list strict) (List.map f) := by
  intro src n as hread
  cases n with
  | array items stop =>
    obtain ⟨inner, henter, hread⟩ := bind_eq_ok.1 hread
    obtain ⟨as, hitems, hread⟩ := bind_eq_ok.1 hread
    obtain ⟨⟨⟩, hstop, hread⟩ := bind_eq_ok.1 hread
    cases hread
    have hwide : items.mapM (d inner) = .ok (as.map f) :=
      mapM_eq_ok_iff.2 (List.forall₂_map_right_iff.2 ((mapM_eq_ok_iff.1 hitems).imp (h inner)))
    exact bind_eq_ok.2 ⟨inner, henter, bind_eq_ok.2 ⟨_, hwide, bind_eq_ok.2 ⟨(), hstop, rfl⟩⟩⟩
  | scalar | object | broken => cases hread

/-- What may be null is read as what it is if it is not null. -/
theorem wider_nullable {d : Decoder α} (hnull : ∀ src a, d src (.scalar .null) ≠ .ok a)
    (hbroken : ∀ src strict lenient a, d src (.broken .null strict lenient) ≠ .ok a) :
    d.nullable.Wider d some := by
  intro src n a hread
  have hmap : (d src n).map some = .ok (some a) := by
    rw [hread]
    rfl
  cases n with
  | scalar x =>
    cases x with
    | null => exact absurd hread (hnull src a)
    | _ => exact hmap
  | broken what s l =>
    cases what with
    | null => exact absurd hread (hbroken src s l a)
    | _ => exact hmap
  | array | object => exact hmap

end Decoder

/-! ## Fields -/

/-- A field that is read by a wider decoder and may be left out wherever the other one may. -/
structure Field.Wider {α β : Type} (g : Field β) (f : Field α) (φ : α → β) : Prop where
  name : g.name = f.name
  decode : g.decode.Wider f.decode φ
  absent : ∀ a, f.absent? = some a → g.absent? = some (φ a)
  beyond : ∀ a, f.beyond? = some a → g.beyond? = some (φ a)

namespace Field

variable {α β : Type} {name : String} {d : Decoder β} {strict : Decoder α} {φ : α → β}

theorem Wider.refl (f : Field α) : f.Wider f id :=
  ⟨rfl, .refl _, fun _ h => h, fun _ h => h⟩

/-- A field that has to come may be given a default. -/
theorem Wider.defaulted (h : d.Wider strict φ) (value : β) :
    (defaulted name d value).Wider (required name strict) φ :=
  ⟨rfl, h, nofun, nofun⟩

/-- A field that has to come may be left out or null. -/
theorem Wider.omissible (h : strict.nullable.Wider strict some) :
    (omissible name strict).Wider (required name strict) some :=
  ⟨rfl, h, nofun, nofun⟩

end Field

namespace Fields

/-- The fields of a record are wider, one by one; with what becomes of the values of the fields and
of those that have come so far. -/
inductive Wider : {αs βs : List Type} → Fields βs → Fields αs → (Row αs → Row βs) →
    (Slots αs → Slots βs) → Prop
  | nil : Wider .nil .nil id id
  | cons {α β : Type} {αs βs : List Type} {g : Field β} {f : Field α} {gs : Fields βs}
    {fs : Fields αs} {φ : α → β} {onRow : Row αs → Row βs} {onSlots : Slots αs → Slots βs}
    (h : g.Wider f φ) (hs : Wider gs fs onRow onSlots) :
    Wider (.cons g gs) (.cons f fs) (fun row => .cons (φ row.1) (onRow row.2))
      fun slots => .cons (slots.1.map φ) (onSlots slots.2)

variable {αs βs : List Type} {gs : Fields βs} {fs : Fields αs} {onRow : Row αs → Row βs}
  {onSlots : Slots αs → Slots βs} {src : Source}

theorem Wider.size_eq (h : gs.Wider fs onRow onSlots) : gs.size = fs.size := by
  induction h with
  | nil => rfl
  | cons _ _ ih => exact congrArg (· + 1) ih

theorem Wider.none_eq (h : gs.Wider fs onRow onSlots) : onSlots fs.none = gs.none := by
  induction h with
  | nil => rfl
  | cons _ _ ih => exact congrArg (Slots.cons .none) ih

theorem Wider.hasCome?_eq (h : gs.Wider fs onRow onSlots) (name : String) (slots : Slots αs) :
    hasCome? name gs (onSlots slots) = hasCome? name fs slots := by
  induction h with
  | nil => rfl
  | @cons _ _ _ _ g f _ _ φ _ onSlots hfield _ ih =>
    obtain ⟨slot, slots, rfl⟩ := exists_slots_cons slots
    show hasCome? name (.cons g _) (.cons (slot.map φ) (onSlots slots)) = _
    by_cases hname : f.name = name
    · rw [hasCome?_cons_of_eq hname, hasCome?_cons_of_eq (hfield.name.trans hname),
        Option.isSome_map]
    · rw [hasCome?_cons_of_ne hname, hasCome?_cons_of_ne (hfield.name ▸ hname), ih]

theorem Wider.feed (h : gs.Wider fs onRow onSlots) {name : String} {n : Node}
    {slots slots' : Slots αs} (hfeed : Fields.feed src name n fs slots = .ok slots') :
    Fields.feed src name n gs (onSlots slots) = .ok (onSlots slots') := by
  induction h with
  | nil =>
    cases hfeed
    rfl
  | @cons _ _ _ _ g f gs fs φ _ onSlots hfield _ ih =>
    obtain ⟨slot, slots, rfl⟩ := exists_slots_cons slots
    show Fields.feed src name n (.cons g gs) (.cons (slot.map φ) (onSlots slots)) = _
    by_cases hname : f.name = name
    · rw [feed_cons_of_eq hname, map_eq_ok] at hfeed
      obtain ⟨a, ha, rfl⟩ := hfeed
      rw [feed_cons_of_eq (hfield.name.trans hname)]
      exact map_eq_ok.2 ⟨_, hfield.decode src n a ha, rfl⟩
    · rw [feed_cons_of_ne hname, map_eq_ok] at hfeed
      obtain ⟨slots', hrest, rfl⟩ := hfeed
      rw [feed_cons_of_ne (hfield.name ▸ hname)]
      exact map_eq_ok.2 ⟨_, ih hrest, rfl⟩

theorem Wider.feedAll (h : gs.Wider fs onRow onSlots) {ms : List (Key × Node)}
    {slots slots' : Slots αs} (hfeed : Fields.feedAll src fs slots ms = .ok slots') :
    Fields.feedAll src gs (onSlots slots) ms = .ok (onSlots slots') := by
  induction ms generalizing slots with
  | nil =>
    cases hfeed
    rfl
  | cons m ms ih =>
    obtain ⟨k, n⟩ := m
    cases k with
    | error f => cases hfeed
    | ok key =>
      rw [feedAll_member] at hfeed ⊢
      rw [h.hasCome?_eq]
      rcases hcome : fs.hasCome? key slots with _ | _ | _
      · rw [hcome] at hfeed
        obtain ⟨⟨⟩, hskip, hfeed⟩ := bind_eq_ok.1 hfeed
        exact bind_eq_ok.2 ⟨(), hskip, ih hfeed⟩
      · rw [hcome] at hfeed
        obtain ⟨more, hfirst, hfeed⟩ := bind_eq_ok.1 hfeed
        exact bind_eq_ok.2 ⟨_, h.feed hfirst, ih hfeed⟩
      · rw [hcome] at hfeed
        cases hfeed

theorem Wider.finish (h : gs.Wider fs onRow onSlots) {slots : Slots αs} {row : Row αs}
    (hfinish : Fields.finish fs slots = .ok row) :
    Fields.finish gs (onSlots slots) = .ok (onRow row) := by
  induction h with
  | nil => rfl
  | @cons _ _ _ _ g f gs fs φ onRow onSlots hfield _ ih =>
    obtain ⟨slot, slots, rfl⟩ := exists_slots_cons slots
    show Fields.finish (.cons g gs) (.cons (slot.map φ) (onSlots slots)) = _
    cases slot with
    | some a =>
      rw [finish_cons_some, map_eq_ok] at hfinish
      obtain ⟨row, hrest, rfl⟩ := hfinish
      rw [Option.map_some, finish_cons_some]
      exact map_eq_ok.2 ⟨_, ih hrest, rfl⟩
    | none =>
      rcases habsent : f.absent? with _ | a
      · rw [finish_cons_missing habsent] at hfinish
        cases hfinish
      · rw [finish_cons_none habsent, map_eq_ok] at hfinish
        obtain ⟨row, hrest, rfl⟩ := hfinish
        rw [Option.map_none, finish_cons_none (hfield.absent a habsent)]
        exact map_eq_ok.2 ⟨_, ih hrest, rfl⟩

theorem Wider.ofMembers (h : gs.Wider fs onRow onSlots) {ms : List (Key × Node)}
    {stop : ObjectStop} {row : Row αs} (hread : Fields.ofMembers src fs ms stop = .ok row) :
    Fields.ofMembers src gs ms stop = .ok (onRow row) := by
  obtain rfl := closed_of_ofMembers hread
  rw [ofMembers_eq] at hread ⊢
  obtain ⟨slots, hfeed, hfinish⟩ := bind_eq_ok.1 hread
  rw [← h.none_eq]
  exact bind_eq_ok.2 ⟨_, h.feedAll hfeed, h.finish hfinish⟩

theorem Wider.ofItemsFrom (h : gs.Wider fs onRow onSlots) {expected expected' : String}
    {stop : ArrayStop} {i : Nat} {ns rest : List Node} {row : Row αs}
    (hread : Fields.ofItemsFrom src expected stop fs i ns = .ok (row, rest)) :
    Fields.ofItemsFrom src expected' stop gs i ns = .ok (onRow row, rest) := by
  induction h generalizing i ns with
  | nil =>
    cases hread
    rfl
  | @cons _ _ _ _ g f gs fs φ onRow onSlots hfield _ ih =>
    cases ns with
    | cons n ns =>
      obtain ⟨a, ha, hread⟩ := bind_eq_ok.1 hread
      obtain ⟨⟨row, rest⟩, hrest, hread⟩ := bind_eq_ok.1 hread
      cases hread
      exact bind_eq_ok.2 ⟨_, hfield.decode src n a ha, bind_eq_ok.2 ⟨_, ih hrest, rfl⟩⟩
    | nil =>
      obtain ⟨⟨⟩, hstop, hread⟩ := bind_eq_ok.1 hread
      refine bind_eq_ok.2 ⟨(), hstop, ?_⟩
      rcases hbeyond : f.beyond? with _ | a
      · rw [hbeyond] at hread
        cases hread
      · rw [hbeyond] at hread
        obtain ⟨⟨row, rest⟩, hrest, hread⟩ := bind_eq_ok.1 hread
        cases hread
        rw [hfield.beyond a hbeyond]
        exact bind_eq_ok.2 ⟨_, ih hrest, rfl⟩

end Fields

/-! ## Records -/

namespace Decoder

variable {αs βs : List Type} {gs : Fields βs} {fs : Fields αs} {onRow : Row αs → Row βs}
  {onSlots : Slots αs → Slots βs} {name strictName : String}

theorem wider_row (h : gs.Wider fs onRow onSlots) :
    (row name gs).Wider (row strictName fs) onRow := by
  intro src n r hread
  cases n with
  | array items stop =>
    obtain ⟨inner, henter, hread⟩ := bind_eq_ok.1 hread
    obtain ⟨⟨r, rest⟩, hitems, hread⟩ := bind_eq_ok.1 hread
    obtain ⟨⟨⟩, hrest, hread⟩ := bind_eq_ok.1 hread
    cases hread
    rw [← h.size_eq] at hrest
    exact bind_eq_ok.2 ⟨inner, henter, bind_eq_ok.2 ⟨_, h.ofItemsFrom hitems,
      bind_eq_ok.2 ⟨(), hrest, rfl⟩⟩⟩
  | object ms stop =>
    obtain ⟨inner, henter, hread⟩ := bind_eq_ok.1 hread
    exact bind_eq_ok.2 ⟨inner, henter, h.ofMembers hread⟩
  | scalar | broken => cases hread

theorem Wider.record {α β : Type} {make : Row αs → α} {makeWide : Row βs → β} {f : α → β}
    (h : gs.Wider fs onRow onSlots) (hmake : ∀ row, makeWide (onRow row) = f (make row)) :
    (record name gs makeWide).Wider (record strictName fs make) f := by
  intro src n a hread
  obtain ⟨row, hrow, rfl⟩ := map_eq_ok.1 hread
  exact map_eq_ok.2 ⟨onRow row, wider_row h src n row hrow, hmake row⟩

end Decoder

end PageScan.Json
