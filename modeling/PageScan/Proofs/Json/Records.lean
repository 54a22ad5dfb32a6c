import PageScan.Json.Choice
import PageScan.Proofs.Json.Plain

/-!
# Decoders that read back what is written

Most documents are written with the members of a record in the order of its fields. Such a document
is read field by field.

* `ReadsBack`: a decoder reads the value that a document was written for.
* `ofMembers_present`, `ofMembers_absent`: reading a record one field at a time.
* `InOrder`, `record_of_inOrder`: the same for all fields of a record.
-/

namespace PageScan.Json

namespace Decoder

variable {α β : Type} {d : Decoder α} {k : Nat} {v : Value} {a : α}

/-- The value is read from the document by whoever lets it nest `k` deep. -/
def ReadsBack (d : Decoder α) (k : Nat) (v : Value) (a : α) : Prop :=
  ∀ src : Source, src.Admits k → d src (.ofValue v) = .ok a

theorem readsBack_string (s : String) : string.ReadsBack k (.string s) s :=
  fun _ _ => rfl

theorem readsBack_natural {bits n : Nat} {name : String} (h : n < Nat.pow 2 bits) :
    (natural bits name).ReadsBack k (.ofNat n) n := by
  intro src _
  have hrange : (0 : Int) ≤ n ∧ (n : Int) ≤ (Nat.pow 2 bits - 1 : Nat) := by
    omega
  show (if (0 : Int) ≤ n ∧ (n : Int) ≤ (Nat.pow 2 bits - 1 : Nat) then _ else _ :
    Except Error Int).map Int.toNat = _
  rw [if_pos hrange]
  rfl

theorem readsBack_float {x : Float} (h : x.isFinite = true) :
    float.ReadsBack k (.ofFloat x) x := by
  intro src _
  rw [Value.ofFloat, if_pos h]
  rfl

theorem readsBack_parsed {expected : String} {parse : String → Except String α} {s : String}
    (h : parse s = .ok a) : (parsed expected parse).ReadsBack k (.string s) a := by
  intro src _
  show (parse s).mapError Error.custom = _
  rw [h]
  rfl

theorem ReadsBack.refine {f : α → Except String β} {b : β} (h : d.ReadsBack k v a)
    (hf : f a = .ok b) : (d.refine f).ReadsBack k v b := by
  intro src hsrc
  rw [Decoder.refine, h src hsrc]
  show (f a).mapError Error.custom = _
  rw [hf]
  rfl

theorem any_ofValue {src : Source} (hsrc : src.Admits 0) (hnormal : v.normal = v) :
    any src (.ofValue v) = Node.readTo src v.depth v := by
  rw [any, Node.plain_ofValue hsrc, Node.readTo]
  split
  · exact congrArg Except.ok hnormal
  · rfl

theorem readsBack_null : d.nullable.ReadsBack k .null none :=
  fun _ _ => rfl

/-- What may be null is read as what it is if it is not null. -/
theorem nullable_ofValue (hv : v ≠ .null) (src : Source) :
    d.nullable src (.ofValue v) = (d src (.ofValue v)).map some := by
  cases v with
  | null => exact absurd rfl hv
  | _ => rfl

theorem ReadsBack.nullable (h : d.ReadsBack k v a) (hv : v ≠ .null) :
    d.nullable.ReadsBack k v (some a) := by
  intro src hsrc
  rw [nullable_ofValue hv, h src hsrc]
  rfl

theorem readsBack_names {variants : List (String × α)} {name : String}
    (h : variants.find? (fun v => v.1 = name) = some (name, a)) :
    (names variants).ReadsBack k (.string name) a := by
  have hfind : Variant.find (variants.map fun v => Variant.plain v.1 v.2) name =
      .ok (Variant.plain name a) := by
    have hcomp : (fun v : Variant α => decide (v.name = name)) ∘
        (fun v : String × α => Variant.plain v.1 v.2) = fun v => decide (v.1 = name) := rfl
    rw [Variant.find, List.find?_map, hcomp, h]
    rfl
  have hbare : (Variant.find (variants.map fun v => Variant.plain v.1 v.2) name >>= Variant.bare) =
      .ok a := by
    rw [hfind]
    rfl
  intro src _
  cases src <;> exact hbare

theorem ReadsBack.list {f : α → Value} {as : List α} (h : ∀ a ∈ as, d.ReadsBack k (f a) a) :
    (list d).ReadsBack (k + 1) (.array (as.map f)) as := by
  intro src hsrc
  obtain ⟨inner, henter, hinner⟩ := Source.enter_of_admits hsrc
  have hitems : (Node.ofItems (as.map f)).mapM (d inner) = .ok as := by
    clear henter
    induction as with
    | nil => rfl
    | cons a as ih =>
      obtain ⟨ha, has⟩ := List.forall_mem_cons.1 h
      rw [List.map_cons, Node.ofItems, List.mapM_cons, ha inner hinner, ih has]
      rfl
  show (do
    let src ← src.enter
    let vs ← (Node.ofItems (as.map f)).mapM (d src)
    ArrayStop.closed.strict
    return vs) = _
  rw [henter]
  show (do
    let vs ← (Node.ofItems (as.map f)).mapM (d inner)
    ArrayStop.closed.strict
    return vs) = _
  rw [hitems]
  rfl

/-- A text is read as its document is if nothing comes behind it. -/
theorem decodeText_of_ofText {text : String} {n : Node} (h : Node.ofText text = (n, false)) :
    d.decodeText text = d (.text depthLimit) n := by
  rw [decodeText, h]
  dsimp only
  cases d (.text depthLimit) n <;> rfl

theorem decodeText_eq_ok_iff {text : String} :
    d.decodeText text = .ok a ↔
      ∃ n, Node.ofText text = (n, false) ∧ d (.text depthLimit) n = .ok a := by
  constructor
  · intro h
    rcases htext : Node.ofText text with ⟨n, more⟩
    rw [decodeText, htext] at h
    obtain ⟨b, hread, hmore⟩ := Node.bind_eq_ok.1 h
    cases more <;> cases hmore
    exact ⟨n, rfl, hread⟩
  · rintro ⟨n, htext, hread⟩
    rw [decodeText_of_ofText htext, hread]

end Decoder

/-! ## Records, field by field -/

/-- The slots of a record with one field more. -/
def Slots.cons {α : Type} {αs : List Type} (slot : Option α) (slots : Slots αs) :
    Slots (α :: αs) :=
  (slot, slots)

/-- The row of a record with one field more. -/
def Row.cons {α : Type} {αs : List Type} (a : α) (row : Row αs) : Row (α :: αs) :=
  (a, row)

namespace Fields

variable {α : Type} {αs : List Type} {src : Source} {f : Field α} {fs : Fields αs}

/-- The names of the fields. -/
def names : {αs : List Type} → Fields αs → List String
  | _, .nil => []
  | _, .cons f fs => f.name :: fs.names

theorem feedAll_member (fs : Fields αs) (slots : Slots αs) (key : String) (n : Node)
    (ms : List (Key × Node)) :
    feedAll src fs slots ((.ok key, n) :: ms) =
      match fs.hasCome? key slots with
      | .none => n.skip >>= fun _ => feedAll src fs slots ms
      | some true => .error (.mismatch (.duplicateField key))
      | some false => fs.feed src key n slots >>= fun slots => feedAll src fs slots ms :=
  rfl

theorem exists_slots_cons (slots : Slots (α :: αs)) : ∃ slot rest, slots = .cons slot rest :=
  ⟨slots.1, slots.2, rfl⟩

theorem hasCome?_cons_of_eq {key : String} (h : f.name = key) (slot : Option α)
    (slots : Slots αs) : hasCome? key (.cons f fs) (.cons slot slots) = some slot.isSome :=
  if_pos h

theorem hasCome?_cons_of_ne {key : String} (h : f.name ≠ key) (slot : Option α)
    (slots : Slots αs) : hasCome? key (.cons f fs) (.cons slot slots) = hasCome? key fs slots :=
  if_neg h

theorem feed_cons_of_eq {key : String} (h : f.name = key) (n : Node) (slot : Option α)
    (slots : Slots αs) : feed src key n (.cons f fs) (.cons slot slots) =
      (f.decode src n).map fun a => .cons (some a) slots := by
  have heq : feed src key n (.cons f fs) (.cons slot slots) =
      f.decode src n >>= fun a => .ok (.cons (some a) slots) := if_pos h
  rw [heq]
  cases f.decode src n <;> rfl

theorem feed_cons_of_ne {key : String} (h : f.name ≠ key) (n : Node) (slot : Option α)
    (slots : Slots αs) : feed src key n (.cons f fs) (.cons slot slots) =
      (feed src key n fs slots).map (.cons slot) := by
  have heq : feed src key n (.cons f fs) (.cons slot slots) =
      feed src key n fs slots >>= fun slots => .ok (.cons slot slots) := if_neg h
  rw [heq]
  cases feed src key n fs slots <;> rfl

theorem finish_cons_some (a : α) (slots : Slots αs) :
    finish (.cons f fs) (.cons (some a) slots) = (finish fs slots).map (.cons a) := by
  have heq : finish (.cons f fs) (.cons (some a) slots) =
      finish fs slots >>= fun row => .ok (.cons a row) := rfl
  rw [heq]
  cases finish fs slots <;> rfl

theorem finish_cons_none {a : α} (h : f.absent? = some a) (slots : Slots αs) :
    finish (.cons f fs) (.cons .none slots) = (finish fs slots).map (.cons a) := by
  have heq : finish (.cons f fs) (.cons .none slots) =
      finish fs slots >>= fun row => .ok (.cons a row) := by
    simp only [Slots.cons, finish, h]
    rfl
  rw [heq]
  cases finish fs slots <;> rfl

theorem finish_cons_missing (h : f.absent? = .none) (slots : Slots αs) :
    finish (.cons f fs) (.cons .none slots) = .error (.mismatch (.missingField f.name)) := by
  simp only [Slots.cons, finish, h]

/-- A field for which no member comes is out of the way of the others. -/
theorem feedAll_cons_of_not_mem {ms : List (String × Value)} (h : f.name ∉ ms.map Prod.fst)
    (slot : Option α) (slots : Slots αs) :
    feedAll src (.cons f fs) (.cons slot slots) (Node.ofMembers ms) =
      (feedAll src fs slots (Node.ofMembers ms)).map (.cons slot) := by
  induction ms generalizing slots with
  | nil => rfl
  | cons m ms ih =>
    obtain ⟨hm, hms⟩ := not_or.1 (mt List.mem_cons.2 h)
    rw [Node.ofMembers, feedAll_member, feedAll_member, hasCome?_cons_of_ne hm,
      feed_cons_of_ne hm]
    rcases fs.hasCome? m.1 slots with _ | _ | _
    · rw [ih hms]
      cases (Node.ofValue m.2).skip <;> rfl
    · cases feed src m.1 (Node.ofValue m.2) fs slots with
      | error e => rfl
      | ok slots => exact ih hms slots
    · rfl

theorem ofMembers_eq (fs : Fields αs) (ms : List (Key × Node)) :
    ofMembers src fs ms .closed = feedAll src fs fs.none ms >>= fs.finish :=
  rfl

/-- The members are only read if the object is closed behind them. -/
theorem closed_of_ofMembers {ms : List (Key × Node)} {stop : ObjectStop} {row : Row αs}
    (h : ofMembers src fs ms stop = .ok row) : stop = .closed := by
  obtain ⟨slots, -, h⟩ := Node.bind_eq_ok.1 h
  cases stop with
  | closed => rfl
  | noColon key atEnd =>
    obtain ⟨key, -, h⟩ := Node.bind_eq_ok.1 h
    split at h
    · cases h
    · obtain ⟨⟨⟩, hstrict, -⟩ := Node.bind_eq_ok.1 h
      exact ObjectStop.eq_closed hstrict
  | _ => cases h

/-- The first member is that of the first field. -/
theorem ofMembers_present {ms : List (String × Value)} (h : f.name ∉ ms.map Prod.fst) (v : Value) :
    ofMembers src (.cons f fs) (Node.ofMembers ((f.name, v) :: ms)) .closed =
      (do
        let a ← f.decode src (.ofValue v)
        (ofMembers src fs (Node.ofMembers ms) .closed).map (.cons a)) := by
  have hfirst : feedAll src (.cons f fs) (Fields.none (.cons f fs))
      (Node.ofMembers ((f.name, v) :: ms)) =
        f.decode src (.ofValue v) >>= fun a =>
          feedAll src (.cons f fs) (.cons (some a) fs.none) (Node.ofMembers ms) := by
    have hslots : Fields.none (.cons f fs) = .cons .none fs.none := rfl
    rw [Node.ofMembers, feedAll_member, hslots, hasCome?_cons_of_eq rfl]
    dsimp only [Option.isSome_none]
    rw [feed_cons_of_eq rfl]
    cases f.decode src (.ofValue v) <;> rfl
  rw [ofMembers_eq, hfirst]
  cases f.decode src (.ofValue v) with
  | error e => rfl
  | ok a =>
    show (feedAll src (.cons f fs) (.cons (some a) fs.none) (Node.ofMembers ms) >>= _) =
      (ofMembers src fs (Node.ofMembers ms) .closed).map (Row.cons a)
    rw [feedAll_cons_of_not_mem h, ofMembers_eq]
    cases feedAll src fs fs.none (Node.ofMembers ms) with
    | error e => rfl
    | ok slots => exact finish_cons_some a slots

/-- No member is that of the first field, which has a default. -/
theorem ofMembers_absent {ms : List (String × Value)} (h : f.name ∉ ms.map Prod.fst) {a : α}
    (ha : f.absent? = some a) :
    ofMembers src (.cons f fs) (Node.ofMembers ms) .closed =
      (ofMembers src fs (Node.ofMembers ms) .closed).map (.cons a) := by
  have hslots : Fields.none (.cons f fs) = .cons .none fs.none := rfl
  rw [ofMembers_eq, ofMembers_eq, hslots, feedAll_cons_of_not_mem h]
  cases feedAll src fs fs.none (Node.ofMembers ms) with
  | error e => rfl
  | ok slots => exact finish_cons_none ha slots

/-- The members are those of the fields, in order, where some may be left out; read one by one they
make up the row, or one of them is refused. -/
inductive InOrder (src : Source) : {αs : List Type} → Fields αs → List (String × Value) →
    Except Error (Row αs) → Prop
  | nil : InOrder src .nil [] (.ok ())
  | present {α : Type} {αs : List Type} {f : Field α} {fs : Fields αs} {v : Value} {a : α}
    {ms : List (String × Value)} {r : Except Error (Row αs)}
    (hread : f.decode src (.ofValue v) = .ok a) (h : InOrder src fs ms r) :
    InOrder src (.cons f fs) ((f.name, v) :: ms) (r.map (.cons a))
  | absent {α : Type} {αs : List Type} {f : Field α} {fs : Fields αs} {a : α}
    {ms : List (String × Value)} {r : Except Error (Row αs)} (habsent : f.absent? = some a)
    (h : InOrder src fs ms r) : InOrder src (.cons f fs) ms (r.map (.cons a))
  | refused {α : Type} {αs : List Type} {f : Field α} {fs : Fields αs} {v : Value} {e : Error}
    {ms : List (String × Value)} (hread : f.decode src (.ofValue v) = .error e)
    (hms : ∀ m ∈ ms, m.1 ∈ fs.names) : InOrder src (.cons f fs) ((f.name, v) :: ms) (.error e)

variable {ms : List (String × Value)} {r : Except Error (Row αs)}

theorem InOrder.mem_names (h : InOrder src fs ms r) : ∀ m ∈ ms, m.1 ∈ fs.names := by
  induction h with
  | nil => simp
  | present _ _ ih | refused _ ih =>
    refine List.forall_mem_cons.2 ⟨List.mem_cons_self, fun m hm => ?_⟩
    exact List.mem_cons_of_mem _ (ih m hm)
  | absent _ _ ih => exact fun m hm => List.mem_cons_of_mem _ (ih m hm)

theorem ofMembers_of_inOrder (h : InOrder src fs ms r) (hnames : fs.names.Nodup) :
    ofMembers src fs (Node.ofMembers ms) .closed = r := by
  have fresh {α : Type} {αs : List Type} {f : Field α} {fs : Fields αs}
      {ms : List (String × Value)} (hms : ∀ m ∈ ms, m.1 ∈ fs.names)
      (hnames : (Fields.cons f fs).names.Nodup) : f.name ∉ ms.map Prod.fst := fun hmem => by
    obtain ⟨m, hm, hname⟩ := List.mem_map.1 hmem
    exact (List.nodup_cons.1 hnames).1 (hname ▸ hms m hm)
  induction h with
  | nil => rfl
  | present hread h ih =>
    rw [ofMembers_present (fresh h.mem_names hnames), hread, ih (List.nodup_cons.1 hnames).2]
    rfl
  | absent habsent h ih =>
    rw [ofMembers_absent (fresh h.mem_names hnames) habsent, ih (List.nodup_cons.1 hnames).2]
  | refused hread hms =>
    rw [ofMembers_present (fresh hms hnames), hread]
    rfl

variable {v : Value} {a : α} {row : Row αs} {name : String} {d : Decoder α}

theorem InOrder.field (hread : f.decode src (.ofValue v) = .ok a)
    (h : InOrder src fs ms (.ok row)) :
    InOrder src (.cons f fs) ((f.name, v) :: ms) (.ok (.cons a row)) :=
  .present hread h

/-- A member that is always written. -/
theorem InOrder.required (hread : d src (.ofValue v) = .ok a) (h : InOrder src fs ms r) :
    InOrder src (.cons (.required name d) fs) ((name, v) :: ms) (r.map (.cons a)) :=
  .present (f := .required name d) hread h

/-- A member that may be left out. -/
theorem InOrder.presentMember {o : Option α} {g : α → Value}
    (hread : ∀ a ∈ o, d src (.ofValue (g a)) = .ok a) (hnull : ∀ a ∈ o, g a ≠ .null)
    (h : InOrder src fs ms r) :
    InOrder src (.cons (.omissible name d) fs) (presentMember name (o.map g) ++ ms)
      (r.map (.cons o)) := by
  cases o with
  | none => exact .absent rfl h
  | some a =>
    have hfilled : d.nullable src (.ofValue (g a)) = .ok (some a) := by
      rw [Decoder.nullable_ofValue (hnull a rfl), hread a rfl]
      rfl
    exact .present (f := .omissible name d) hfilled h

theorem InOrder.omissible {o : Option α} {g : α → Value}
    (hread : ∀ a ∈ o, d src (.ofValue (g a)) = .ok a) (hnull : ∀ a ∈ o, g a ≠ .null)
    (h : InOrder src fs ms (.ok row)) :
    InOrder src (.cons (.omissible name d) fs) (Json.presentMember name (o.map g) ++ ms)
      (.ok (.cons o row)) :=
  .presentMember hread hnull h

/-- An array that may be left out when it is empty. -/
theorem InOrder.items {d : Decoder (List α)} {g : α → Value} {as : List α}
    (hread : d src (.ofValue (.array (as.map g))) = .ok as) (h : InOrder src fs ms (.ok row)) :
    InOrder src (.cons (.defaulted name d []) fs) (presentItems name (as.map g) ++ ms)
      (.ok (.cons as row)) := by
  cases as with
  | nil => exact .absent rfl h
  | cons a as => exact .present (f := .defaulted name d []) hread h

end Fields

namespace Decoder

variable {αs : List Type} {fs : Fields αs} {ms : List (String × Value)} {β : Type}

/-- A record is read field by field, if it can be gone into. -/
theorem record_of_inOrder {name : String} {make : Row αs → β} {src inner : Source}
    (henter : src.enter = .ok inner) {r : Except Error (Row αs)} (h : fs.InOrder inner ms r)
    (hnames : fs.names.Nodup) :
    record name fs make src (.ofValue (.object ms)) = r.map make := by
  show (src.enter >>= fun src => fs.ofMembers src (Node.ofMembers ms) .closed).map make = _
  rw [henter]
  show (fs.ofMembers inner (Node.ofMembers ms) .closed).map make = _
  rw [Fields.ofMembers_of_inOrder h hnames]

theorem ReadsBack.record {name : String} {make : Row αs → β} {k : Nat} {b : β} (row : Row αs)
    (hmake : make row = b) (h : ∀ src : Source, src.Admits k → fs.InOrder src ms (.ok row))
    (hnames : fs.names.Nodup) : (record name fs make).ReadsBack (k + 1) (.object ms) b := by
  intro src hsrc
  obtain ⟨inner, henter, hinner⟩ := Source.enter_of_admits hsrc
  rw [← hmake]
  exact record_of_inOrder henter (h inner hinner) hnames

end Decoder

end PageScan.Json
