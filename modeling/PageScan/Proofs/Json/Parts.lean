import PageScan.Proofs.Json.Steady

/-!
# What records are read from

A record is read from an object or from an array. Either way each of its fields is read from the
documents that come for it: those under its name, or the one at its place.

* `Node.Parts`: the documents that come for each name.
* `Decoder.Skips`: what a decoder reads, one who does not want it can skip.
* `Decoder.record_eq_ok_iff`: what is read of a text as a record, field by field.
* `Node.Optional`: what stands for something that may be null or left out.
-/

namespace PageScan.Json

open Node (bind_eq_ok map_eq_ok mapM_eq_ok_iff)

/-! ## Parts of a document -/

namespace Node

/-- The documents that come for each of the names, which are those of the items if the document is
an array. -/
inductive Parts (names : List String) : Node → List (List Node) → Prop
  | named {members : List (Key × Node)} (hmembers : ∀ member ∈ members, Skippable member) :
    Parts names (.object members .closed) (names.map fun name => nodesOf name members)
  | placed {items : List Node} (hlength : items.length = names.length) :
    Parts names (.array items .closed) (items.map fun n => [n])

theorem skipItems_eq_ok {items : List Node} (h : ∀ n ∈ items, n.skip = .ok ()) :
    skipItems items = .ok () := by
  induction items with
  | nil => rfl
  | cons n items ih =>
    obtain ⟨hn, hitems⟩ := List.forall_mem_cons.1 h
    exact bind_eq_ok.2 ⟨(), hn, ih hitems⟩

theorem skipMembers_eq_ok {members : List (Key × Node)}
    (h : ∀ member ∈ members, Skippable member) : skipMembers members = .ok () := by
  induction members with
  | nil => rfl
  | cons member members ih =>
    obtain ⟨hmember, hmembers⟩ := List.forall_mem_cons.1 h
    exact bind_eq_ok.2 ⟨(), hmember.2, ih hmembers⟩

/-- The document is that natural number, of so many bits. -/
def IsNatural (bits : Nat) (n : Node) (k : Nat) : Prop :=
  n = .scalar (.number (.ok (.int k))) ∧ k < 2 ^ bits

/-- The document is that integer, of so many bits with its sign. -/
def IsInteger (bits : Nat) (n : Node) (i : Int) : Prop :=
  n = .scalar (.number (.ok (.int i))) ∧ -2 ^ (bits - 1) ≤ i ∧ i < 2 ^ (bits - 1)

/-- The document is that text. -/
def IsText (n : Node) (s : String) : Prop :=
  n = .scalar (.string (.ok s))

/-- The document is that value, with the members of its objects sorted. -/
def IsValue (src : Source) (n : Node) (v : Value) : Prop :=
  ∃ w, n.plain src = .ok w ∧ w.normal = v

/-- What stands for something that may be null or left out. -/
inductive Optional {α : Type} (p : Node → α → Prop) : List Node → Option α → Prop
  | absent : Optional p [] none
  | null : Optional p [.scalar .null] none
  | present {n : Node} {a : α} (h : p n a) (hnull : n ≠ .scalar .null) : Optional p [n] (some a)

theorem optional_congr {α : Type} {p q : Node → α → Prop} (h : ∀ {n a}, p n a ↔ q n a)
    {ns : List Node} {o : Option α} : Optional p ns o ↔ Optional q ns o := by
  constructor <;> rintro (_ | _ | ⟨hn, hnull⟩)
  · exact .absent
  · exact .null
  · exact .present (h.1 hn) hnull
  · exact .absent
  · exact .null
  · exact .present (h.2 hn) hnull

end Node

/-! ## Decoders of what can be skipped -/

namespace Decoder

variable {α β : Type} {d : Decoder α}

/-- What is read of a text can be skipped. -/
def Skips (d : Decoder α) : Prop :=
  ∀ depth n a, d (.text depth) n = .ok a → n.skip = .ok ()

theorem skips_string : string.Skips := by
  intro depth n s h
  rw [eq_of_string_eq_ok h]
  rfl

theorem eq_of_integer_eq_ok {low high i : Int} {name : String} {src : Source} {n : Node}
    (h : integer low high name src n = .ok i) :
    n = .scalar (.number (.ok (.int i))) ∧ low ≤ i ∧ i ≤ high := by
  cases n with
  | scalar x =>
    cases x with
    | number m =>
      match m, h with
      | .ok (.int j), h =>
        have hrange : (if low ≤ j ∧ j ≤ high then .ok j else
            .error (.mismatch (.invalidValue (.number (.int j)) name)) : Except Error Int) =
          .ok i := h
        split at hrange
        · next hj =>
          cases hrange
          exact ⟨rfl, hj⟩
        · cases hrange
    | null | bool => cases h
    | string t => cases t <;> cases h
  | _ => cases h

theorem integer_eq_ok_iff {low high i : Int} {name : String} {src : Source} {n : Node} :
    integer low high name src n = .ok i ↔
      n = .scalar (.number (.ok (.int i))) ∧ low ≤ i ∧ i ≤ high := by
  refine ⟨eq_of_integer_eq_ok, ?_⟩
  rintro ⟨rfl, hrange⟩
  exact if_pos hrange

theorem natural_eq_ok_iff {bits k : Nat} {name : String} {src : Source} {n : Node} :
    natural bits name src n = .ok k ↔ n.IsNatural bits k := by
  have hpos : 0 < 2 ^ bits := Nat.two_pow_pos bits
  rw [natural, map_eq_ok, Node.IsNatural]
  simp only [integer_eq_ok_iff, Nat.pow_eq]
  constructor
  · rintro ⟨i, ⟨rfl, hlow, hhigh⟩, rfl⟩
    rw [Int.toNat_of_nonneg hlow]
    exact ⟨rfl, by omega⟩
  · rintro ⟨rfl, hk⟩
    exact ⟨k, ⟨rfl, by omega, by omega⟩, Int.toNat_natCast k⟩

theorem string_eq_ok_iff {src : Source} {n : Node} {s : String} :
    string src n = .ok s ↔ n.IsText s :=
  ⟨eq_of_string_eq_ok, fun h => by rw [show n = .scalar (.string (.ok s)) from h]; rfl⟩

theorem any_eq_ok_iff {src : Source} {n : Node} {v : Value} :
    any src n = .ok v ↔ n.IsValue src v := by
  rw [any, map_eq_ok, Node.IsValue]

theorem i64_eq_ok_iff {src : Source} {n : Node} {i : Int} :
    i64 src n = .ok i ↔ n.IsInteger 64 i := by
  rw [i64, integer_eq_ok_iff, Node.IsInteger]
  refine and_congr_right fun _ => ?_
  omega

theorem skips_integer (low high : Int) (name : String) : (integer low high name).Skips := by
  intro depth n i h
  rw [(eq_of_integer_eq_ok h).1]
  rfl

theorem skips_natural (bits : Nat) (name : String) : (natural bits name).Skips := by
  intro depth n k h
  rw [(natural_eq_ok_iff.1 h).1]
  rfl

theorem skips_any : any.Skips := by
  intro depth n v h
  obtain ⟨v, hplain, -⟩ := map_eq_ok.1 h
  exact Node.skip_of_plain hplain

theorem Skips.nullable (h : d.Skips) : d.nullable.Skips := by
  intro depth n o ho
  match n, ho with
  | .scalar x, _ => rfl
  | .array items stop, ho | .object members stop, ho =>
    obtain ⟨a, ha, -⟩ := map_eq_ok.1 ho
    exact h _ _ _ ha
  | .broken what strict lenient, ho =>
    cases what with
    | null => cases ho
    | _ =>
      obtain ⟨a, ha, -⟩ := map_eq_ok.1 ho
      exact h _ _ _ ha

/-- What is null is nothing, and anything else is read as it is. -/
theorem nullable_eq_ok_iff (h : d.Skips) {depth : Nat} {n : Node} {o : Option α} :
    d.nullable (.text depth) n = .ok o ↔
      n = .scalar .null ∧ o = none ∨
        n ≠ .scalar .null ∧ ∃ a, d (.text depth) n = .ok a ∧ o = some a := by
  have hother (hn : n ≠ .scalar .null)
      (heq : d.nullable (.text depth) n = (d (.text depth) n).map some) :
      d.nullable (.text depth) n = .ok o ↔
        n = .scalar .null ∧ o = none ∨
          n ≠ .scalar .null ∧ ∃ a, d (.text depth) n = .ok a ∧ o = some a := by
    rw [heq, map_eq_ok]
    simp [hn, eq_comm]
  match n with
  | .scalar .null => exact ⟨fun h => .inl ⟨rfl, (Except.ok.inj h).symm⟩, by simp +contextual [Decoder.nullable]⟩
  | .scalar (.bool _) | .scalar (.number _) | .scalar (.string _) | .array _ _ | .object _ _ =>
    exact hother nofun rfl
  | .broken what strict lenient =>
    cases what with
    | null =>
      refine ⟨nofun, ?_⟩
      rintro (⟨⟨⟩, -⟩ | ⟨-, a, ha, -⟩)
      cases h _ _ _ ha
    | _ => exact hother nofun rfl

end Decoder

/-! ## Fields and their documents -/

namespace Field

variable {α : Type} {f : Field α} {d : Decoder α} {src : Source} {name : String} {ns : List Node}

theorem takes_iff {a : α} : f.Takes src ns a ↔
    ns = [] ∧ f.absent? = some a ∨ ∃ n, ns = [n] ∧ f.decode src n = .ok a := by
  constructor
  · rintro (h | h)
    · exact .inl ⟨rfl, h⟩
    · exact .inr ⟨_, rfl, h⟩
  · rintro (⟨rfl, h⟩ | ⟨n, rfl, h⟩)
    · exact .absent h
    · exact .present h

theorem takes_required_iff {a : α} :
    (required name d).Takes src ns a ↔ ∃ n, ns = [n] ∧ d src n = .ok a := by
  simp [takes_iff, required]

theorem takes_optional_iff (h : d.Skips) {depth : Nat} {o : Option α} :
    (optional name d).Takes (.text depth) ns o ↔
      Node.Optional (fun n a => d (.text depth) n = .ok a) ns o := by
  have hdecode (n : Node) : (optional name d).decode (.text depth) n = .ok o ↔
      n = .scalar .null ∧ o = none ∨
        n ≠ .scalar .null ∧ ∃ a, d (.text depth) n = .ok a ∧ o = some a :=
    Decoder.nullable_eq_ok_iff h
  constructor
  · rintro (habsent | hread)
    · cases habsent
      exact .absent
    · obtain ⟨rfl, rfl⟩ | ⟨hnull, a, ha, rfl⟩ := (hdecode _).1 hread
      · exact .null
      · exact .present ha hnull
  · rintro (_ | _ | ⟨ha, hnull⟩)
    · exact .absent rfl
    · exact .present ((hdecode _).2 (.inl ⟨rfl, rfl⟩))
    · exact .present ((hdecode _).2 (.inr ⟨hnull, _, ha, rfl⟩))

end Field

namespace Fields

variable {α : Type} {αs : List Type} {src : Source} {f : Field α} {fs : Fields αs}
  {members : List (Key × Node)} {slots slots' : Slots αs} {row : Row αs}

/-- Each field is read by a decoder of what can be skipped. -/
def Skips : {αs : List Type} → Fields αs → Prop
  | _, .nil => True
  | _, .cons f fs => f.decode.Skips ∧ fs.Skips

/-- The last field has to come in an array. -/
def Demands : {αs : List Type} → Fields αs → Prop
  | _, .nil => True
  | _, .cons f .nil => f.beyond? = Option.none
  | _, .cons _ (.cons f fs) => (Fields.cons f fs).Demands

/-- Each field takes the documents that come for it. -/
def Take (src : Source) : {αs : List Type} → Fields αs → List (List Node) → Row αs → Prop
  | _, .nil, [], _ => True
  | _, .cons f fs, ns :: parts, (a, row) => f.Takes src ns a ∧ Take src fs parts row
  | _, _, _, _ => False

theorem exists_of_take_cons {parts : List (List Node)} {a : α}
    (h : (Fields.cons f fs).Take src parts (a, row)) :
    ∃ ns rest, parts = ns :: rest ∧ f.Takes src ns a ∧ fs.Take src rest row := by
  cases parts with
  | nil => cases h
  | cons ns rest => exact ⟨ns, rest, rfl, h⟩

theorem eq_nil_of_take {parts : List (List Node)} {row : Row []}
    (h : Fields.nil.Take src parts row) : parts = [] := by
  cases parts with
  | nil => rfl
  | cons => cases h

theorem feed_skips (h : fs.Skips) {depth : Nat} {key : String} {n : Node}
    (hcome : fs.hasCome? key slots = some false)
    (hfeed : feed (.text depth) key n fs slots = .ok slots') : n.skip = .ok () := by
  induction fs with
  | nil => cases hcome
  | cons f fs ih =>
    obtain ⟨slot, slots, rfl⟩ := exists_slots_cons slots
    by_cases hname : f.name = key
    · rw [feed_cons_of_eq hname, map_eq_ok] at hfeed
      obtain ⟨a, ha, -⟩ := hfeed
      exact h.1 _ _ _ ha
    · rw [feed_cons_of_ne hname, map_eq_ok] at hfeed
      rw [hasCome?_cons_of_ne hname] at hcome
      obtain ⟨slots', hfeed, -⟩ := hfeed
      exact ih h.2 hcome hfeed

/-- What is read as members can all be skipped: each is read for a field, or was skipped. -/
theorem feedAll_skips (h : fs.Skips) {depth : Nat}
    (hfeed : feedAll (.text depth) fs slots members = .ok slots') :
    ∀ member ∈ members, Skippable member := by
  induction members generalizing slots with
  | nil => nofun
  | cons member members ih =>
    obtain ⟨k, n⟩ := member
    obtain ⟨key, hkey, hfeed⟩ := bind_eq_ok.1 hfeed
    have hk : k = .ok key := by
      cases k with
      | error e => cases hkey
      | ok k =>
        cases hkey
        rfl
    refine List.forall_mem_cons.2 ⟨⟨⟨key, hk⟩, ?_⟩, ?_⟩
    all_goals
      rcases hcome : fs.hasCome? key slots with _ | _ | _ <;> rw [hcome] at hfeed
    · exact (bind_eq_ok.1 hfeed).choose_spec.1
    · obtain ⟨slots₁, hfirst, -⟩ := bind_eq_ok.1 hfeed
      exact feed_skips h hcome hfirst
    · cases hfeed
    · obtain ⟨⟨⟩, -, hrest⟩ := bind_eq_ok.1 hfeed
      exact ih hrest
    · obtain ⟨slots₁, -, hrest⟩ := bind_eq_ok.1 hfeed
      exact ih hrest
    · cases hfeed

theorem ofMembers_closed_eq_ok_iff (hnames : fs.names.Nodup)
    (hmembers : ∀ member ∈ members, Skippable member) :
    ofMembers src fs members .closed = .ok row ↔
      fs.Take src (fs.names.map fun name => nodesOf name members) row := by
  -- each field takes the members of its name and leaves the others to the rest
  induction fs with
  | nil => exact iff_of_true (ofMembers_nil hmembers) trivial
  | cons f fs ih =>
    obtain ⟨hname, hnames⟩ := List.nodup_cons.1 hnames
    obtain ⟨a, row, rfl⟩ := exists_row_cons row
    exact (ofMembers_cons_eq_ok_iff hname hmembers).trans (and_congr_right fun _ => ih hnames)

theorem ofMembers_eq_ok_iff (hnames : fs.names.Nodup) (hskips : fs.Skips) {depth : Nat}
    {stop : ObjectStop} :
    ofMembers (.text depth) fs members stop = .ok row ↔
      (∀ member ∈ members, Skippable member) ∧ stop = .closed ∧
        fs.Take (.text depth) (fs.names.map fun name => nodesOf name members) row := by
  constructor
  · intro h
    obtain rfl := closed_of_ofMembers h
    obtain ⟨slots, hfeed, -⟩ := bind_eq_ok.1 h
    have hmembers := feedAll_skips hskips hfeed
    exact ⟨hmembers, rfl, (ofMembers_closed_eq_ok_iff hnames hmembers).1 h⟩
  · rintro ⟨hmembers, rfl, htake⟩
    exact (ofMembers_closed_eq_ok_iff hnames hmembers).2 htake

/-- An array that is too short is no record if the last field has to come. -/
theorem ofItemsFrom_nil_ne_ok (h : (Fields.cons f fs).Demands) {expected : String}
    {stop : ArrayStop} {i : Nat} {r : Row (α :: αs) × List Node} :
    ofItemsFrom src expected stop (.cons f fs) i [] ≠ .ok r := by
  intro hread
  induction fs generalizing α f i with
  | nil =>
    obtain ⟨⟨⟩, -, hread⟩ := bind_eq_ok.1 hread
    rw [show f.beyond? = Option.none from h] at hread
    cases hread
  | cons g gs ih =>
    obtain ⟨⟨⟩, -, hread⟩ := bind_eq_ok.1 hread
    rcases hbeyond : f.beyond? with _ | a <;> rw [hbeyond] at hread
    · cases hread
    · obtain ⟨r, hrest, -⟩ := bind_eq_ok.1 hread
      exact ih h hrest

theorem Demands.tail (h : (Fields.cons f fs).Demands) : fs.Demands := by
  cases fs with
  | nil => trivial
  | cons => exact h

/-- The items of an array are read one for each field. -/
theorem ofItemsFrom_eq_ok_iff (h : fs.Demands) {expected : String} {stop : ArrayStop} {i : Nat}
    {items : List Node} :
    ofItemsFrom src expected stop fs i items = .ok (row, []) ↔
      items.length = fs.names.length ∧ fs.Take src (items.map fun n => [n]) row := by
  induction fs generalizing i items with
  | nil =>
    cases items with
    | nil => exact iff_of_true rfl ⟨rfl, trivial⟩
    | cons n items => exact ⟨nofun, nofun⟩
  | cons f fs ih =>
    obtain ⟨a, row, rfl⟩ := exists_row_cons row
    cases items with
    | nil => exact ⟨fun hread => absurd hread (ofItemsFrom_nil_ne_ok h), nofun⟩
    | cons n items =>
      have hlength : (n :: items).length = (Fields.cons f fs).names.length ↔
          items.length = fs.names.length := Nat.succ_inj
      have htake : (Fields.cons f fs).Take src ((n :: items).map fun n => [n]) (.cons a row) ↔
          f.decode src n = .ok a ∧ fs.Take src (items.map fun n => [n]) row :=
        and_congr_left fun _ => by simp [Field.takes_iff]
      rw [hlength, htake, and_left_comm, ← ih h.tail]
      constructor
      · intro hread
        obtain ⟨a', ha, hread⟩ := bind_eq_ok.1 hread
        obtain ⟨⟨row', rest⟩, hrest, hread⟩ := bind_eq_ok.1 hread
        cases hread
        exact ⟨ha, hrest⟩
      · rintro ⟨ha, hrest⟩
        exact bind_eq_ok.2 ⟨a, ha, bind_eq_ok.2 ⟨(row, []), hrest, rfl⟩⟩

theorem Take.skip {items : List Node} (hskips : fs.Skips) {depth : Nat}
    (h : fs.Take (.text depth) (items.map fun n => [n]) row) : ∀ n ∈ items, n.skip = .ok () := by
  induction fs generalizing items with
  | nil =>
    cases items with
    | nil => nofun
    | cons => cases h
  | cons f fs ih =>
    cases items with
    | nil => nofun
    | cons n items =>
      obtain ⟨a, row, rfl⟩ := exists_row_cons row
      cases h.1 with
      | present hread => exact List.forall_mem_cons.2 ⟨hskips.1 _ _ _ hread, ih hskips.2 h.2⟩

end Fields

/-! ## Records -/

theorem Source.enter_limit :
    (Source.text depthLimit).enter = .ok (.text (depthLimit - 1)) :=
  rfl

theorem Source.exists_of_enter_text {depth : Nat} {inner : Source}
    (h : (Source.text depth).enter = .ok inner) : ∃ depth', inner = .text depth' := by
  match depth, h with
  | d + 2, h =>
    cases h
    exact ⟨d + 1, rfl⟩

namespace Decoder

variable {αs : List Type} {fs : Fields αs} {β : Type} {name : String} {make : Row αs → β}
  {src inner : Source} {b : β}

theorem record_object_eq_ok_iff {members : List (Key × Node)} (henter : src.enter = .ok inner)
    (hnames : fs.names.Nodup) (hmembers : ∀ member ∈ members, Skippable member) :
    record name fs make src (.object members .closed) = .ok b ↔
      ∃ row, fs.Take inner (fs.names.map fun name => nodesOf name members) row ∧ make row = b := by
  have hrow : row ("struct " ++ name) fs src (.object members .closed) =
      fs.ofMembers inner members .closed := by
    show (src.enter >>= fun src => fs.ofMembers src members .closed) = _
    rw [henter]
    rfl
  rw [record, hrow, map_eq_ok]
  simp only [Fields.ofMembers_closed_eq_ok_iff hnames hmembers]

/-- A record is read of a text field by field, each field from the documents that come for it. -/
theorem record_eq_ok_iff {depth depth' : Nat} (henter : (Source.text depth).enter = .ok (.text depth'))
    (hnames : fs.names.Nodup) (hskips : fs.Skips) (hdemands : fs.Demands) {n : Node} :
    record name fs make (.text depth) n = .ok b ↔
      ∃ parts row, n.Parts fs.names parts ∧ fs.Take (.text depth') parts row ∧ make row = b := by
  rw [record, map_eq_ok]
  constructor
  · rintro ⟨r, hread, rfl⟩
    match n, hread with
    | .array items stop, hread =>
      obtain ⟨inner, henter', hread⟩ := bind_eq_ok.1 hread
      cases henter.symm.trans henter'
      obtain ⟨⟨r, rest⟩, hfields, hread⟩ := bind_eq_ok.1 hread
      obtain ⟨⟨⟩, hleft, hread⟩ := bind_eq_ok.1 hread
      cases hread
      obtain rfl := eq_nil_of_leftOver hleft
      obtain ⟨hlength, htake⟩ := (Fields.ofItemsFrom_eq_ok_iff hdemands).1 hfields
      cases stop with
      | closed => exact ⟨_, r, .placed hlength, htake, rfl⟩
      | _ => cases hleft
    | .object members stop, hread =>
      obtain ⟨inner, henter', hread⟩ := bind_eq_ok.1 hread
      cases henter.symm.trans henter'
      obtain ⟨hmembers, rfl, htake⟩ := (Fields.ofMembers_eq_ok_iff hnames hskips).1 hread
      exact ⟨_, r, .named hmembers, htake, rfl⟩
    | .scalar _, hread => cases hread
    | .broken _ _ _, hread => cases hread
  · rintro ⟨parts, r, hparts, htake, hmake⟩
    refine ⟨r, ?_, hmake⟩
    cases hparts with
    | named hmembers =>
      refine bind_eq_ok.2 ⟨_, henter, ?_⟩
      exact (Fields.ofMembers_eq_ok_iff hnames hskips).2 ⟨hmembers, rfl, htake⟩
    | placed hlength =>
      refine bind_eq_ok.2 ⟨_, henter, bind_eq_ok.2 ⟨(r, []), ?_, rfl⟩⟩
      exact (Fields.ofItemsFrom_eq_ok_iff hdemands).2 ⟨hlength, htake⟩

theorem skips_record (hnames : fs.names.Nodup) (hskips : fs.Skips) (hdemands : fs.Demands) :
    (record name fs make).Skips := by
  intro depth n b h
  cases henter : (Source.text depth).enter with
  | error e =>
    obtain ⟨r, hread, -⟩ := map_eq_ok.1 h
    match n, hread with
    | .array items stop, hread | .object members stop, hread =>
      obtain ⟨inner, henter', -⟩ := bind_eq_ok.1 hread
      cases henter.symm.trans henter'
    | .scalar _, _ => rfl
    | .broken _ _ _, hread => cases hread
  | ok inner =>
    obtain ⟨depth', rfl⟩ := Source.exists_of_enter_text henter
    obtain ⟨parts, r, hparts, htake, -⟩ := (record_eq_ok_iff henter hnames hskips hdemands).1 h
    cases hparts with
    | named hmembers => exact bind_eq_ok.2 ⟨(), Node.skipMembers_eq_ok hmembers, rfl⟩
    | placed => exact bind_eq_ok.2 ⟨(), Node.skipItems_eq_ok (htake.skip hskips), rfl⟩

end Decoder

end PageScan.Json
