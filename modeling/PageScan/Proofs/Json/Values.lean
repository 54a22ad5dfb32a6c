import PageScan.Proofs.Json.Numerals

/-!
# Values as trees

Induction over values, the numbers in a value, and how deep a value nests.
-/

namespace PageScan.Json

namespace Value

/-- Induction over values: of arrays and objects with the claim for what they hold. -/
theorem induction {P : Value → Prop} (null : P .null) (bool : ∀ b, P (.bool b))
    (number : ∀ n, P (.number n)) (string : ∀ s, P (.string s))
    (array : ∀ items, (∀ v ∈ items, P v) → P (.array items))
    (object : ∀ members, (∀ m ∈ members, P m.2) → P (.object members)) (v : Value) : P v :=
  Value.rec (motive_1 := P) (motive_2 := fun items => ∀ v ∈ items, P v)
    (motive_3 := fun members => ∀ m ∈ members, P m.2) (motive_4 := fun m => P m.2)
    null bool number string array object (by simp)
    (fun _ _ hv hvs => List.forall_mem_cons.2 ⟨hv, hvs⟩) (by simp)
    (fun _ _ hm hms => List.forall_mem_cons.2 ⟨hm, hms⟩) (fun _ _ hv => hv) v

mutual

/-- The numbers in a value. -/
def numbers : Value → List Number
  | .number n => [n]
  | .array items => numbersOfItems items
  | .object members => numbersOfMembers members
  | _ => []

/-- The numbers in the items of an array. -/
def numbersOfItems : List Value → List Number
  | [] => []
  | v :: vs => v.numbers ++ numbersOfItems vs

/-- The numbers in the members of an object. -/
def numbersOfMembers : List (String × Value) → List Number
  | [] => []
  | (_, v) :: ms => v.numbers ++ numbersOfMembers ms

end

mutual

/-- How deep a value nests: arrays and objects are one deeper than what they hold. -/
def depth : Value → Nat
  | .array items => depthOfItems items + 1
  | .object members => depthOfMembers members + 1
  | _ => 0

/-- The depth of the deepest item. -/
def depthOfItems : List Value → Nat
  | [] => 0
  | v :: vs => max v.depth (depthOfItems vs)

/-- The depth of the deepest member. -/
def depthOfMembers : List (String × Value) → Nat
  | [] => 0
  | (_, v) :: ms => max v.depth (depthOfMembers ms)

end

/-- Every number in the value comes back from what is written for it. -/
def Legible (v : Value) : Prop :=
  ∀ n ∈ v.numbers, n.ReadsBack

/-- The floats in a value, written as such. -/
def floats (v : Value) : List Float :=
  v.numbers.filterMap fun
    | .float x => some x
    | .int _ => none

theorem mem_floats {v : Value} {x : Float} : x ∈ v.floats ↔ .float x ∈ v.numbers := by
  rw [floats, List.mem_filterMap]
  constructor
  · rintro ⟨n, hn, hx⟩
    split at hx
    · cases hx
      exact hn
    · cases hx
  · exact fun hx => ⟨_, hx, rfl⟩

theorem numbersOfItems_eq (items : List Value) :
    numbersOfItems items = items.flatMap numbers := by
  induction items with
  | nil => rfl
  | cons v vs ih => rw [numbersOfItems, ih, List.flatMap_cons]

theorem numbersOfMembers_eq (members : List (String × Value)) :
    numbersOfMembers members = members.flatMap fun m => m.2.numbers := by
  induction members with
  | nil => rfl
  | cons m ms ih => rw [numbersOfMembers, ih, List.flatMap_cons]

@[simp]
theorem legible_null : Legible .null := by
  simp [Legible, numbers]

@[simp]
theorem legible_bool (b : Bool) : Legible (.bool b) := by
  simp [Legible, numbers]

@[simp]
theorem legible_string (s : String) : Legible (.string s) := by
  simp [Legible, numbers]

@[simp]
theorem legible_number {n : Number} : Legible (.number n) ↔ n.ReadsBack := by
  simp [Legible, numbers]

@[simp]
theorem legible_array {items : List Value} :
    Legible (.array items) ↔ ∀ v ∈ items, v.Legible := by
  simp only [Legible, numbers, numbersOfItems_eq, List.mem_flatMap]
  exact ⟨fun h v hv n hn => h n ⟨v, hv, hn⟩, fun h n ⟨v, hv, hn⟩ => h v hv n hn⟩

@[simp]
theorem legible_object {members : List (String × Value)} :
    Legible (.object members) ↔ ∀ m ∈ members, m.2.Legible := by
  simp only [Legible, numbers, numbersOfMembers_eq, List.mem_flatMap]
  exact ⟨fun h m hm n hn => h n ⟨m, hm, hn⟩, fun h n ⟨m, hm, hn⟩ => h m hm n hn⟩

theorem legible_ofNat {n : Nat} (h : n < 2 ^ 64) : Legible (.ofNat n) :=
  legible_number.2 (.of_nat h)

theorem legible_ofFloat {x : Float} (h : (Number.float x).ReadsBack) : Legible (.ofFloat x) := by
  rw [ofFloat, if_pos h.isFinite]
  exact legible_number.2 h

@[simp]
theorem legible_ofStrings (texts : List String) : Legible (.ofStrings texts) := by
  simp [ofStrings]

theorem forall_mem_presentMember {key : String} {value : Option Value}
    {P : String × Value → Prop} :
    (∀ m ∈ presentMember key value, P m) ↔ ∀ v ∈ value, P (key, v) := by
  cases value <;> simp [presentMember]

theorem forall_mem_presentItems {key : String} {items : List Value} {P : String × Value → Prop}
    (h : P (key, .array items)) : ∀ m ∈ presentItems key items, P m := by
  cases items with
  | nil => exact List.forall_mem_nil _
  | cons v vs => exact List.forall_mem_singleton.2 h

theorem depthOfItems_le_iff {items : List Value} {d : Nat} :
    depthOfItems items ≤ d ↔ ∀ v ∈ items, v.depth ≤ d := by
  induction items with
  | nil => simp [depthOfItems]
  | cons v vs ih => rw [depthOfItems, Nat.max_le, ih, List.forall_mem_cons]

theorem depthOfMembers_le_iff {members : List (String × Value)} {d : Nat} :
    depthOfMembers members ≤ d ↔ ∀ m ∈ members, m.2.depth ≤ d := by
  induction members with
  | nil => simp [depthOfMembers]
  | cons m ms ih => rw [depthOfMembers, Nat.max_le, ih, List.forall_mem_cons]

theorem depth_array_le_iff {items : List Value} {d : Nat} :
    (array items).depth ≤ d + 1 ↔ ∀ v ∈ items, v.depth ≤ d := by
  rw [depth, Nat.add_le_add_iff_right, depthOfItems_le_iff]

theorem depth_object_le_iff {members : List (String × Value)} {d : Nat} :
    (object members).depth ≤ d + 1 ↔ ∀ m ∈ members, m.2.depth ≤ d := by
  rw [depth, Nat.add_le_add_iff_right, depthOfMembers_le_iff]

@[simp]
theorem depth_string (s : String) : (string s).depth = 0 :=
  rfl

end Value

end PageScan.Json
