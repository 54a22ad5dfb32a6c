import PageScan.Proofs.Json.Plain

/-!
# Normal values

In a normal value the members of each object stand in the order of their keys, and each key stands
once.

* `valuesOf_sortMembers`: which member of each key stays when members are sorted.
* `normal_normal`: normal values stay as they are.
* `depth_normal_le`, `numbers_normal_subset`: a value gets no deeper when it is made normal, and
  gains no number.
* `FromText`, `fromText_of_decodeText`: what a value that is read from a text is like.
-/

namespace PageScan.Json

/-- The members stand in the order of their keys. -/
def SortedKeys (members : List (String × Value)) : Prop :=
  members.Pairwise fun m m' => m.1 < m'.1

section Members

variable {key : String} {value : Value} {members : List (String × Value)}

theorem mem_insertMember {m : String × Value} (h : m ∈ insertMember key value members) :
    m = (key, value) ∨ m ∈ members := by
  induction members with
  | nil => exact .inl (List.mem_singleton.1 h)
  | cons m' ms ih => grind [insertMember]

theorem SortedKeys.insertMember (h : SortedKeys members) :
    SortedKeys (insertMember key value members) := by
  induction members with
  | nil => exact List.pairwise_singleton _ _
  | cons m ms ih =>
    obtain ⟨hm, hms⟩ := List.pairwise_cons.1 h
    unfold Json.insertMember
    split
    · next hlt =>
      refine List.pairwise_cons.2 ⟨List.forall_mem_cons.2 ⟨hlt, fun m' hm' => ?_⟩, h⟩
      exact String.lt_trans hlt (hm m' hm')
    · next hlt =>
      split
      · next heq =>
        subst heq
        exact List.pairwise_cons.2 ⟨hm, hms⟩
      · next hne =>
        refine List.pairwise_cons.2 ⟨fun m' hm' => ?_, ih hms⟩
        rcases mem_insertMember hm' with rfl | hm'
        · dsimp only
          grind
        · exact hm m' hm'

theorem insertMember_of_lt (h : ∀ m ∈ members, m.1 < key) :
    insertMember key value members = members ++ [(key, value)] := by
  induction members with
  | nil => rfl
  | cons m ms ih =>
    obtain ⟨hm, hms⟩ := List.forall_mem_cons.1 h
    rw [insertMember, if_neg (String.lt_asymm hm), if_neg fun heq => by simp_all, ih hms,
      List.cons_append]

theorem mem_foldl_insertMember {m : String × Value} {sorted : List (String × Value)}
    (h : m ∈ members.foldl (fun sorted m => insertMember m.1 m.2 sorted) sorted) :
    m ∈ sorted ∨ m ∈ members := by
  induction members generalizing sorted with
  | nil => exact .inl h
  | cons m' ms ih =>
    rcases ih h with h | h
    · rcases mem_insertMember h with rfl | h
      · exact .inr List.mem_cons_self
      · exact .inl h
    · exact .inr (List.mem_cons_of_mem m' h)

theorem mem_sortMembers {m : String × Value} (h : m ∈ sortMembers members) : m ∈ members :=
  (mem_foldl_insertMember h).resolve_left List.not_mem_nil

theorem sortedKeys_sortMembers (members : List (String × Value)) :
    SortedKeys (sortMembers members) :=
  List.foldlRecOn members _ .nil fun _ hsorted _ _ => SortedKeys.insertMember hsorted

theorem foldl_insertMember_of_sortedKeys {sorted : List (String × Value)}
    (h : SortedKeys (sorted ++ members)) :
    members.foldl (fun sorted m => insertMember m.1 m.2 sorted) sorted = sorted ++ members := by
  induction members generalizing sorted with
  | nil => exact (List.append_nil sorted).symm
  | cons m ms ih =>
    have hlt : ∀ m' ∈ sorted, m'.1 < m.1 := fun m' hm' =>
      (List.pairwise_append.1 h).2.2 m' hm' m List.mem_cons_self
    rw [List.append_cons] at h ⊢
    rw [List.foldl_cons, insertMember_of_lt hlt]
    exact ih h

theorem sortMembers_of_sortedKeys (h : SortedKeys members) : sortMembers members = members := by
  have hsorted : SortedKeys ([] ++ members) := h
  exact foldl_insertMember_of_sortedKeys hsorted

end Members

/-! ## The values of a key -/

/-- The values that stand under that key. -/
def valuesOf (key : String) (members : List (String × Value)) : List Value :=
  (members.filter fun m => m.1 = key).map Prod.snd

section ValuesOf

variable {key k : String} {v : Value} {members : List (String × Value)}

theorem valuesOf_cons_of_eq (h : k = key) :
    valuesOf key ((k, v) :: members) = v :: valuesOf key members := by
  simp [valuesOf, h]

theorem valuesOf_cons_of_ne (h : k ≠ key) :
    valuesOf key ((k, v) :: members) = valuesOf key members := by
  simp [valuesOf, h]

theorem valuesOf_eq_nil (h : ∀ m ∈ members, m.1 ≠ key) : valuesOf key members = [] := by
  simpa [valuesOf] using h

theorem valuesOf_map_normal (key : String) (members : List (String × Value)) :
    valuesOf key (members.map fun m => (m.1, m.2.normal)) =
      (valuesOf key members).map Value.normal := by
  rw [valuesOf, List.filter_map, List.map_map, valuesOf, List.map_map]
  rfl

theorem valuesOf_cons_alone (h : ∀ m ∈ members, k ≠ m.1) :
    valuesOf key ((k, v) :: members) = if k = key then [v] else valuesOf key members := by
  split
  · next hk =>
    rw [valuesOf_cons_of_eq hk, valuesOf_eq_nil fun m hm => hk ▸ (h m hm).symm]
  · next hk => rw [valuesOf_cons_of_ne hk]

/-- A member that is put among sorted ones is the only one of its key. -/
theorem valuesOf_insertMember (h : SortedKeys members) :
    valuesOf key (insertMember k v members) = if k = key then [v] else valuesOf key members := by
  induction members with
  | nil => exact valuesOf_cons_alone nofun
  | cons m ms ih =>
    obtain ⟨k', v'⟩ := m
    obtain ⟨hfirst, hms⟩ := List.pairwise_cons.1 h
    have hbehind : ∀ m ∈ ms, k' ≠ m.1 := fun m hm => String.ne_of_lt (hfirst m hm)
    unfold insertMember
    split
    · next hlt =>
      refine valuesOf_cons_alone (List.forall_mem_cons.2 ⟨String.ne_of_lt hlt, fun m hm => ?_⟩)
      exact String.ne_of_lt (String.lt_trans hlt (hfirst m hm))
    · split
      · next heq =>
        subst heq
        rw [valuesOf_cons_alone hbehind, valuesOf_cons_alone hbehind]
        split <;> rfl
      · next hne =>
        by_cases hk' : k' = key
        · have hk : k ≠ key := fun hk => hne (hk.trans hk'.symm)
          rw [valuesOf_cons_of_eq hk', valuesOf_cons_of_eq hk', ih hms, if_neg hk, if_neg hk]
        · rw [valuesOf_cons_of_ne hk', valuesOf_cons_of_ne hk', ih hms]

theorem valuesOf_foldl_insertMember {sorted : List (String × Value)} (h : SortedKeys sorted) :
    valuesOf key (members.foldl (fun sorted m => insertMember m.1 m.2 sorted) sorted) =
      (valuesOf key members).foldl (fun _ v => [v]) (valuesOf key sorted) := by
  induction members generalizing sorted with
  | nil => rfl
  | cons m ms ih =>
    rw [List.foldl_cons, ih h.insertMember, valuesOf_insertMember h]
    by_cases hm : m.1 = key
    · rw [if_pos hm, valuesOf_cons_of_eq hm, List.foldl_cons]
    · rw [if_neg hm, valuesOf_cons_of_ne hm]

/-- The last one stays of the values of a key. -/
theorem valuesOf_sortMembers (key : String) (members : List (String × Value)) :
    valuesOf key (sortMembers members) = (valuesOf key members).foldl (fun _ v => [v]) [] :=
  valuesOf_foldl_insertMember .nil

end ValuesOf

/-! ## Normal values -/

theorem normalItems_eq_map (items : List Value) : normalItems items = items.map Value.normal := by
  induction items with
  | nil => rfl
  | cons v vs ih => rw [normalItems, ih, List.map_cons]

theorem normalMembers_eq_map (members : List (String × Value)) :
    normalMembers members = members.map fun m => (m.1, m.2.normal) := by
  induction members with
  | nil => rfl
  | cons m ms ih => rw [normalMembers, ih, List.map_cons]

namespace Value

theorem normal_array (items : List Value) :
    (array items).normal = .array (items.map normal) := by
  rw [normal, normalItems_eq_map]

theorem normal_object (members : List (String × Value)) :
    (object members).normal = .object (sortMembers (members.map fun m => (m.1, m.2.normal))) := by
  rw [normal, normalMembers_eq_map]

/-- Members of a normal object come from members of the object. -/
theorem exists_of_mem_normal {members : List (String × Value)} {m : String × Value}
    (h : m ∈ sortMembers (members.map fun m => (m.1, m.2.normal))) :
    ∃ m' ∈ members, m = (m'.1, m'.2.normal) := by
  obtain ⟨m', hm', rfl⟩ := List.mem_map.1 (mem_sortMembers h)
  exact ⟨m', hm', rfl⟩

theorem normal_object_of_sortedKeys {members : List (String × Value)}
    (hsorted : SortedKeys members) (hmembers : ∀ m ∈ members, m.2.normal = m.2) :
    (object members).normal = .object members := by
  have hmap : (members.map fun m => (m.1, m.2.normal)) = members.map id :=
    List.map_congr_left fun m hm => Prod.ext rfl (hmembers m hm)
  rw [normal_object, hmap, List.map_id, sortMembers_of_sortedKeys hsorted]

theorem normal_normal (v : Value) : v.normal.normal = v.normal := by
  induction v using Value.induction with
  | null | bool | number | string => rfl
  | array items ih =>
    rw [normal_array, normal_array, List.map_map]
    exact congrArg array (List.map_congr_left ih)
  | object members ih =>
    rw [normal_object]
    refine normal_object_of_sortedKeys (sortedKeys_sortMembers _) fun m hm => ?_
    obtain ⟨m', hm', rfl⟩ := exists_of_mem_normal hm
    exact ih m' hm'

theorem depth_normal_le (v : Value) : v.normal.depth ≤ v.depth := by
  induction v using Value.induction with
  | null | bool | number | string => exact Nat.le_refl _
  | array items ih =>
    rw [normal_array, depth, depth]
    refine Nat.succ_le_succ (depthOfItems_le_iff.2 fun v hv => ?_)
    obtain ⟨v', hv', rfl⟩ := List.mem_map.1 hv
    exact Nat.le_trans (ih v' hv') (depthOfItems_le_iff.1 (Nat.le_refl _) v' hv')
  | object members ih =>
    rw [normal_object, depth, depth]
    refine Nat.succ_le_succ (depthOfMembers_le_iff.2 fun m hm => ?_)
    obtain ⟨m', hm', rfl⟩ := exists_of_mem_normal hm
    exact Nat.le_trans (ih m' hm') (depthOfMembers_le_iff.1 (Nat.le_refl _) m' hm')

theorem numbers_normal_subset (v : Value) : v.normal.numbers ⊆ v.numbers := by
  induction v using Value.induction with
  | null | bool | number | string => exact List.Subset.refl _
  | array items ih =>
    rw [normal_array, numbers, numbers, numbersOfItems_eq, numbersOfItems_eq]
    intro n hn
    obtain ⟨v, hv, hn⟩ := List.mem_flatMap.1 hn
    obtain ⟨v', hv', rfl⟩ := List.mem_map.1 hv
    exact List.mem_flatMap.2 ⟨v', hv', ih v' hv' hn⟩
  | object members ih =>
    rw [normal_object, numbers, numbers, numbersOfMembers_eq, numbersOfMembers_eq]
    intro n hn
    obtain ⟨m, hm, hn⟩ := List.mem_flatMap.1 hn
    obtain ⟨m', hm', rfl⟩ := exists_of_mem_normal hm
    exact List.mem_flatMap.2 ⟨m', hm', ih m' hm' hn⟩

theorem sortedKeys_of_normal {members : List (String × Value)}
    (h : (object members).normal = .object members) : SortedKeys members := by
  rw [normal_object] at h
  rw [← object.inj h]
  exact sortedKeys_sortMembers _

theorem normal_of_mem {members : List (String × Value)}
    (h : (object members).normal = .object members) : ∀ m ∈ members, m.2.normal = m.2 := by
  intro m hm
  rw [normal_object] at h
  rw [← object.inj h] at hm
  obtain ⟨m', -, rfl⟩ := exists_of_mem_normal hm
  exact normal_normal m'.2

/-! ## What is read from a text -/

/-- The value is like one that is read from a text: it is normal, its integers fit in 64 bits, and
it nests no deeper than what is read may nest. -/
structure FromText (v : Value) : Prop where
  normal : v.normal = v
  numbers : ∀ n ∈ v.numbers, n.InRange
  depth : v.depth < depthLimit

/-- Members may be taken out. -/
theorem FromText.filter {members : List (String × Value)} (h : (object members).FromText)
    (keep : String × Value → Bool) : (object (members.filter keep)).FromText where
  normal := normal_object_of_sortedKeys ((sortedKeys_of_normal h.normal).filter keep)
    fun m hm => normal_of_mem h.normal m (List.mem_filter.1 hm).1
  numbers n hn := by
    refine h.numbers n ?_
    rw [Value.numbers, numbersOfMembers_eq] at hn ⊢
    obtain ⟨m, hm, hn⟩ := List.mem_flatMap.1 hn
    exact List.mem_flatMap.2 ⟨m, (List.mem_filter.1 hm).1, hn⟩
  depth := by
    refine Nat.lt_of_le_of_lt (Nat.succ_le_succ (depthOfMembers_le_iff.2 fun m hm => ?_)) h.depth
    exact depthOfMembers_le_iff.1 (Nat.le_refl _) m (List.mem_filter.1 hm).1

theorem fromText_of_decodeText {text : String} {v : Value}
    (h : Decoder.any.decodeText text = .ok v) : v.FromText := by
  obtain ⟨read, hread, hv⟩ := Node.bind_eq_ok.1 h
  obtain ⟨v', hplain, rfl⟩ : ∃ v', (Node.ofText text).1.plain (.text depthLimit) = .ok v' ∧
      v'.normal = v := by
    split at hv
    · cases hv
    · cases hv
      exact Node.map_eq_ok.1 hread
  have hscalars : (Node.ofText text).1.All Scalar.InRange :=
    Node.all_ofText fun x hx => inRange_of_mem_tokens hx
  have hzero : (Source.text depthLimit).Admits 0 := Nat.zero_lt_succ _
  have hdepth := Node.admits_of_plain hzero hplain
  exact ⟨normal_normal v',
    fun n hn => Node.numbers_of_plain hscalars hplain n (numbers_normal_subset v' hn),
    Nat.lt_of_le_of_lt (depth_normal_le v') hdepth⟩

end Value

end PageScan.Json
