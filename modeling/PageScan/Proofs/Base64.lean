import Mathlib.Tactic.IntervalCases
import PageScan.Base64
import PageScan.Proofs.Text.Blank
import PageScan.Proofs.Text.Bytes

/-!
# Base64 reads what it writes, and nothing else

* `decodeFrom_encodeBytes`: what is written is read, group by group, whatever the offset.
* `encodeBytes_of_decodeFrom`: what is read is what would be written, group by group.
* `decode_eq_ok_iff`: hence as texts, in both directions.
* `trim_encode`: nothing that is written could be trimmed off.
-/

namespace PageScan.Base64

/-! ## What is written -/

theorem valueOf?_symbolOf {n : Nat} (h : n < 64) : valueOf? (symbolOf n) = some n := by
  interval_cases n <;> rfl

theorem symbolOf_ne_pad {n : Nat} (h : n < 64) : symbolOf n ≠ pad := by
  interval_cases n <;> decide

theorem valueAt_symbolOf {n : Nat} (h : n < 64) (offset : Nat) :
    valueAt (symbolOf n) offset = .ok n := by
  rw [valueAt, valueOf?_symbolOf h]

/-- A symbol is a letter, a digit or a sign. -/
theorem symbolOf_lt {n : Nat} (h : n < 64) : (symbolOf n).toNat < 128 ∧
    Text.isBlank (Char.ofNat (symbolOf n).toNat) = false := by
  interval_cases n <;> decide

theorem triple_split (a b c : UInt8) :
    triple (a.toNat / 4) (a.toNat % 4 * 16 + b.toNat / 16) (b.toNat % 16 * 4 + c.toNat / 64)
      (c.toNat % 64) = [a, b, c] := by
  have ha := a.toNat_lt
  have hb := b.toNat_lt
  have hc := c.toNat_lt
  have hfirst : a.toNat / 4 * 4 + (a.toNat % 4 * 16 + b.toNat / 16) / 16 = a.toNat := by omega
  have hsecond : (a.toNat % 4 * 16 + b.toNat / 16) % 16 * 16 +
      (b.toNat % 16 * 4 + c.toNat / 64) / 4 = b.toNat := by omega
  have hthird : (b.toNat % 16 * 4 + c.toNat / 64) % 4 * 64 + c.toNat % 64 = c.toNat := by omega
  rw [triple, hfirst, hsecond, hthird, UInt8.ofNat_toNat, UInt8.ofNat_toNat, UInt8.ofNat_toNat]

theorem decodeLast_one {x y : Nat} (hx : x < 64) (hy : y < 64) (hrest : y % 16 = 0)
    (offset : Nat) : decodeLast offset [symbolOf x, symbolOf y, pad, pad] =
      .ok [UInt8.ofNat (x * 4 + y / 16)] := by
  simp [decodeLast, symbolOf_ne_pad hx, symbolOf_ne_pad hy, valueAt_symbolOf hx,
    valueAt_symbolOf hy, hrest, bind, Except.bind]

theorem decodeLast_two {x y z : Nat} (hx : x < 64) (hy : y < 64) (hz : z < 64)
    (hrest : z % 4 = 0) (offset : Nat) :
    decodeLast offset [symbolOf x, symbolOf y, symbolOf z, pad] =
      .ok [UInt8.ofNat (x * 4 + y / 16), UInt8.ofNat (y % 16 * 16 + z / 4)] := by
  simp [decodeLast, symbolOf_ne_pad hx, symbolOf_ne_pad hy, symbolOf_ne_pad hz,
    valueAt_symbolOf hx, valueAt_symbolOf hy, valueAt_symbolOf hz, hrest, bind, Except.bind]

theorem decodeLast_three {x y z w : Nat} (hx : x < 64) (hy : y < 64) (hz : z < 64) (hw : w < 64)
    (offset : Nat) : decodeLast offset [symbolOf x, symbolOf y, symbolOf z, symbolOf w] =
      .ok (triple x y z w) := by
  simp [decodeLast, symbolOf_ne_pad hx, symbolOf_ne_pad hy, symbolOf_ne_pad hz,
    symbolOf_ne_pad hw, valueAt_symbolOf hx, valueAt_symbolOf hy, valueAt_symbolOf hz,
    valueAt_symbolOf hw, bind, Except.bind]

theorem decodeFrom_cons {x y z w : Nat} (hx : x < 64) (hy : y < 64) (hz : z < 64) (hw : w < 64)
    (offset : Nat) (e : UInt8) (rest : List UInt8) :
    decodeFrom offset (symbolOf x :: symbolOf y :: symbolOf z :: symbolOf w :: e :: rest) =
      (decodeFrom (offset + 4) (e :: rest)).map (triple x y z w ++ ·) := by
  simp only [decodeFrom, valueAt_symbolOf hx, valueAt_symbolOf hy, valueAt_symbolOf hz,
    valueAt_symbolOf hw]
  cases decodeFrom (offset + 4) (e :: rest) <;> rfl

theorem decodeFrom_encodeBytes (bytes : List UInt8) (offset : Nat) :
    decodeFrom offset (encodeBytes bytes) = .ok bytes := by
  fun_induction encodeBytes bytes generalizing offset with
  | case1 => rfl
  | case2 a =>
    have ha := a.toNat_lt
    have hfirst : a.toNat / 4 * 4 + a.toNat % 4 * 16 / 16 = a.toNat := by omega
    show decodeLast offset _ = _
    rw [decodeLast_one (by omega) (by omega) (by omega), hfirst, UInt8.ofNat_toNat]
  | case3 a b =>
    have ha := a.toNat_lt
    have hb := b.toNat_lt
    have hfirst : a.toNat / 4 * 4 + (a.toNat % 4 * 16 + b.toNat / 16) / 16 = a.toNat := by omega
    have hsecond : (a.toNat % 4 * 16 + b.toNat / 16) % 16 * 16 + b.toNat % 16 * 4 / 4 =
        b.toNat := by omega
    show decodeLast offset _ = _
    rw [decodeLast_two (by omega) (by omega) (by omega) (by omega), hfirst, hsecond,
      UInt8.ofNat_toNat, UInt8.ofNat_toNat]
  | case4 a b c rest ih =>
    have ha := a.toNat_lt
    have hb := b.toNat_lt
    have hc := c.toNat_lt
    rcases hrest : encodeBytes rest with _ | ⟨e, more⟩
    · have hnil : rest = [] := by
        have hread := ih offset
        rw [hrest] at hread
        exact (Except.ok.inj hread).symm
      show decodeLast offset _ = _
      rw [decodeLast_three (by omega) (by omega) (by omega) (by omega), triple_split, hnil]
    · rw [decodeFrom_cons (by omega) (by omega) (by omega) (by omega), ← hrest, ih, triple_split]
      rfl

theorem length_encodeBytes (bytes : List UInt8) : (encodeBytes bytes).length % 4 = 0 := by
  fun_induction encodeBytes bytes with
  | case1 => rfl
  | case2 | case3 => exact Nat.mod_self 4
  | case4 a b c rest ih =>
    simp only [List.length_cons]
    omega

theorem decodeBytes_encodeBytes (bytes : List UInt8) :
    decodeBytes (encodeBytes bytes) = .ok bytes := by
  have hlength := length_encodeBytes bytes
  rcases hlast : (encodeBytes bytes).getLast? with _ | b
  · rw [decodeBytes, hlast, ← decodeFrom_encodeBytes bytes 0, List.getLast?_eq_none_iff.1 hlast]
    rfl
  · rw [decodeBytes, hlast]
    dsimp only
    rw [if_neg (by omega), decodeFrom_encodeBytes]

/-- All symbols are bytes below 128 and none of them is white space. -/
theorem encodeBytes_lt (bytes : List UInt8) : ∀ s ∈ encodeBytes bytes,
    s.toNat < 128 ∧ Text.isBlank (Char.ofNat s.toNat) = false := by
  have hpad : pad.toNat < 128 ∧ Text.isBlank (Char.ofNat pad.toNat) = false := by decide
  fun_induction encodeBytes bytes with
  | case1 => simp
  | case2 a =>
    have ha := a.toNat_lt
    simp only [List.forall_mem_cons]
    exact ⟨symbolOf_lt (by omega), symbolOf_lt (by omega), hpad, hpad, List.forall_mem_nil _⟩
  | case3 a b =>
    have ha := a.toNat_lt
    have hb := b.toNat_lt
    simp only [List.forall_mem_cons]
    exact ⟨symbolOf_lt (by omega), symbolOf_lt (by omega), symbolOf_lt (by omega), hpad,
      List.forall_mem_nil _⟩
  | case4 a b c rest ih =>
    have ha := a.toNat_lt
    have hb := b.toNat_lt
    have hc := c.toNat_lt
    simp only [List.forall_mem_cons]
    exact ⟨symbolOf_lt (by omega), symbolOf_lt (by omega), symbolOf_lt (by omega),
      symbolOf_lt (by omega), ih⟩

/-- What is written for bytes is read as those bytes. -/
theorem decode_encode (bytes : List UInt8) : decode (encode bytes) = .ok bytes := by
  have hsymbols := Text.utf8_ofList_bytes fun s hs => (encodeBytes_lt bytes s hs).1
  rw [Text.utf8] at hsymbols
  rw [decode, encode, hsymbols, decodeBytes_encodeBytes]

theorem trim_encode (bytes : List UInt8) : Text.trim (encode bytes) = encode bytes := by
  refine Text.trim_eq_self fun c hc => ?_
  rw [encode, String.toList_ofList] at hc
  obtain ⟨s, hs, rfl⟩ := List.mem_map.1 hc
  exact (encodeBytes_lt bytes s hs).2

/-! ## What is read -/

theorem symbolOf_of_valueOf? {b : UInt8} {n : Nat} (h : valueOf? b = some n) :
    n < 64 ∧ b = symbolOf n := by
  have hb : b = UInt8.ofNat b.toNat := UInt8.ofNat_toNat.symm
  rw [valueOf?] at h
  split_ifs at h with hcapital hsmall hdigit hplus hslash <;> cases h
  · refine ⟨by omega, ?_⟩
    rw [symbolOf, if_pos (by omega), Nat.add_sub_cancel' hcapital.1, ← hb]
  · refine ⟨by omega, ?_⟩
    rw [symbolOf, if_neg (by omega), if_pos (by omega), Nat.add_sub_cancel' (by omega), ← hb]
  · refine ⟨by omega, ?_⟩
    rw [symbolOf, if_neg (by omega), if_neg (by omega), if_pos (by omega), Nat.add_sub_cancel, ← hb]
  · exact ⟨by decide, by rw [hb, hplus]; rfl⟩
  · exact ⟨by decide, by rw [hb, hslash]; rfl⟩

/-- Where a symbol is read, it is the symbol of a value below 64. -/
theorem valueAt_bind_eq_ok {β : Type} {b : UInt8} {offset : Nat} {f : Nat → Except Error β}
    {r : β} :
    (valueAt b offset >>= f) = .ok r ↔ ∃ n < 64, b = symbolOf n ∧ f n = .ok r := by
  constructor
  · intro h
    rw [valueAt] at h
    rcases hvalue : valueOf? b with _ | n
    · rw [hvalue] at h
      cases h
    · rw [hvalue] at h
      obtain ⟨hlt, hsymbol⟩ := symbolOf_of_valueOf? hvalue
      exact ⟨n, hlt, hsymbol, h⟩
  · rintro ⟨n, hlt, rfl, h⟩
    rw [valueAt_symbolOf hlt]
    exact h

theorem toNat_ofNat_of_lt {n : Nat} (h : n < 256) : (UInt8.ofNat n).toNat = n :=
  UInt8.toNat_ofNat_of_lt' h

theorem encodeBytes_one {x y : Nat} (hx : x < 64) (hy : y < 64) (hrest : y % 16 = 0) :
    encodeBytes [UInt8.ofNat (x * 4 + y / 16)] = [symbolOf x, symbolOf y, pad, pad] := by
  have hfirst : (x * 4 + y / 16) / 4 = x := by omega
  have hsecond : (x * 4 + y / 16) % 4 * 16 = y := by omega
  rw [encodeBytes, toNat_ofNat_of_lt (by omega), hfirst, hsecond]

theorem encodeBytes_two {x y z : Nat} (hx : x < 64) (hy : y < 64) (hz : z < 64)
    (hrest : z % 4 = 0) :
    encodeBytes [UInt8.ofNat (x * 4 + y / 16), UInt8.ofNat (y % 16 * 16 + z / 4)] =
      [symbolOf x, symbolOf y, symbolOf z, pad] := by
  have hfirst : (x * 4 + y / 16) / 4 = x := by omega
  have hsecond : (x * 4 + y / 16) % 4 * 16 + (y % 16 * 16 + z / 4) / 16 = y := by omega
  have hthird : (y % 16 * 16 + z / 4) % 16 * 4 = z := by omega
  rw [encodeBytes, toNat_ofNat_of_lt (by omega), toNat_ofNat_of_lt (by omega), hfirst,
    hsecond, hthird]

theorem encodeBytes_triple {x y z w : Nat} (hx : x < 64) (hy : y < 64) (hz : z < 64) (hw : w < 64)
    (rest : List UInt8) : encodeBytes (triple x y z w ++ rest) =
      symbolOf x :: symbolOf y :: symbolOf z :: symbolOf w :: encodeBytes rest := by
  have hfirst : (x * 4 + y / 16) / 4 = x := by omega
  have hsecond : (x * 4 + y / 16) % 4 * 16 + (y % 16 * 16 + z / 4) / 16 = y := by omega
  have hthird : (y % 16 * 16 + z / 4) % 16 * 4 + (z % 4 * 64 + w) / 64 = z := by omega
  have hfourth : (z % 4 * 64 + w) % 64 = w := by omega
  show encodeBytes (_ :: _ :: _ :: rest) = _
  rw [encodeBytes, toNat_ofNat_of_lt (by omega), toNat_ofNat_of_lt (by omega),
    toNat_ofNat_of_lt (by omega), hfirst, hsecond, hthird, hfourth]

/-- The end of what is read is what would be written: the padding is complete and the unused bits of
the last symbol are zero. -/
theorem encodeBytes_of_decodeLast {offset : Nat} {last bytes : List UInt8}
    (hlast : last.length ≤ 4) (h : decodeLast offset last = .ok bytes) :
    encodeBytes bytes = last := by
  rcases last with _ | ⟨a, _ | ⟨b, rest⟩⟩
  · cases h
    rfl
  · rw [decodeLast] at h
    split at h
    · cases h
    · obtain ⟨x, -, -, h⟩ := valueAt_bind_eq_ok.1 h
      cases h
  rw [decodeLast] at h
  split at h
  · cases h
  rw [valueAt_bind_eq_ok] at h
  obtain ⟨x, hx, rfl, h⟩ := h
  split at h
  · cases h
  rw [valueAt_bind_eq_ok] at h
  obtain ⟨y, hy, rfl, h⟩ := h
  rcases rest with _ | ⟨c, _ | ⟨d, rest⟩⟩
  · cases h
  · dsimp only at h
    split at h
    · cases h
    · obtain ⟨z, -, -, h⟩ := valueAt_bind_eq_ok.1 h
      cases h
  have hrest : rest.length = 0 := by
    simp only [List.length_cons] at hlast
    omega
  obtain rfl := List.eq_nil_of_length_eq_zero hrest
  dsimp only at h
  split at h
  · next hc =>
    subst hc
    split_ifs at h with hd hzero
    cases h
    rw [encodeBytes_one hx hy hzero, hd]
  · rw [valueAt_bind_eq_ok] at h
    obtain ⟨z, hz, rfl, h⟩ := h
    split_ifs at h with hd hzero
    · cases h
      rw [encodeBytes_two hx hy hz hzero, hd]
    · rw [valueAt_bind_eq_ok] at h
      obtain ⟨w, hw, rfl, h⟩ := h
      cases h
      exact encodeBytes_triple hx hy hz hw []

theorem encodeBytes_of_decodeFrom {offset : Nat} {symbols bytes : List UInt8}
    (h : decodeFrom offset symbols = .ok bytes) : encodeBytes bytes = symbols := by
  fun_induction decodeFrom offset symbols generalizing bytes with
  | case1 offset a b c d e rest ih =>
    simp only [valueAt_bind_eq_ok] at h
    obtain ⟨x, hx, rfl, y, hy, rfl, z, hz, rfl, w, hw, rfl, h⟩ := h
    rcases hrest : decodeFrom (offset + 4) (e :: rest) with error | more
    · rw [hrest] at h
      cases h
    · rw [hrest] at h
      cases h
      rw [encodeBytes_triple hx hy hz hw, ih hrest]
  | case2 offset last hshort =>
    refine encodeBytes_of_decodeLast (Nat.le_of_not_lt fun hlong => ?_) h
    rcases last with _ | ⟨a, _ | ⟨b, _ | ⟨c, _ | ⟨d, _ | ⟨e, rest⟩⟩⟩⟩⟩
    case cons.cons.cons.cons.cons => exact hshort a b c d e rest rfl
    all_goals simp at hlong

theorem encodeBytes_of_decodeBytes {symbols bytes : List UInt8}
    (h : decodeBytes symbols = .ok bytes) : encodeBytes bytes = symbols := by
  rw [decodeBytes] at h
  split at h
  · split at h
    · cases h
    · exact encodeBytes_of_decodeFrom h
  · next hlast =>
    cases h
    exact (List.getLast?_eq_none_iff.1 hlast).symm

/-- A text stands for bytes exactly if it is what is written for them. -/
theorem decode_eq_ok_iff {text : String} {bytes : List UInt8} :
    decode text = .ok bytes ↔ text = encode bytes := by
  refine ⟨fun h => Text.utf8_injective ?_, fun h => h ▸ decode_encode bytes⟩
  rw [encode, Text.utf8_ofList_bytes fun s hs => (encodeBytes_lt bytes s hs).1]
  exact (encodeBytes_of_decodeBytes h).symm

end PageScan.Base64
