import PageScan.Text.Utf8

/-!
# Texts and their bytes

* `ofUtf8?_utf8`, `utf8_injective`: a text is read back from its bytes.
* `utf8_ofList_bytes`: a text of characters below 128 is its bytes, one for each character.
-/

namespace PageScan.Text

theorem toList_loop (bytes : ByteArray) (i : Nat) (r : List UInt8) :
    ByteArray.toList.loop bytes i r = r.reverse ++ bytes.data.toList.drop i := by
  fun_induction ByteArray.toList.loop bytes i r with
  | case1 i r h ih =>
    have hlt : i < bytes.data.toList.length := h
    have hget : bytes.get! i = bytes.data.toList[i] := getElem!_pos bytes.data i h
    rw [ih, hget, List.reverse_cons, List.append_assoc, List.singleton_append,
      ← List.drop_eq_getElem_cons hlt]
  | case2 i r h =>
    have hend : bytes.data.toList.length ≤ i := Nat.le_of_not_lt h
    rw [List.drop_eq_nil_of_le hend, List.append_nil]

theorem toList_eq (bytes : ByteArray) : bytes.toList = bytes.data.toList := by
  rw [ByteArray.toList, toList_loop]
  rfl

theorem ofUtf8?_utf8 (s : String) : ofUtf8? (utf8 s) = some s := by
  have hbytes : ByteArray.mk (utf8 s).toArray = s.toUTF8 := by
    rw [utf8, toList_eq]
  rw [ofUtf8?, hbytes, String.fromUTF8?]
  exact dif_pos s.isValidUTF8

theorem utf8_injective : Function.Injective utf8 := fun s t h =>
  Option.some.inj (by rw [← ofUtf8?_utf8 s, h, ofUtf8?_utf8 t])

/-- The character of a byte below 128 is encoded as that byte. -/
theorem utf8EncodeChar_ofNat {b : UInt8} (h : b.toNat < 128) :
    String.utf8EncodeChar (Char.ofNat b.toNat) = [b] := by
  have hvalid : b.toNat.isValidChar := .inl (by omega)
  have hnat : (Char.ofNat b.toNat).val.toNat = b.toNat := by
    rw [Char.ofNat, dif_pos hvalid]
    rfl
  rw [String.utf8EncodeChar, hnat, if_pos (by omega), UInt8.ofNat_toNat]

theorem utf8_ofList_bytes {bytes : List UInt8} (h : ∀ b ∈ bytes, b.toNat < 128) :
    utf8 (String.ofList (bytes.map fun b => Char.ofNat b.toNat)) = bytes := by
  have hflat : (bytes.map fun b => Char.ofNat b.toNat).flatMap String.utf8EncodeChar = bytes := by
    induction bytes with
    | nil => rfl
    | cons b bs ih =>
      obtain ⟨hb, hbs⟩ := List.forall_mem_cons.1 h
      rw [List.map_cons, List.flatMap_cons, utf8EncodeChar_ofNat hb, ih hbs, List.singleton_append]
  have hencoded : (String.ofList (bytes.map fun b => Char.ofNat b.toNat)).toUTF8 =
      bytes.toByteArray := congrArg List.toByteArray hflat
  rw [utf8, hencoded, toList_eq, List.toList_data_toByteArray]

end PageScan.Text
