import TripClient.Text.Utf8

/-!
# The bytes of a text

The bytes of a text are those of its characters (`bytesOf_eq`), and write that text (`ofBytes?_utf8`). A
character of ASCII is one byte, and in no other character a byte of ASCII occurs (`le_of_mem_utf8`).
-/

namespace TripClient.Text

/-- What the loop of `ByteArray.toList` adds to the bytes it has. -/
theorem toList_loop (bs : ByteArray) (i : Nat) (done : List UInt8) :
    ByteArray.toList.loop bs i done = done.reverse ++ bs.data.toList.drop i := by
  fun_induction ByteArray.toList.loop bs i done with
  | case1 i done h ih =>
    have hi : i < bs.data.toList.length := by simpa using h
    rw [ih, List.drop_eq_getElem_cons hi, List.reverse_cons, List.append_assoc]
    simp [ByteArray.get!, h]
  | case2 i done h =>
    have hi : bs.data.toList.length ≤ i := by simpa using Nat.le_of_not_lt h
    rw [List.drop_eq_nil_of_le hi, List.append_nil]

/-- The bytes of a text are those of its characters, one after the other. -/
theorem bytesOf_ofList (cs : List Char) :
    bytesOf (String.ofList cs) = cs.flatMap String.utf8EncodeChar := by
  have hbytes : (String.ofList cs).toUTF8 = (cs.flatMap String.utf8EncodeChar).toByteArray :=
    String.toByteArray_ofList
  rw [bytesOf, hbytes, ByteArray.toList, toList_loop, List.toList_data_toByteArray]
  rfl

theorem bytesOf_eq (s : String) : bytesOf s = s.toList.flatMap String.utf8EncodeChar := by
  rw [← bytesOf_ofList, String.ofList_toList]

theorem length_bytesOf (s : String) : (bytesOf s).length = s.utf8ByteSize := by
  rw [bytesOf, ByteArray.toList, toList_loop]
  simp

@[simp]
theorem bytesOf_append (s t : String) : bytesOf (s ++ t) = bytesOf s ++ bytesOf t := by
  rw [bytesOf_eq, bytesOf_eq, bytesOf_eq, String.toList_append, List.flatMap_append]

/-- The bytes of a text write that text. -/
theorem ofBytes?_utf8 (cs : List Char) :
    ofBytes? (cs.flatMap String.utf8EncodeChar).toByteArray = some (String.ofList cs) := by
  have hbytes : (String.ofList cs).toByteArray = (cs.flatMap String.utf8EncodeChar).toByteArray :=
    String.toByteArray_ofList
  have hvalid := (String.ofList cs).isValidUTF8
  rw [hbytes] at hvalid
  rw [ofBytes?, String.fromUTF8?, dif_pos hvalid, Option.some_inj, ← String.toByteArray_inj]
  exact hbytes.symm

/-- A character of ASCII is one byte. -/
theorem utf8_of_ascii {c : Char} (h : c.toNat < 0x80) :
    String.utf8EncodeChar c = [UInt8.ofNat c.toNat] :=
  if_pos (Nat.le_of_lt_succ h)

/-- The bytes of a character beyond ASCII are no characters of ASCII. -/
theorem le_of_mem_utf8 {c : Char} (h : 0x80 ≤ c.toNat) {b : UInt8}
    (hb : b ∈ String.utf8EncodeChar c) : 0x80 ≤ b.toNat := by
  have hvalue : ¬ c.val.toNat ≤ 127 := Nat.not_le.2 h
  have hof (n : Nat) (hn : 128 ≤ n ∧ n < 256) : 0x80 ≤ (UInt8.ofNat n).toNat := by
    rw [UInt8.toNat_ofNat', Nat.mod_eq_of_lt hn.2]
    exact hn.1
  simp only [String.utf8EncodeChar, if_neg hvalue] at hb
  -- As many bytes as the character takes, each with its mark.
  split at hb
  · simp only [List.mem_cons, List.not_mem_nil, or_false] at hb
    rcases hb with rfl | rfl <;> exact hof _ (by omega)
  · split at hb
    · simp only [List.mem_cons, List.not_mem_nil, or_false] at hb
      rcases hb with rfl | rfl | rfl <;> exact hof _ (by omega)
    · simp only [List.mem_cons, List.not_mem_nil, or_false] at hb
      rcases hb with rfl | rfl | rfl | rfl <;> exact hof _ (by omega)

/-- A byte of ASCII is a character of ASCII. -/
theorem toNat_of_mem_utf8 {c : Char} {b : UInt8} (hb : b ∈ String.utf8EncodeChar c)
    (h : b.toNat < 0x80) : c.toNat = b.toNat := by
  by_cases hc : c.toNat < 0x80
  · rw [utf8_of_ascii hc, List.mem_singleton] at hb
    rw [hb, UInt8.toNat_ofNat', Nat.mod_eq_of_lt (by omega)]
  · have := le_of_mem_utf8 (Nat.not_lt.1 hc) hb
    omega

/-- A character takes at least one byte. -/
theorem utf8_ne_nil (c : Char) : String.utf8EncodeChar c ≠ [] := by
  rw [ne_eq, ← List.length_eq_zero_iff, String.length_utf8EncodeChar]
  exact Nat.ne_of_gt c.utf8Size_pos

end TripClient.Text
