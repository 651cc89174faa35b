import TripClient.Proofs.Text.Utf8
import TripClient.Url.Percent

/-!
# Escapes are read back

Escaping with a set that holds the percent sign and all characters beyond ASCII loses nothing: the
escaped text is read back as the text it was made from (`decode?_encode`), so that different texts
are escaped differently (`encode_inj`). Of the characters of the set only those are left that escapes
themselves are made of (`mem_encode`).
-/

namespace TripClient

namespace Url.Percent

/-! ## Single escapes -/

/-- A digit is read as the number that it writes. -/
theorem hexDigit?_hexDigit {n : Nat} (h : n < 16) : Text.hexDigit? (hexDigit n) = some n := by
  have hall : ∀ k : Fin 16, Text.hexDigit? (hexDigit k) = some k.val := by decide
  exact hall ⟨n, h⟩

/-- A digit is a character of ASCII. -/
theorem hexDigit_ascii {n : Nat} (h : n < 16) : (hexDigit n).toNat < 0x80 := by
  have hall : ∀ k : Fin 16, (hexDigit k).toNat < 0x80 := by decide
  exact hall ⟨n, h⟩

/-- Escapes are made of percent signs and digits in capitals. -/
theorem eq_of_mem_escapeChar {c d : Char} (h : d ∈ escapeChar c) :
    d = '%' ∨ ∃ n < 16, d = hexDigit n := by
  obtain ⟨b, -, hd⟩ := List.mem_flatMap.1 h
  have hb := b.toNat_lt
  rcases List.mem_cons.1 hd with heq | hd
  · exact .inl heq
  rcases List.mem_cons.1 hd with heq | hd
  · exact .inr ⟨_, by omega, heq⟩
  · exact .inr ⟨_, Nat.mod_lt _ (by decide), List.mem_singleton.1 hd⟩

/-- The digits in escapes are digits in base sixteen. -/
theorem mem_escapeChar {c d : Char} (h : d ∈ escapeChar c) :
    d = '%' ∨ ∃ n, Text.hexDigit? d = some n := by
  obtain heq | ⟨n, hn, rfl⟩ := eq_of_mem_escapeChar h
  · exact .inl heq
  · exact .inr ⟨n, hexDigit?_hexDigit hn⟩

/-- An escaped character starts with the escape of its first byte. -/
theorem escapeChar_eq (c : Char) : ∃ b ∈ String.utf8EncodeChar c, ∃ rest,
    escapeChar c = '%' :: hexDigit (b.toNat / 16) :: hexDigit (b.toNat % 16) :: rest := by
  obtain ⟨b, bs, h⟩ := List.exists_cons_of_ne_nil (Text.utf8_ne_nil c)
  exact ⟨b, h ▸ List.mem_cons_self, bs.flatMap escape, by rw [escapeChar, h]; rfl⟩

/-- A byte that is no percent sign stands for itself. -/
theorem decodeBytes_cons {b : UInt8} (h : b ≠ 0x25) (rest : List UInt8) :
    decodeBytes (b :: rest) = b :: decodeBytes rest := by
  match rest with
  | [] => rfl
  | [_] => rfl
  | _ :: _ :: _ => rw [decodeBytes, if_neg (by simpa using h)]

/-- An escape stands for its byte. -/
theorem decodeBytes_escape (b : UInt8) (rest : List UInt8) :
    decodeBytes ((escape b).flatMap String.utf8EncodeChar ++ rest) = b :: decodeBytes rest := by
  have hb := b.toNat_lt
  have hhigh : b.toNat / 16 < 16 := by omega
  have hlow : b.toNat % 16 < 16 := Nat.mod_lt _ (by decide)
  have hchar {n : Nat} (hn : n < 16) :
      Char.ofNat (UInt8.ofNat (hexDigit n).toNat).toNat = hexDigit n := by
    have := hexDigit_ascii hn
    rw [UInt8.toNat_ofNat', Nat.mod_eq_of_lt (by omega), Char.ofNat_toNat]
  have hbytes : (escape b).flatMap String.utf8EncodeChar =
      [0x25, UInt8.ofNat (hexDigit (b.toNat / 16)).toNat,
        UInt8.ofNat (hexDigit (b.toNat % 16)).toNat] := by
    simp only [escape, List.flatMap_cons, List.flatMap_nil, Text.utf8_of_ascii (hexDigit_ascii hhigh),
      Text.utf8_of_ascii (hexDigit_ascii hlow)]
    rfl
  have hvalue : b.toNat / 16 * 16 + b.toNat % 16 = b.toNat := Nat.div_add_mod' _ _
  simp only [hbytes, List.cons_append, List.nil_append, decodeBytes, beq_self_eq_true, if_true,
    hchar hhigh, hchar hlow, hexDigit?_hexDigit hhigh, hexDigit?_hexDigit hlow, hvalue,
    UInt8.ofNat_toNat]

/-- Escapes stand for their bytes. -/
theorem decodeBytes_escapes (bs rest : List UInt8) :
    decodeBytes ((bs.flatMap escape).flatMap String.utf8EncodeChar ++ rest) =
      bs ++ decodeBytes rest := by
  induction bs with
  | nil => rfl
  | cons b bs ih =>
    rw [List.flatMap_cons, List.flatMap_append, List.append_assoc, decodeBytes_escape, ih]
    rfl

/-! ## Escaped texts -/

section

variable {inSet : Char → Bool}

/-- Escaping goes from character to character. -/
theorem encode_cons (c : Char) (cs : List Char) :
    encode inSet (c :: cs) = (if inSet c then escapeChar c else [c]) ++ encode inSet cs :=
  List.flatMap_cons

/-- A character of which no escapes are made stands in an escaped text only if it stood in the text
and is not of the set. -/
theorem mem_encode {c : Char} {cs : List Char} (hc : c ≠ '%' ∧ Text.hexDigit? c = none)
    (h : c ∈ encode inSet cs) : c ∈ cs ∧ ¬ inSet c := by
  obtain ⟨d, hd, hmem⟩ := List.mem_flatMap.1 h
  split at hmem
  · rcases mem_escapeChar hmem with heq | ⟨n, hn⟩
    · exact absurd heq hc.1
    · rw [hc.2] at hn
      cases hn
  · next hset =>
    obtain rfl := List.mem_singleton.1 hmem
    exact ⟨hd, hset⟩

/-- An escaped text holds characters of the text that are not of the set, and escapes. -/
theorem eq_of_mem_encode {c : Char} {cs : List Char} (h : c ∈ encode inSet cs) :
    c ∈ cs ∧ ¬ inSet c ∨ c = '%' ∨ ∃ n < 16, c = hexDigit n := by
  obtain ⟨d, hd, hmem⟩ := List.mem_flatMap.1 h
  split at hmem
  · exact .inr (eq_of_mem_escapeChar hmem)
  · next hset =>
    obtain rfl := List.mem_singleton.1 hmem
    exact .inl ⟨hd, hset⟩

/-- No character is dropped. -/
theorem encode_ne_nil {cs : List Char} (h : cs ≠ []) : encode inSet cs ≠ [] := by
  obtain ⟨c, cs, rfl⟩ := List.exists_cons_of_ne_nil h
  obtain ⟨b, -, rest, heq⟩ := escapeChar_eq c
  rw [encode_cons]
  split
  · rw [heq]
    exact List.cons_ne_nil _ _
  · exact List.cons_ne_nil _ _

/-- A text without characters of the set stays as it is. -/
theorem encode_of_not_inSet {cs : List Char} (h : ∀ c ∈ cs, ¬ inSet c) : encode inSet cs = cs := by
  induction cs with
  | nil => rfl
  | cons c cs ih =>
    obtain ⟨hc, hcs⟩ := List.forall_mem_cons.1 h
    rw [encode_cons, if_neg hc, ih hcs, List.singleton_append]

/-- A text of which no character has to be escaped stays as it is. -/
theorem encode_eq_self {cs : List Char} (h : '%' ∉ encode inSet cs) : encode inSet cs = cs := by
  induction cs with
  | nil => rfl
  | cons c cs ih =>
    rw [encode_cons, List.mem_append, not_or] at h
    have hc : ¬ inSet c := by
      intro hc
      obtain ⟨b, -, rest, heq⟩ := escapeChar_eq c
      rw [if_pos hc, heq] at h
      exact h.1 List.mem_cons_self
    rw [encode_cons, if_neg hc, ih h.2, List.singleton_append]

variable (hpercent : inSet '%') (hany : ∀ c, inAny c → inSet c)

include hpercent hany

/-- The bytes of an escaped text stand for those of the text. -/
theorem decodeBytes_encode (cs : List Char) :
    decodeBytes ((encode inSet cs).flatMap String.utf8EncodeChar) =
      cs.flatMap String.utf8EncodeChar := by
  induction cs with
  | nil => rfl
  | cons c cs ih =>
    rw [encode_cons, List.flatMap_append, List.flatMap_cons]
    by_cases hc : inSet c
    · rw [if_pos hc, escapeChar, decodeBytes_escapes, ih]
    · have hascii : c.toNat < 0x7F := by
        have := mt (hany c) hc
        simp only [inAny, Bool.or_eq_true, decide_eq_true_eq, not_or] at this
        omega
      have hbyte : UInt8.ofNat c.toNat ≠ 0x25 := by
        intro heq
        have hnat := congrArg UInt8.toNat heq
        rw [UInt8.toNat_ofNat', Nat.mod_eq_of_lt (by omega)] at hnat
        exact hc ((Char.toNat_inj.1 hnat : c = '%') ▸ hpercent)
      rw [if_neg hc, List.flatMap_singleton, Text.utf8_of_ascii (by omega), List.singleton_append,
        decodeBytes_cons hbyte, ih, List.singleton_append]

/-- An escaped text is read back. -/
theorem decode?_encode (cs : List Char) : decode? (encode inSet cs) = some cs := by
  rw [decode?]
  split
  · rw [Text.bytesOf_ofList, decodeBytes_encode hpercent hany]
    have hbytes : (⟨(cs.flatMap String.utf8EncodeChar).toArray⟩ : ByteArray) =
        (cs.flatMap String.utf8EncodeChar).toByteArray :=
      ByteArray.ext (List.data_toByteArray).symm
    rw [textOf?, hbytes, Text.ofBytes?_utf8, Option.map_some, String.toList_ofList]
  · next h =>
    rw [encode_eq_self (by simpa using h)]

/-- Different texts are escaped differently. -/
theorem encode_inj {cs cs' : List Char} (h : encode inSet cs = encode inSet cs') : cs = cs' := by
  have hdecode := congrArg decode? h
  rw [decode?_encode hpercent hany, decode?_encode hpercent hany] at hdecode
  exact Option.some_inj.1 hdecode

end

/-! ## Shorter texts -/

/-- A character is written by at least one. -/
theorem length_written_pos (inSet : Char → Bool) (c : Char) :
    0 < (if inSet c then escapeChar c else [c]).length := by
  split
  · obtain ⟨b, -, rest, heq⟩ := escapeChar_eq c
    rw [heq]
    exact Nat.succ_pos _
  · exact Nat.one_pos

/-- Escaping a text without some of its characters gives no longer text. -/
theorem length_encode_filter_le (inSet keep : Char → Bool) (cs : List Char) :
    (encode inSet (cs.filter keep)).length ≤ (encode inSet cs).length := by
  induction cs with
  | nil => exact Nat.le_refl _
  | cons c cs ih =>
    rw [List.filter_cons]
    split
    · rw [encode_cons, encode_cons, List.length_append, List.length_append]
      omega
    · rw [encode_cons, List.length_append]
      omega

/-- Escaping a text gives as long a text without some of its characters only if it holds none of
them. -/
theorem filter_eq_self_of_length {inSet keep : Char → Bool} {cs : List Char}
    (h : (encode inSet cs).length ≤ (encode inSet (cs.filter keep)).length) : cs.filter keep = cs := by
  induction cs with
  | nil => rfl
  | cons c cs ih =>
    rw [List.filter_cons] at h ⊢
    split at h
    · next hc =>
      rw [encode_cons, encode_cons, List.length_append, List.length_append] at h
      rw [if_pos hc, ih (by omega)]
    · have hle := length_encode_filter_le inSet keep cs
      have hpos := length_written_pos inSet c
      rw [encode_cons, List.length_append] at h
      omega

end Url.Percent

end TripClient
