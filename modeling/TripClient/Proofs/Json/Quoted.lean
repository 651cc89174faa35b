import TripClient.Json.Printer
import TripClient.Json.Reader
import TripClient.Proofs.Text.Utf8

/-!
# Strings that are read back

What is printed of a text is read back as that text (`readString_quoted`), whatever follows its closing
quote, and who passes over it gets behind that quote (`skipString_quoted`). A character is printed as it
is or as an escape (`Written`), and it is enough to follow one.
-/

namespace TripClient.Json

open Text (bytesOf)

/-! ## Single characters -/

/-- How a character may stand in a string. -/
inductive Written (c : Char) : List UInt8 → Prop
  | plain : (∀ b ∈ String.utf8EncodeChar c, b ≠ 0x22 ∧ b ≠ 0x5C ∧ ¬ b < 0x20) →
      Written c (String.utf8EncodeChar c)
  | short (e : UInt8) : isShortEscape e → String.utf8EncodeChar c = [shortEscape e] →
      Written c [0x5C, e]
  | long (w x y z : UInt8) : hexFour? w x y z = some c.toNat → c.toNat < 0xD800 →
      Written c [0x5C, 0x75, w, x, y, z]

/-- A character that needs no escape stands as it is. -/
theorem written_plain {c : Char} (hquote : c ≠ '"') (hslash : c ≠ '\\') (hcontrol : 0x20 ≤ c.toNat) :
    Written c (String.utf8EncodeChar c) := by
  refine .plain fun b hb => ?_
  have hascii {d : Char} (hne : c ≠ d) (hd : d.toNat < 0x80) : b.toNat ≠ d.toNat := by
    intro heq
    exact hne (Char.toNat_inj.1 ((Text.toNat_of_mem_utf8 hb (heq ▸ hd)).trans heq))
  refine ⟨?_, ?_, fun hlt => ?_⟩
  · rintro rfl
    exact hascii hquote (by decide) rfl
  · rintro rfl
    exact hascii hslash (by decide) rfl
  · have hbyte : b.toNat < 0x20 := UInt8.lt_iff_toNat_lt.1 hlt
    have heq := Text.toNat_of_mem_utf8 hb (by omega)
    omega

/-- A digit in base sixteen is read as the number that it writes. -/
theorem hexDigit?_digitChar {n : Nat} (h : n < 16) :
    Text.hexDigit? (Char.ofNat (UInt8.ofNat (Nat.digitChar n).toNat).toNat) = some n := by
  have hall : ∀ k : Fin 16,
      Text.hexDigit? (Char.ofNat (UInt8.ofNat (Nat.digitChar k).toNat).toNat) = some k.val := by
    decide
  exact hall ⟨n, h⟩

/-- Behind two zeros two digits write a number. -/
theorem hexFour?_of_low {y z : UInt8} {high low : Nat}
    (hy : Text.hexDigit? (Char.ofNat y.toNat) = some high)
    (hz : Text.hexDigit? (Char.ofNat z.toNat) = some low) :
    hexFour? 0x30 0x30 y z = some (high * 16 + low) := by
  have hzero : Text.hexDigit? (Char.ofNat (0x30 : UInt8).toNat) = some 0 := by decide
  simp only [hexFour?, hzero, hy, hz]
  exact congrArg some (by omega)

/-- The bytes of a text of ASCII, by computation. -/
theorem bytesOf_of_eq {s : String} {bs : List UInt8}
    (h : s.toList.flatMap String.utf8EncodeChar = bs) : bytesOf s = bs :=
  (Text.bytesOf_eq s).trans h

/-- A control character without an escape of its own stands as its number. -/
theorem written_control {c : Char} (h : c.toNat < 0x20) :
    Written c (bytesOf ("\\u00" ++ (if c.toNat < 16 then "0" else "1") ++
      String.ofList (Nat.toDigits 16 (c.toNat % 16)))) := by
  have hlow : c.toNat % 16 < 16 := Nat.mod_lt _ (by decide)
  have hdigit : bytesOf (String.ofList (Nat.toDigits 16 (c.toNat % 16))) =
      [UInt8.ofNat (Nat.digitChar (c.toNat % 16)).toNat] := by
    have hall : ∀ k : Fin 16, (Nat.digitChar k).toNat < 0x80 := by decide
    rw [Nat.toDigits_of_lt_base hlow, Text.bytesOf_ofList, List.flatMap_singleton,
      Text.utf8_of_ascii (hall ⟨_, hlow⟩)]
  rw [Text.bytesOf_append, Text.bytesOf_append, hdigit, bytesOf_of_eq (s := "\\u00") rfl]
  split
  · next hlt =>
    have hhigh : Text.hexDigit? (Char.ofNat (0x30 : UInt8).toNat) = some 0 := by decide
    rw [bytesOf_of_eq (s := "0") rfl]
    refine .long 0x30 0x30 0x30 _ ((hexFour?_of_low hhigh (hexDigit?_digitChar hlow)).trans ?_) (by omega)
    exact congrArg some (by omega)
  · have hhigh : Text.hexDigit? (Char.ofNat (0x31 : UInt8).toNat) = some 1 := by decide
    rw [bytesOf_of_eq (s := "1") rfl]
    refine .long 0x30 0x30 0x31 _ ((hexFour?_of_low hhigh (hexDigit?_digitChar hlow)).trans ?_) (by omega)
    exact congrArg some (by omega)

/-- Each character is printed so that it stands in a string. -/
theorem written_escapeChar (c : Char) : Written c (bytesOf (escapeChar c)) := by
  have hshort {d : Char} {text : String} (e : UInt8) (he : isShortEscape e)
      (hd : String.utf8EncodeChar d = [shortEscape e])
      (htext : text.toList.flatMap String.utf8EncodeChar = [0x5C, e]) (h : c = d) :
      Written c (bytesOf text) := by
    rw [bytesOf_of_eq htext]
    exact .short e he (h ▸ hd)
  unfold escapeChar
  simp only [beq_iff_eq]
  split
  · next h => exact hshort 0x22 rfl rfl rfl h
  · next hquote =>
    split
    · next h => exact hshort 0x5C rfl rfl rfl h
    · next hslash =>
      split
      · next h =>
        have hself : bytesOf c.toString = String.utf8EncodeChar c := by
          rw [Text.bytesOf_eq, Char.toString_eq_singleton, String.toList_singleton, List.flatMap_singleton]
        rw [hself]
        exact written_plain hquote hslash h
      · next hcontrol =>
        split
        · next h => exact hshort 0x62 rfl rfl rfl h
        split
        · next h => exact hshort 0x74 rfl rfl rfl h
        split
        · next h => exact hshort 0x6E rfl rfl rfl h
        split
        · next h => exact hshort 0x66 rfl rfl rfl h
        split
        · next h => exact hshort 0x72 rfl rfl rfl h
        · exact written_control (Nat.not_le.1 hcontrol)

/-! ## Following a string -/

/-- Who passes over a string passes over a character of it. -/
theorem Written.skip {c : Char} {bs : List UInt8} (h : Written c bs) (p : Place) (rest : List UInt8) :
    ∃ q, skipString p (bs ++ rest) = skipString q rest := by
  cases h with
  | plain hbs =>
    generalize String.utf8EncodeChar c = bs at hbs
    induction bs generalizing p with
    | nil => exact ⟨p, rfl⟩
    | cons b bs ih =>
      obtain ⟨⟨hquote, hslash, hcontrol⟩, hbs⟩ := List.forall_mem_cons.1 hbs
      obtain ⟨q, hq⟩ := ih (p.right 1) hbs
      refine ⟨q, ?_⟩
      rw [List.cons_append, skipString.eq_def]
      simp only [beq_eq_false_iff_ne.2 hquote, beq_eq_false_iff_ne.2 hslash, hcontrol, hq,
        Bool.false_eq_true, if_false]
  | short e he _ =>
    refine ⟨p.right 2, ?_⟩
    rw [skipString.eq_def]
    exact if_pos he
  | long w x y z hvalue _ =>
    refine ⟨(p.right 2).pastAll [w, x, y, z], ?_⟩
    rw [skipString.eq_def]
    exact if_pos (Option.isSome_of_eq_some hvalue)

/-- Who follows a string takes a character of it for what it is. -/
theorem Written.scan {c : Char} {bs : List UInt8} (h : Written c bs) (p : Place)
    (acc : List (UInt8 × Place)) (rest : List UInt8) :
    ∃ (q : Place) (said : List (UInt8 × Place)), said.map Prod.fst = String.utf8EncodeChar c ∧
      scanString p acc (bs ++ rest) = scanString q (said.reverse ++ acc) rest := by
  cases h with
  | plain hbs =>
    generalize String.utf8EncodeChar c = bs at hbs
    induction bs generalizing p acc with
    | nil => exact ⟨p, [], rfl, rfl⟩
    | cons b bs ih =>
      obtain ⟨⟨hquote, hslash, hcontrol⟩, hbs⟩ := List.forall_mem_cons.1 hbs
      obtain ⟨q, said, hsaid, hq⟩ := ih (p.right 1) ((b, p.right 1) :: acc) hbs
      refine ⟨q, (b, p.right 1) :: said, congrArg (b :: ·) hsaid, ?_⟩
      rw [List.cons_append, scanString.eq_def]
      simp only [beq_eq_false_iff_ne.2 hquote, beq_eq_false_iff_ne.2 hslash, hcontrol, hq,
        Bool.false_eq_true, if_false, List.reverse_cons, List.append_assoc, List.singleton_append]
  | short e he hc =>
    refine ⟨p.right 2, [(shortEscape e, p.right 2)], hc.symm, ?_⟩
    rw [scanString.eq_def]
    exact if_pos he
  | long w x y z hvalue hlt =>
    refine ⟨(p.right 2).pastAll [w, x, y, z], encoded c ((p.right 2).pastAll [w, x, y, z]), ?_, ?_⟩
    · rw [encoded, List.map_map]
      exact List.map_id _
    · -- The number is that of no surrogate.
      have hlow : (decide (0xDC00 ≤ c.toNat) && decide (c.toNat ≤ 0xDFFF)) = false := by
        rw [Bool.and_eq_false_iff, decide_eq_false_iff_not]
        omega
      have hhigh : (decide (c.toNat < 0xD800) || decide (0xDBFF < c.toNat)) = true := by
        rw [Bool.or_eq_true, decide_eq_true_eq]
        exact .inl hlt
      have hshort : isShortEscape 0x75 = false := by decide
      rw [scanString.eq_def]
      dsimp only [List.cons_append, List.nil_append]
      rw [if_neg (by decide), if_pos (by decide), hshort, if_neg Bool.false_ne_true, if_pos (by decide)]
      simp only [hvalue, hlow, hhigh, Bool.false_eq_true, if_false, if_true, Char.ofNat_toNat]

/-- The bytes of a text as it is printed between its quotes. -/
def quotedBytes (s : String) : List UInt8 := s.toList.flatMap fun c => bytesOf (escapeChar c)

/-- A text is printed character by character, between quotes. -/
theorem bytesOf_stringText (s : String) : bytesOf (stringText s) = 0x22 :: (quotedBytes s ++ [0x22]) := by
  have hescape (acc : String) (cs : List Char) :
      bytesOf (cs.foldl (fun acc c => if 0x20 ≤ c.toNat && c != '"' && c != '\\' then acc.push c
        else acc ++ escapeChar c) acc) = bytesOf acc ++ cs.flatMap fun c => bytesOf (escapeChar c) := by
    induction cs generalizing acc with
    | nil => exact (List.append_nil _).symm
    | cons c cs ih =>
      rw [List.foldl_cons, ih, List.flatMap_cons, ← List.append_assoc]
      congr 1
      split
      · next h =>
        simp only [Bool.and_eq_true, decide_eq_true_eq, bne_iff_ne] at h
        have hself : escapeChar c = c.toString := by
          simp only [escapeChar, beq_eq_false_iff_ne.2 h.1.2, beq_eq_false_iff_ne.2 h.2, h.1.1,
            Bool.false_eq_true, if_false, if_true]
        rw [hself, String.push_eq_append, Text.bytesOf_append]
        rfl
      · rw [Text.bytesOf_append]
  rw [stringText, String.push_eq_append, Text.bytesOf_append, escape, hescape,
    bytesOf_of_eq (s := "\"") rfl, bytesOf_of_eq (s := String.singleton '"') rfl, quotedBytes]
  rfl

/-- A character takes six bytes at most. -/
theorem Written.length_le {c : Char} {bs : List UInt8} (h : Written c bs) : bs.length ≤ 6 := by
  cases h with
  | plain hplain =>
    have hfour := c.utf8Size_le_four
    rw [String.length_utf8EncodeChar]
    omega
  | short e _ _ => exact Nat.le_of_ble_eq_true rfl
  | long w x y z _ _ => exact Nat.le_refl 6

/-- What is printed of a text takes six bytes for each of its own at most, and two for the quotes. -/
theorem utf8ByteSize_stringText_le (s : String) :
    (stringText s).utf8ByteSize ≤ 6 * s.utf8ByteSize + 2 := by
  have hquoted (cs : List Char) : (cs.flatMap fun c => bytesOf (escapeChar c)).length ≤
      6 * (cs.flatMap String.utf8EncodeChar).length := by
    induction cs with
    | nil => exact Nat.zero_le _
    | cons c cs ih =>
      have hlong := (written_escapeChar c).length_le
      have hshort := c.utf8Size_pos
      simp only [List.flatMap_cons, List.length_append, String.length_utf8EncodeChar]
      omega
  have hall := hquoted s.toList
  rw [← Text.bytesOf_eq, Text.length_bytesOf] at hall
  rw [← Text.length_bytesOf, bytesOf_stringText, quotedBytes, List.length_cons, List.length_append,
    List.length_singleton]
  omega

/-- Who passes over what is printed of a text gets behind it. -/
theorem skipString_quoted (s : String) (p : Place) (rest : List UInt8) :
    ∃ q, skipString p (quotedBytes s ++ 0x22 :: rest) = .ok ⟨rest, q⟩ := by
  unfold quotedBytes
  induction s.toList generalizing p with
  | nil => exact ⟨p.right 1, by rw [List.flatMap_nil, List.nil_append, skipString.eq_def]; rfl⟩
  | cons c cs ih =>
    obtain ⟨q, hq⟩ := (written_escapeChar c).skip p ((cs.flatMap fun c => bytesOf (escapeChar c)) ++ 0x22 :: rest)
    rw [List.flatMap_cons, List.append_assoc, hq]
    exact ih q

/-- What is printed of a text is read back, whatever follows. -/
theorem readString_quoted (s : String) (p : Place) (rest : List UInt8) :
    readString ⟨quotedBytes s ++ 0x22 :: rest, p⟩ = .ok s := by
  have hscan (cs : List Char) (p : Place) (acc : List (UInt8 × Place)) :
      ∃ said : List (UInt8 × Place), said.map Prod.fst = cs.flatMap String.utf8EncodeChar ∧
        scanString p acc ((cs.flatMap fun c => bytesOf (escapeChar c)) ++ 0x22 :: rest) =
          .ok (acc.reverse ++ said) := by
    induction cs generalizing p acc with
    | nil =>
      refine ⟨[], rfl, ?_⟩
      rw [List.flatMap_nil, List.nil_append, scanString.eq_def, List.append_nil]
      rfl
    | cons c cs ih =>
      obtain ⟨q, said, hsaid, hq⟩ := (written_escapeChar c).scan p acc
        ((cs.flatMap fun c => bytesOf (escapeChar c)) ++ 0x22 :: rest)
      obtain ⟨more, hmore, hrest⟩ := ih q (said.reverse ++ acc)
      refine ⟨said ++ more, by rw [List.map_append, hsaid, hmore, List.flatMap_cons], ?_⟩
      rw [List.flatMap_cons, List.append_assoc, hq, hrest, List.reverse_append, List.reverse_reverse,
        List.append_assoc]
  obtain ⟨said, hsaid, hok⟩ := hscan s.toList p []
  rw [readString, quotedBytes, hok]
  simp only [bind, Except.bind, List.reverse_nil, List.nil_append, hsaid, Text.ofBytes?_utf8,
    String.ofList_toList]

end TripClient.Json
