import TripClient.Proofs.Text.Trim
import TripClient.Text.Utf8

/-!
# Excerpts

A text that is cut is the longest part at its start that fits (`isExcerpt_truncate`); since no character
takes more than four bytes, what is cut is at most three bytes shorter than it may be.
-/

namespace TripClient.Text

/-- The bytes of a text are those of its first character and of the others. -/
theorem utf8ByteSize_ofList_cons (c : Char) (cs : List Char) :
    (String.ofList (c :: cs)).utf8ByteSize = c.utf8Size + (String.ofList cs).utf8ByteSize := by
  simp [String.ofList_cons]

/-- The bytes of characters that take the same number of them. -/
theorem utf8ByteSize_of_forall {size : Nat} {cs : List Char} (h : ∀ c ∈ cs, c.utf8Size = size) :
    (String.ofList cs).utf8ByteSize = cs.length * size := by
  induction cs with
  | nil => exact (Nat.zero_mul size).symm
  | cons c cs ih =>
    obtain ⟨hc, hcs⟩ := List.forall_mem_cons.1 h
    rw [utf8ByteSize_ofList_cons, hc, ih hcs, List.length_cons, Nat.succ_mul, Nat.add_comm]

theorem takeBytes_prefix (n : Nat) (cs : List Char) : takeBytes n cs <+: cs := by
  induction cs generalizing n with
  | nil => exact List.prefix_rfl
  | cons c cs ih =>
    unfold takeBytes
    split
    · exact List.cons_prefix_cons.2 ⟨rfl, ih _⟩
    · exact List.nil_prefix

theorem utf8ByteSize_takeBytes_le (n : Nat) (cs : List Char) :
    (String.ofList (takeBytes n cs)).utf8ByteSize ≤ n := by
  induction cs generalizing n with
  | nil => exact Nat.zero_le n
  | cons c cs ih =>
    unfold takeBytes
    split
    · have hrest := ih (n - c.utf8Size)
      rw [utf8ByteSize_ofList_cons]
      omega
    · exact Nat.zero_le n

/-- No longer part at the start fits. -/
theorem prefix_takeBytes {n : Nat} {p cs : List Char} (h : p <+: cs)
    (hsize : (String.ofList p).utf8ByteSize ≤ n) : p <+: takeBytes n cs := by
  induction cs generalizing n p with
  | nil => exact h
  | cons c cs ih =>
    rcases List.prefix_cons_iff.1 h with rfl | ⟨p, rfl, hp⟩
    · exact List.nil_prefix
    · rw [utf8ByteSize_ofList_cons] at hsize
      rw [takeBytes, if_pos (by omega)]
      exact List.cons_prefix_cons.2 ⟨rfl, ih hp (by omega)⟩

/-- All is taken, or the next character, of at most four bytes, does not fit. -/
theorem takeBytes_eq_or_lt (n : Nat) (cs : List Char) :
    takeBytes n cs = cs ∨ n < (String.ofList (takeBytes n cs)).utf8ByteSize + 4 := by
  induction cs generalizing n with
  | nil => exact .inl rfl
  | cons c cs ih =>
    unfold takeBytes
    split
    · refine (ih (n - c.utf8Size)).imp (fun h => by rw [h]) fun h => ?_
      rw [utf8ByteSize_ofList_cons]
      omega
    · next h => exact .inr (Nat.lt_of_lt_of_le (Nat.not_le.1 h) (Nat.le_trans c.utf8Size_le_four (by omega)))

/-- The text `t` is the longest part at the start of `s` that fits into `n` bytes. -/
structure IsExcerpt (n : Nat) (s t : String) : Prop where
  isPrefix : t.toList <+: s.toList
  size_le : t.utf8ByteSize ≤ n
  longest : ∀ p : String, p.toList <+: s.toList → p.utf8ByteSize ≤ n → p.toList <+: t.toList
  /-- It is the whole, or at most three bytes shorter than it may be. -/
  whole_or_full : t = s ∨ n ≤ t.utf8ByteSize + 3

/-- A text that is cut is its longest part that fits. -/
theorem isExcerpt_truncate (n : Nat) (s : String) : IsExcerpt n s (truncate n s) := by
  unfold truncate
  split
  · next h => exact ⟨List.prefix_rfl, h, fun _ hp _ => hp, .inl rfl⟩
  · refine ⟨?_, utf8ByteSize_takeBytes_le n s.toList, fun p hp hsize => ?_, ?_⟩
    · rw [String.toList_ofList]
      exact takeBytes_prefix n s.toList
    · rw [String.toList_ofList]
      exact prefix_takeBytes hp (by rwa [String.ofList_toList])
    · refine (takeBytes_eq_or_lt n s.toList).imp (fun h => ?_) fun h => by omega
      rw [h, String.ofList_toList]

/-- There is one longest part. -/
theorem isExcerpt_iff {n : Nat} {s t : String} : IsExcerpt n s t ↔ t = truncate n s := by
  refine ⟨fun h => ?_, fun h => h ▸ isExcerpt_truncate n s⟩
  have hcut := isExcerpt_truncate n s
  have hle := (hcut.longest t h.isPrefix h.size_le).length_le
  exact String.toList_inj.1 ((h.longest _ hcut.isPrefix hcut.size_le).eq_of_length_le hle).symm

/-- If it fits, the first character of a text is the first of its excerpt. -/
theorem IsExcerpt.head?_eq {n : Nat} {s t : String} (h : IsExcerpt n s t) (hn : 4 ≤ n) :
    t.toList.head? = s.toList.head? := by
  obtain ⟨rest, hrest⟩ := h.isPrefix
  cases hs : s.toList with
  | nil => rw [List.append_eq_nil_iff.1 (hrest.trans hs) |>.1]
  | cons c cs =>
    have hfirst : [c] <+: t.toList := by
      have hsize : (String.singleton c).utf8ByteSize ≤ n := by
        rw [String.utf8ByteSize_singleton]
        exact Nat.le_trans c.utf8Size_le_four hn
      have hc : (String.singleton c).toList = [c] := String.toList_singleton c
      exact hc ▸ h.longest (String.singleton c) (by rw [hc, hs]; exact ⟨cs, rfl⟩) hsize
    obtain ⟨more, hmore⟩ := hfirst
    rw [← hmore]
    rfl

end TripClient.Text
