import TripClient.Json.Numeral
import TripClient.Json.Printer
import TripClient.Proofs.Text.Utf8

/-!
# Whole numbers that are read back

A whole number of 64 bits is read back from its digits (`scan_whole`), whatever follows that cannot go on
a numeral. A number that is printed starts with a zero only if it is zero, and as its digits are taken in
one by one, no part of it is greater than the whole.
-/

namespace TripClient.Json

open Text (bytesOf)

/-- Whether a whole number is kept as one. -/
def Fits (n : Int) : Prop := -(Nat.pow 2 63 : Int) ≤ n ∧ n ≤ (Numeral.maxSignificand : Int)

theorem fits_ofNat {k : Nat} (h : k ≤ Numeral.maxSignificand) : Fits k :=
  ⟨Int.le_trans (Int.neg_nonpos_of_nonneg (Int.natCast_nonneg _)) (Int.natCast_nonneg k), by omega⟩

/-- What may follow a value in a text: nothing, a comma, or the end of a list. -/
def Ends (rest : List UInt8) : Prop := ∀ b ∈ rest.head?, b = 0x2C ∨ b = 0x5D ∨ b = 0x7D

theorem ends_nil : Ends [] := nofun

namespace Numeral

/-! ## Digits -/

/-- The byte of a digit. -/
def digitByte (c : Char) : UInt8 := UInt8.ofNat c.toNat

/-- The number that a digit writes. -/
def digitValue (c : Char) : Nat := c.toNat - '0'.toNat

theorem toNat_of_isDigit {c : Char} (hc : c.isDigit) : 48 ≤ c.toNat ∧ c.toNat ≤ 57 := by
  simp only [Char.isDigit, Bool.and_eq_true, decide_eq_true_eq, ge_iff_le, UInt32.le_iff_toNat_le] at hc
  exact hc

theorem toNat_digitByte {c : Char} (hc : c.isDigit) : (digitByte c).toNat = c.toNat := by
  have hrange := toNat_of_isDigit hc
  rw [digitByte, UInt8.toNat_ofNat', Nat.mod_eq_of_lt (by omega)]

/-- The digits of a number are digits. -/
theorem isDigit_of_mem {n : Nat} : ∀ c ∈ Nat.toDigits 10 n, c.isDigit := fun _ hc =>
  Nat.isDigit_of_mem_toDigits (by decide) (by decide) hc

/-- A number is printed by the bytes of its digits. -/
theorem bytesOf_digitText (n : Nat) :
    bytesOf (Decimal.digitText n) = (Nat.toDigits 10 n).map digitByte := by
  have hdigits := @isDigit_of_mem n
  rw [Decimal.digitText, Text.bytesOf_ofList]
  generalize Nat.toDigits 10 n = cs at hdigits
  induction cs with
  | nil => rfl
  | cons c cs ih =>
    obtain ⟨hc, hcs⟩ := List.forall_mem_cons.1 hdigits
    have hrange := toNat_of_isDigit hc
    rw [List.flatMap_cons, Text.utf8_of_ascii (by omega), ih hcs]
    rfl

/-- The digits at the start of a text, if nothing follows that goes on with them. -/
theorem digitsFrom_append {cs : List Char} (hcs : ∀ c ∈ cs, c.isDigit) {rest : List UInt8}
    (hrest : Ends rest) (p : Place) : ∃ (ds : List (Nat × Place)) (q : Place),
      ds.map Prod.fst = cs.map digitValue ∧
        Cursor.digitsFrom p (cs.map digitByte ++ rest) = (ds, ⟨rest, q⟩) := by
  induction cs generalizing p with
  | nil =>
    cases rest with
    | nil => exact ⟨[], p, rfl, rfl⟩
    | cons b rest =>
      refine ⟨[], p, rfl, if_neg ?_⟩
      rcases hrest b rfl with rfl | rfl | rfl <;> decide
  | cons c cs ih =>
    obtain ⟨hc, hcs⟩ := List.forall_mem_cons.1 hcs
    obtain ⟨ds, q, hds, hq⟩ := ih hcs (p.past (digitByte c))
    have hrange := toNat_of_isDigit hc
    have hbyte := toNat_digitByte hc
    have hdigit : (decide (0x30 ≤ digitByte c) && decide (digitByte c ≤ 0x39)) = true := by
      rw [Bool.and_eq_true, decide_eq_true_eq, decide_eq_true_eq, UInt8.le_iff_toNat_le,
        UInt8.le_iff_toNat_le, hbyte]
      exact hrange
    refine ⟨(digitValue c, p.past (digitByte c)) :: ds, q, congrArg (digitValue c :: ·) hds, ?_⟩
    rw [List.map_cons, List.cons_append, Cursor.digitsFrom, if_pos hdigit, hq, hbyte]
    rfl

/-- A number starts with a zero only if it is zero. -/
theorem eq_zero_of_head {n : Nat} (h : (Nat.toDigits 10 n).head? = some '0') : n = 0 := by
  induction n using Nat.strongRecOn with
  | ind n ih =>
    rw [Nat.toDigits_eq_if (by decide)] at h
    split at h
    · next hn =>
      have hall : ∀ k : Fin 10, Nat.digitChar k = '0' → k.val = 0 := by decide
      exact hall ⟨n, hn⟩ (Option.some_inj.1 h)
    · next hn =>
      obtain ⟨c, cs, hcs⟩ := List.exists_cons_of_ne_nil (Nat.toDigits_ne_nil (n := n / 10) (b := 10))
      have hzero := ih (n / 10) (by omega) (by rw [hcs] at h ⊢; exact h)
      omega

/-- Digits that write no number that is too great are all taken in. -/
theorem gather_eq {ds : List Nat} {significand : Nat} (taken : Nat)
    (h : ds.foldl (fun m d => m * 10 + d) significand ≤ maxSignificand) :
    gather significand taken ds =
      (ds.foldl (fun m d => m * 10 + d) significand, taken + ds.length, 0) := by
  have hle (ds : List Nat) (m : Nat) : m ≤ ds.foldl (fun m d => m * 10 + d) m := by
    induction ds generalizing m with
    | nil => exact Nat.le_refl m
    | cons d ds ih => exact Nat.le_trans (by omega) (ih (m * 10 + d))
  induction ds generalizing significand taken with
  | nil => rfl
  | cons d ds ih =>
    rw [List.foldl_cons] at h ⊢
    rw [gather, if_pos (Nat.le_trans (hle ds _) h), ih _ h, List.length_cons]
    congr 2
    omega

/-- The digits of a number write it. -/
theorem foldl_toDigits (n : Nat) :
    ((Nat.toDigits 10 n).map digitValue).foldl (fun m d => m * 10 + d) 0 = n := by
  rw [List.foldl_map]
  refine Eq.trans ?_ (Nat.ofDigitChars_ten_toDigits (n := n))
  rw [Nat.ofDigitChars]
  congr 1
  funext m c
  rw [Nat.mul_comm]
  rfl

/-! ## Numerals -/

/-- The digits of a number are a numeral of that number, with a minus sign or without. -/
theorem scan_digits {n : Nat} (negative : Bool) (p : Place) {rest : List UInt8} (hrest : Ends rest) :
    ∃ (numeral : Numeral) (q : Place),
      scan ⟨(if negative then [0x2D] else []) ++ ((Nat.toDigits 10 n).map digitByte ++ rest), p⟩ =
        .ok (numeral, ⟨rest, q⟩) ∧
      numeral.negative = negative ∧ numeral.whole = (Nat.toDigits 10 n).map digitValue ∧
      numeral.fraction = [] ∧ numeral.exponent = none := by
  obtain ⟨c, cs, hcs⟩ := List.exists_cons_of_ne_nil (Nat.toDigits_ne_nil (n := n) (b := 10))
  have hdigits : ∀ d ∈ c :: cs, d.isDigit := hcs ▸ isDigit_of_mem
  have hne : digitByte c ≠ 0x2D := by
    intro heq
    have hrange := toNat_of_isDigit (hdigits c List.mem_cons_self)
    rw [← toNat_digitByte (hdigits c List.mem_cons_self), heq] at hrange
    exact absurd hrange.1 (by decide)
  rw [hcs]
  -- Behind the sign, if there is one, stand the digits.
  obtain ⟨p', hhead, hadvance⟩ : ∃ p', (((if negative then [0x2D] else []) ++
      ((c :: cs).map digitByte ++ rest)).head? == some 0x2D) = negative ∧
      (if negative then Cursor.advance ⟨(if negative then [0x2D] else []) ++
        ((c :: cs).map digitByte ++ rest), p⟩ else ⟨(if negative then [0x2D] else []) ++
        ((c :: cs).map digitByte ++ rest), p⟩) = (⟨(c :: cs).map digitByte ++ rest, p'⟩ : Cursor) := by
    cases negative with
    | true => exact ⟨p.past 0x2D, rfl, rfl⟩
    | false => exact ⟨p, beq_eq_false_iff_ne.2 fun heq => hne (Option.some_inj.1 heq), rfl⟩
  obtain ⟨ds, q, hds, hq⟩ := digitsFrom_append hdigits hrest p'
  obtain ⟨⟨first, place⟩, more, rfl⟩ : ∃ d more, ds = d :: more := by
    cases ds with
    | nil => cases hds
    | cons d more => exact ⟨d, more, rfl⟩
  injection hds with hfirst hmore
  have hlead : ¬ (first == 0 && !more.isEmpty) := by
    intro hlead
    simp only [Bool.and_eq_true, beq_iff_eq, Bool.not_eq_true'] at hlead
    have hvalue : c.toNat - 48 = 0 := hfirst.symm.trans hlead.1
    have hrange := toNat_of_isDigit (hdigits c List.mem_cons_self)
    have hc : c = '0' := Char.toNat_inj.1 (show c.toNat = 48 by omega)
    have hzero : n = 0 := eq_zero_of_head (by rw [hcs, hc]; rfl)
    rw [hzero] at hcs
    injection hcs with _ hcs
    rw [← hcs, List.map_nil, List.map_eq_nil_iff] at hmore
    rw [hmore] at hlead
    exact nomatch hlead.2
  simp only [scan, hhead, hadvance, Cursor.digits, hq]
  rw [if_neg hlead]
  refine ⟨⟨negative, first :: more.map (·.1), [], none, q⟩, q, ?_, rfl, ?_, rfl, rfl⟩
  · cases rest with
    | nil => rfl
    | cons b rest => rcases hrest b rfl with rfl | rfl | rfl <;> rfl
  · exact List.cons_eq_cons.2 ⟨hfirst, hmore⟩

/-- A whole number is printed as its digits, behind its sign. -/
theorem bytesOf_numberText (n : Int) :
    bytesOf (numberText (.int n)) = (if decide (n < 0) then [0x2D] else []) ++
      (Nat.toDigits 10 n.natAbs).map digitByte := by
  rw [numberText, Text.bytesOf_append, bytesOf_digitText, Decimal.signText, apply_ite bytesOf]
  congr 1
  exact ite_congr rfl (fun _ => (Text.bytesOf_eq _).trans rfl) fun _ => (Text.bytesOf_eq _).trans rfl

/-- So it starts like a numeral. -/
theorem exists_numberText (n : Int) :
    ∃ b bs, bytesOf (numberText (.int n)) = b :: bs ∧ (b.toNat = 45 ∨ 48 ≤ b.toNat ∧ b.toNat ≤ 57) := by
  rw [bytesOf_numberText]
  split
  · exact ⟨_, _, rfl, .inl rfl⟩
  · obtain ⟨c, cs, hcs⟩ := List.exists_cons_of_ne_nil (Nat.toDigits_ne_nil (n := n.natAbs) (b := 10))
    have hc : c.isDigit := isDigit_of_mem c (hcs ▸ List.mem_cons_self)
    refine ⟨digitByte c, cs.map digitByte, by rw [hcs]; rfl, .inr ?_⟩
    rw [toNat_digitByte hc]
    exact toNat_of_isDigit hc

/-- A whole number is read back from what is printed for it. -/
theorem scan_whole {n : Int} (hn : Fits n) (p : Place) {rest : List UInt8} (hrest : Ends rest) :
    ∃ (numeral : Numeral) (q : Place),
      scan ⟨bytesOf (numberText (.int n)) ++ rest, p⟩ = .ok (numeral, ⟨rest, q⟩) ∧
      numeral.value = .ok (.int n) := by
  obtain ⟨numeral, q, hscan, hnegative, hwhole, hfraction, hexponent⟩ :=
    scan_digits (n := n.natAbs) (decide (n < 0)) p hrest
  rw [bytesOf_numberText, List.append_assoc]
  refine ⟨numeral, q, hscan, ?_⟩
  have hpow : (Nat.pow 2 63 : Int) = 9223372036854775808 ∧ (maxSignificand : Int) = 18446744073709551615 :=
    ⟨rfl, rfl⟩
  obtain ⟨hlow, hhigh⟩ := hn
  rw [hpow.1] at hlow
  have hgather := @gather_eq ((Nat.toDigits 10 n.natAbs).map digitValue) 0 0
  rw [foldl_toDigits] at hgather
  have hall := hgather (by omega)
  have hmagnitude : (!decide (n < 0) || decide (0 < n.natAbs) && decide (n.natAbs ≤ Nat.pow 2 63)) = true := by
    simp only [Bool.or_eq_true, Bool.and_eq_true, Bool.not_eq_true', decide_eq_false_iff_not,
      decide_eq_true_eq]
    omega
  have hsigned : (if decide (n < 0) then -(n.natAbs : Int) else (n.natAbs : Int)) = n := by
    split
    · next h =>
      rw [decide_eq_true_eq] at h
      omega
    · next h =>
      rw [decide_eq_true_eq] at h
      omega
  simp only [value, hwhole, hall, hfraction, hexponent, hnegative, hmagnitude, hsigned]
  rfl

end Numeral

end TripClient.Json
