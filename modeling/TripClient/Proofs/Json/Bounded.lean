import TripClient.Json.Decoder
import TripClient.Proofs.Json.Printed
import TripClient.Proofs.Sorted
import TripClient.Proofs.Success

/-!
# Values that are read are bounded

Whatever is read of a text, its whole numbers have 64 bits (`bounded_of_ofBytes`): a numeral whose number is
greater is read as a floating-point number. So the digits of a whole number are read as this number if it
fits, and else not as a whole number (`ofBytes_numberText`).
-/

namespace TripClient.Json

open Decoder (any anyItems anyMembers ofDocument)
open Text (bytesOf)

/-! ## Numerals -/

namespace Numeral

/-- The significand does not grow too large. -/
theorem gather_le {significand : Nat} (h : significand ≤ maxSignificand) (taken : Nat) (ds : List Nat) :
    (gather significand taken ds).1 ≤ maxSignificand := by
  induction ds generalizing significand taken with
  | nil => exact h
  | cons d ds ih =>
    unfold gather
    split
    · next hfits => exact ih hfits (taken + 1)
    · exact h

/-- If no digit is left, the significand is the number that the digits write. -/
theorem gather_of_none_left {significand taken : Nat} {ds : List Nat}
    (h : (gather significand taken ds).2.2 = 0) :
    (gather significand taken ds).1 = ds.foldl (fun m d => m * 10 + d) significand := by
  induction ds generalizing significand taken with
  | nil => rfl
  | cons d ds ih =>
    unfold gather at h ⊢
    split at h
    · next hfits =>
      rw [if_pos hfits]
      exact ih h
    · cases h

/-- A numeral has a whole number as its value only if no digit is left; the number is what its digits write,
and fits. -/
theorem value_eq_int {numeral : Numeral} {n : Int} (h : numeral.value = .ok (.int n)) :
    Fits n ∧ ∃ m : Nat, m = numeral.whole.foldl (fun m d => m * 10 + d) 0 ∧
      n = if numeral.negative then -(m : Int) else m := by
  have hbound := gather_le (Nat.zero_le maxSignificand) 0 numeral.whole
  have hnumber := @gather_of_none_left 0 0 numeral.whole
  unfold value at h
  generalize gather 0 0 numeral.whole = gathered at h hbound hnumber
  obtain ⟨significand, taken, left⟩ := gathered
  dsimp only at h hbound hnumber
  split at h
  · next hwhole =>
    simp only [Bool.and_eq_true, Bool.or_eq_true, Bool.not_eq_true', decide_eq_true_eq, beq_iff_eq] at hwhole
    obtain ⟨⟨-, rfl⟩, hsign⟩ := hwhole
    cases h
    refine ⟨?_, significand, hnumber rfl, rfl⟩
    cases hnegative : numeral.negative with
    | false => exact fits_ofNat hbound
    | true =>
      -- Behind a minus sign the number is checked once more.
      rw [hnegative] at hsign
      obtain ⟨-, hpow⟩ := hsign.resolve_left nofun
      simp only [if_true]
      exact ⟨by omega, by omega⟩
  · -- Any other numeral is read as a floating-point number, or is out of range.
    split at h
    · split at h <;> cases h
    · split at h
      · split at h <;> cases h
      · split at h <;> cases h

end Numeral

/-! ## Values -/

/-- A value of which all whole numbers have 64 bits. -/
inductive Bounded : Json → Prop
  | null : Bounded .null
  | bool (b : Bool) : Bounded (.bool b)
  | string (s : String) : Bounded (.string s)
  | float (x : Float) : Bounded (.number (.float x))
  | whole {n : Int} : Fits n → Bounded (.number (.int n))
  | array {vs : List Json} : (∀ v ∈ vs, Bounded v) → Bounded (.array vs)
  | object {ms : List (String × Json)} : (∀ m ∈ ms, Bounded m.2) → Bounded (.object ms)

/-- A value that is neither an array nor an object is bounded when it is read. -/
theorem bounded_of_readScalar {c : Cursor} {v : Json} (h : any (readScalar c).1 = .ok v) : Bounded v := by
  unfold readScalar at h
  split at h
  · cases h
  · dsimp only at h
    split at h
    · split at h <;> cases h
      exact .null
    split at h
    · split at h <;> cases h
      exact .bool true
    split at h
    · split at h <;> cases h
      exact .bool false
    split at h
    · split at h
      · obtain ⟨s, -, rfl⟩ := map_eq_ok.1 h
        exact .string s
      · split at h <;> cases h
    split at h
    · split at h
      · obtain ⟨n, hn, rfl⟩ := map_eq_ok.1 h
        cases n with
        | int n => exact .whole (Numeral.value_eq_int hn).1
        | float x => exact .float x
      · cases h
    split at h
    · cases h
    split at h
    · cases h
    · cases h

/-- Elements that are read are bounded, if what is read with less fuel is. -/
theorem bounded_of_elementFrom {fuel depth : Nat}
    (hvalue : ∀ depth c v, any (readValue fuel depth c).1 = .ok v → Bounded v)
    (hitems : ∀ depth first c vs, anyItems (readItems fuel depth first c).1 = .ok vs → ∀ v ∈ vs, Bounded v)
    {c : Cursor} {vs : List Json} (h : anyItems (elementFrom fuel depth c).1 = .ok vs) :
    ∀ v ∈ vs, Bounded v := by
  have hhead := hvalue depth c
  unfold elementFrom at h
  split at h
  · obtain ⟨v, -, hrest⟩ := bind_eq_ok.1 h
    cases hrest
  · next v after hread =>
    rw [hread] at hhead
    obtain ⟨w, hw, hrest⟩ := bind_eq_ok.1 h
    obtain ⟨ws, hws, hvs⟩ := bind_eq_ok.1 hrest
    cases hvs
    exact List.forall_mem_cons.2 ⟨hhead w hw, hitems depth false after ws hws⟩

/-- So are members. -/
theorem bounded_of_memberFrom {fuel depth : Nat}
    (hvalue : ∀ depth c v, any (readValue fuel depth c).1 = .ok v → Bounded v)
    (hmembers : ∀ depth first c ms, anyMembers (readMembers fuel depth first c).1 = .ok ms →
      ∀ m ∈ ms, Bounded m.2)
    {before : Place} {c : Cursor} {ms : List (String × Json)}
    (h : anyMembers (memberFrom fuel depth before c).1 = .ok ms) : ∀ m ∈ ms, Bounded m.2 := by
  unfold memberFrom at h
  split at h
  · cases h
  · next key next _ =>
    split at h
    · obtain ⟨name, -, hrest⟩ := bind_eq_ok.1 h
      cases hrest
    · split at h
      · have hhead := hvalue depth next.advance
        split at h
        · obtain ⟨name, -, hrest⟩ := bind_eq_ok.1 h
          obtain ⟨v, -, hrest⟩ := bind_eq_ok.1 hrest
          cases hrest
        · next v after hread =>
          rw [hread] at hhead
          obtain ⟨name, -, hrest⟩ := bind_eq_ok.1 h
          obtain ⟨w, hw, hrest⟩ := bind_eq_ok.1 hrest
          obtain ⟨ws, hws, hms⟩ := bind_eq_ok.1 hrest
          cases hms
          exact List.forall_mem_cons.2 ⟨hhead w hw, hmembers depth false after ws hws⟩
      · obtain ⟨name, -, hrest⟩ := bind_eq_ok.1 h
        cases hrest

/-- Values, elements and members are bounded when they are read; the fuel is that of the reader. -/
theorem bounded_of_read (fuel : Nat) :
    (∀ depth c v, any (readValue fuel depth c).1 = .ok v → Bounded v) ∧
      (∀ depth first c vs, anyItems (readItems fuel depth first c).1 = .ok vs → ∀ v ∈ vs, Bounded v) ∧
      ∀ depth first c ms, anyMembers (readMembers fuel depth first c).1 = .ok ms → ∀ m ∈ ms, Bounded m.2 := by
  induction fuel with
  | zero =>
    -- Without fuel nothing is read.
    exact ⟨fun _ _ _ h => (by cases h), fun _ _ _ _ h => (by cases h), fun _ _ _ _ h => (by cases h)⟩
  | succ fuel ih =>
    obtain ⟨hvalue, hitems, hmembers⟩ := ih
    refine ⟨fun depth c v h => ?value, fun depth first c vs h => ?items, fun depth first c ms h => ?members⟩
    case value =>
      unfold readValue at h
      dsimp only at h
      split at h
      · exact bounded_of_readScalar h
      split at h
      · obtain ⟨_, -, h⟩ := bind_eq_ok.1 h
        obtain ⟨vs, hvs, h⟩ := bind_eq_ok.1 h
        cases h
        exact .array (hitems _ _ _ vs hvs)
      split at h
      · obtain ⟨_, -, h⟩ := bind_eq_ok.1 h
        obtain ⟨ms, hms, h⟩ := bind_eq_ok.1 h
        cases h
        exact .object fun m hm => hmembers _ _ _ ms hms m (Sorted.mem_of_mem_ofList hm)
      · exact bounded_of_readScalar h
    case items =>
      have helement {c : Cursor} (h : anyItems (elementFrom fuel depth c).1 = .ok vs) :=
        bounded_of_elementFrom hvalue hitems h
      unfold readItems at h
      dsimp only at h
      split at h
      · cases h
      split at h
      · cases h
        exact List.forall_mem_nil _
      split at h
      · exact helement h
      split at h
      · split at h
        · cases h
        split at h
        · cases h
        · exact helement h
      · cases h
    case members =>
      have hmember {before : Place} {c : Cursor}
          (h : anyMembers (memberFrom fuel depth before c).1 = .ok ms) :=
        bounded_of_memberFrom hvalue hmembers h
      unfold readMembers at h
      dsimp only at h
      split at h
      · cases h
      split at h
      · cases h
        exact List.forall_mem_nil _
      split at h
      · split at h
        · exact hmember h
        · cases h
      split at h
      · split at h
        · cases h
        split at h
        · exact hmember h
        split at h
        · cases h
        · cases h
      · cases h

/-- Whatever is read of a text is bounded. -/
theorem bounded_of_ofBytes {bytes : List UInt8} {v : Json} (h : ofDocument any (.ofBytes bytes) = .ok v) :
    Bounded v := by
  have hread := (bounded_of_read (2 * bytes.length + 2)).1 0 (.ofBytes bytes) v
  obtain ⟨_, hroot, h⟩ := bind_eq_ok.1 h
  obtain ⟨_, -, hv⟩ := bind_eq_ok.1 h
  cases hv
  refine hread ?_
  unfold Document.ofBytes at hroot
  split at hroot
  · next root heq => rwa [heq]
  · next root after heq => rwa [heq]

/-- The digits of a whole number are read as a numeral of this number. -/
theorem ofBytes_numberText (n : Int) : ∃ numeral : Numeral,
    Document.ofBytes (bytesOf (numberText (.int n))) = ⟨.number numeral.value ⟨.start, numeral.stop⟩, .ok ()⟩ ∧
      (Fits n → numeral.value = .ok (.int n)) ∧ ∀ m, numeral.value = .ok (.int m) → m = n ∧ Fits n := by
  obtain ⟨numeral, q, hscan, hnegative, hwhole, -, -⟩ :=
    Numeral.scan_digits (n := n.natAbs) (decide (n < 0)) .start ends_nil
  rw [← List.append_assoc, ← Numeral.bytesOf_numberText] at hscan
  refine ⟨numeral, ?_, fun hn => ?_, fun m hm => ?_⟩
  · obtain ⟨b, bs, hbs, hb⟩ := Numeral.exists_numberText n
    have hscalar := readScalar_numberText hscan
    rw [List.append_nil, hbs] at hscalar
    rw [Document.ofBytes, Cursor.ofBytes, hbs, readValue_scalar (Starts.of_numeral hb).notBlank
      (ne_of_numeral hb (by decide)) (ne_of_numeral hb (by decide)), hscalar]
    rfl
  · obtain ⟨numeral', q', hscan', hvalue⟩ := Numeral.scan_whole hn .start ends_nil
    obtain ⟨rfl, -⟩ := Prod.mk.inj (Except.ok.inj (hscan.symm.trans hscan'))
    exact hvalue
  · obtain ⟨hfits, magnitude, hmagnitude, hsigned⟩ := Numeral.value_eq_int hm
    rw [hwhole, Numeral.foldl_toDigits] at hmagnitude
    have hmn : m = n := by
      rw [hsigned, hnegative, hmagnitude]
      simp only [decide_eq_true_eq]
      omega
    exact ⟨hmn, hmn ▸ hfits⟩

end TripClient.Json
