/-!
# Sets of characters given by ranges

A property of characters is stored as inclusive ranges of code points, which rise and do not touch
each other. Membership is a binary search (`CodeRanges.contains`), and it finds exactly what lies in
a range (`CodeRanges.contains_iff`).
-/

namespace TripClient.Text

/-- The value of a digit in base sixteen, of either case. -/
def hexDigit? (c : Char) : Option Nat :=
  if '0' ≤ c ∧ c ≤ '9' then some (c.toNat - '0'.toNat)
  else if 'a' ≤ c ∧ c ≤ 'f' then some (c.toNat - 'a'.toNat + 10)
  else if 'A' ≤ c ∧ c ≤ 'F' then some (c.toNat - 'A'.toNat + 10)
  else none

/-- The number that the digits of a text write in base sixteen; other characters count as zero. -/
def hexNumber (s : String) : Nat :=
  s.foldl (fun n c => n * 16 + (hexDigit? c).getD 0) 0

/-- Whether ranges rise, from `start` on. -/
def risesFrom (start : Nat) : List (Nat × Nat) → Bool
  | [] => true
  | (a, b) :: rest => start ≤ a && a ≤ b && risesFrom (b + 1) rest

/-- Inclusive ranges of code points, in rising order. -/
structure CodeRanges where
  ranges : Array (Nat × Nat)
  rises : risesFrom 0 ranges.toList

namespace CodeRanges

/-- The ranges of a table. -/
def ofRows (rows : List (List (Nat × Nat)))
    (h : risesFrom 0 rows.flatten.toArray.toList := by decide +kernel) : CodeRanges :=
  ⟨rows.flatten.toArray, h⟩

/-- Whether `n` lies in one of the ranges with an index from `lo` up to, but not including, `hi`. -/
def search (ranges : Array (Nat × Nat)) (n lo hi : Nat) : Bool :=
  if lo < hi then
    let mid := lo + (hi - lo) / 2
    match ranges[mid]? with
    | none => false
    | some (a, b) =>
      if n < a then search ranges n lo mid
      else if b < n then search ranges n (mid + 1) hi
      else true
  else false
termination_by hi - lo

/-- Whether a code point lies in one of the ranges. -/
def contains (s : CodeRanges) (n : Nat) : Bool :=
  search s.ranges n 0 s.ranges.size

/-! ## What is found -/

/-- Ranges that rise from a number on lie behind it. -/
theorem le_of_mem_rising {start : Nat} {rs : List (Nat × Nat)} (h : risesFrom start rs)
    {r : Nat × Nat} (hr : r ∈ rs) : start ≤ r.1 ∧ r.1 ≤ r.2 := by
  induction rs generalizing start with
  | nil => cases hr
  | cons r' rs ih =>
    simp only [risesFrom, Bool.and_eq_true, decide_eq_true_eq] at h
    rcases List.mem_cons.1 hr with rfl | hr
    · exact h.1
    · have := ih h.2 hr
      omega

/-- A range that stands before another lies before it. -/
theorem lt_of_rising {start : Nat} {rs : List (Nat × Nat)} (h : risesFrom start rs) {i j : Nat}
    {r r' : Nat × Nat} (hr : rs[i]? = some r) (hr' : rs[j]? = some r') (hij : i < j) : r.2 < r'.1 := by
  induction rs generalizing start i j with
  | nil => cases hr
  | cons r'' rs ih =>
    simp only [risesFrom, Bool.and_eq_true, decide_eq_true_eq] at h
    obtain ⟨j, rfl⟩ : ∃ k, j = k + 1 := ⟨j - 1, by omega⟩
    rw [List.getElem?_cons_succ] at hr'
    cases i with
    | zero =>
      rw [List.getElem?_cons_zero, Option.some_inj] at hr
      subst hr
      exact (le_of_mem_rising h.2 (List.mem_of_getElem? hr')).1
    | succ i => exact ih h.2 (by simpa using hr) hr' (by omega)

/-- The search finds what lies in a range between its bounds: a range in the middle that lies behind
the number excludes all that follow it, and one that lies before it all that precede it. -/
theorem search_iff {ranges : Array (Nat × Nat)} (h : risesFrom 0 ranges.toList) {n lo hi : Nat}
    (hhi : hi ≤ ranges.size) :
    search ranges n lo hi ↔ ∃ i r, lo ≤ i ∧ i < hi ∧ ranges.toList[i]? = some r ∧ r.1 ≤ n ∧ n ≤ r.2 := by
  have hrange {i : Nat} {r : Nat × Nat} (hr : ranges.toList[i]? = some r) : r.1 ≤ r.2 :=
    (le_of_mem_rising h (List.mem_of_getElem? hr)).2
  fun_induction search ranges n lo hi with
  | case1 lo hi hlt mid hnone =>
    have hmid : mid < ranges.size := by omega
    rw [Array.getElem?_eq_getElem hmid] at hnone
    cases hnone
  | case2 lo hi hlt mid a b hsome hn ih =>
    rw [← Array.getElem?_toList] at hsome
    refine (ih (by omega)).trans ?_
    refine exists_congr fun i => exists_congr fun r => ?_
    constructor
    · rintro ⟨hlo, hi, hr⟩
      exact ⟨hlo, by omega, hr⟩
    · rintro ⟨hlo, hi, hr, hle, hge⟩
      refine ⟨hlo, Nat.not_le.1 fun hmid => ?_, hr, hle, hge⟩
      rcases Nat.eq_or_lt_of_le hmid with heq | hmid
      · rw [← heq, hsome] at hr
        cases hr
        omega
      · have := lt_of_rising h hsome hr hmid
        have := hrange hsome
        dsimp only at *
        omega
  | case3 lo hi hlt mid a b hsome hn hn' ih =>
    rw [← Array.getElem?_toList] at hsome
    refine (ih hhi).trans ?_
    refine exists_congr fun i => exists_congr fun r => ?_
    constructor
    · rintro ⟨hlo, hi, hr⟩
      exact ⟨by omega, hi, hr⟩
    · rintro ⟨hlo, hi, hr, hle, hge⟩
      refine ⟨Nat.not_lt.1 fun hmid => ?_, hi, hr, hle, hge⟩
      rcases Nat.eq_or_lt_of_le (Nat.le_of_lt_succ hmid) with heq | hmid
      · rw [heq, hsome] at hr
        cases hr
        omega
      · have := lt_of_rising h hr hsome hmid
        have := hrange hsome
        dsimp only at *
        omega
  | case4 lo hi hlt mid a b hsome hn hn' =>
    rw [← Array.getElem?_toList] at hsome
    exact ⟨fun _ => ⟨mid, (a, b), by omega, by omega, hsome, Nat.not_lt.1 hn, Nat.not_lt.1 hn'⟩,
      fun _ => rfl⟩
  | case5 lo hi hlt =>
    refine ⟨nofun, ?_⟩
    rintro ⟨i, r, hlo, hi, -⟩
    omega

/-- A code point is found exactly if it lies in a range. -/
theorem contains_iff {s : CodeRanges} {n : Nat} :
    s.contains n ↔ ∃ r ∈ s.ranges.toList, r.1 ≤ n ∧ n ≤ r.2 := by
  rw [contains, search_iff s.rises (Nat.le_refl _)]
  constructor
  · rintro ⟨i, r, -, -, hr, hn⟩
    exact ⟨r, List.mem_of_getElem? hr, hn⟩
  · rintro ⟨r, hr, hn⟩
    obtain ⟨i, hi, rfl⟩ := List.mem_iff_getElem.1 hr
    exact ⟨i, _, Nat.zero_le i, by simpa using hi, List.getElem?_eq_getElem hi, hn⟩

end CodeRanges

end TripClient.Text
