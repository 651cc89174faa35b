import TripClient.Text.Composition

/-!
# Texts that are composed already

A character stands alone if it comes apart into no others, is no mark, and joins to none before it
(`Alone`). A text of such characters is composed as it is (`compose_of_alone`). The ideographs are such
characters (`alone_of_ideograph`).
-/

namespace TripClient.Text

/-- Whether a character takes no part in composition. -/
structure Alone (n : Nat) : Prop where
  whole : ∀ steps, decompose steps n = [n]
  starter : combiningClass n = 0
  apart : ∀ a, join? a n = none

/-- Characters that are no marks stay in order. -/
theorem orderMarks_of_alone {ns : List Nat} (h : ∀ n ∈ ns, Alone n) : orderMarks ns = ns := by
  have hput {before : List Nat} {n : Nat} (hn : Alone n) : putMark n before = n :: before := by
    cases before with
    | nil => rfl
    | cons m before =>
      rw [putMark, hn.starter]
      rfl
  have hall (before : List Nat) {ns : List Nat} (h : ∀ n ∈ ns, Alone n) :
      ns.foldl (fun before n => putMark n before) before = ns.reverse ++ before := by
    induction ns generalizing before with
    | nil => rfl
    | cons n ns ih =>
      obtain ⟨hn, hns⟩ := List.forall_mem_cons.1 h
      rw [List.foldl_cons, hput hn, ih _ hns, List.reverse_cons, List.append_assoc,
        List.singleton_append]
  rw [orderMarks, hall [] h, List.append_nil, List.reverse_reverse]

/-- Characters that join to none before them stay apart. -/
theorem joinFrom_of_alone {ns : List Nat} (h : ∀ n ∈ ns, Alone n) (starter : Nat) :
    joinFrom starter [] 0 ns = starter :: ns := by
  induction ns generalizing starter with
  | nil => rfl
  | cons n ns ih =>
    obtain ⟨hn, hns⟩ := List.forall_mem_cons.1 h
    rw [joinFrom, hn.starter]
    simp only [hn.apart, ite_self, beq_self_eq_true, if_true, List.reverse_nil, ih hns,
      List.singleton_append]

/-- A text of characters that stand alone is composed. -/
theorem compose_of_alone {cs : List Char} (h : ∀ c ∈ cs, Alone c.toNat) : compose cs = cs := by
  have hwhole : (cs.flatMap fun c => decompose 5 c.toNat) = cs.map Char.toNat := by
    induction cs with
    | nil => rfl
    | cons c cs ih =>
      obtain ⟨hc, hcs⟩ := List.forall_mem_cons.1 h
      rw [List.flatMap_cons, hc.whole, ih hcs, List.singleton_append, List.map_cons]
  have halone : ∀ n ∈ cs.map Char.toNat, Alone n := fun n hn => by
    obtain ⟨c, hc, rfl⟩ := List.mem_map.1 hn
    exact h c hc
  have hjoin {ns : List Nat} (h : ∀ n ∈ ns, Alone n) : joinAll ns = ns := by
    cases ns with
    | nil => rfl
    | cons n ns =>
      obtain ⟨hn, hns⟩ := List.forall_mem_cons.1 h
      rw [joinAll, hn.starter, if_pos (beq_self_eq_true 0), joinFrom_of_alone hns]
  have hback : (cs.map Char.toNat).map Char.ofNat = cs := by
    rw [List.map_map]
    exact (List.map_congr_left fun c _ => Char.ofNat_toNat c).trans (List.map_id cs)
  unfold compose
  split
  · rfl
  · rw [hwhole, orderMarks_of_alone halone, hjoin halone, hback]

/-! ## Ideographs -/

/-- Whether a code point is that of a Chinese character. -/
def IsIdeograph (n : Nat) : Prop := 0x4E00 ≤ n ∧ n ≤ 0x9FFF

/-- Ideographs come apart into no others. -/
theorem decompose_of_ideograph {n : Nat} (h : IsIdeograph n) (steps : Nat) : decompose steps n = [n] := by
  have htable : decompositions.all fun d => d.code < 0x4E00 || 0x9FFF < d.code := by decide +kernel
  have hnone : (decompositions.find? fun d => d.code == n) = none := by
    refine List.find?_eq_none.2 fun d hd heq => ?_
    have hcode := List.all_eq_true.1 htable d hd
    rw [eq_of_beq heq, Bool.or_eq_true, decide_eq_true_eq, decide_eq_true_eq] at hcode
    exact hcode.elim (Nat.not_lt.2 h.1) (Nat.not_lt.2 h.2)
  obtain ⟨hlow, hhigh⟩ := h
  cases steps with
  | zero => rfl
  | succ steps =>
    have hsyllable : (decide (0xAC00 ≤ n) && decide (n ≤ 0xD7A3)) = false := by
      rw [decide_eq_false (by omega), Bool.false_and]
    rw [decompose, if_neg (by omega), hsyllable, if_neg Bool.false_ne_true, hnone]

/-- Ideographs are no marks. -/
theorem combiningClass_of_ideograph {n : Nat} (h : IsIdeograph n) : combiningClass n = 0 := by
  have htable : combiningClasses.all fun r => r.2.1 < 0x4E00 || 0x9FFF < r.1 := by decide +kernel
  unfold combiningClass
  split
  · rfl
  · split
    · next hfound =>
      have hrange := List.all_eq_true.1 htable _ (List.mem_of_find?_eq_some hfound)
      have hin := List.find?_some hfound
      simp only [Bool.or_eq_true, Bool.and_eq_true, decide_eq_true_eq] at hrange hin
      obtain ⟨hlow, hhigh⟩ := h
      omega
    · rfl

/-- Ideographs join to no character. -/
theorem join?_of_ideograph {n : Nat} (h : IsIdeograph n) (a : Nat) : join? a n = none := by
  have htable : decompositions.all fun d =>
      !d.joins || d.parts.all fun part => part < 0x4E00 || 0x9FFF < part := by decide +kernel
  have hnone : (decompositions.find? fun d => d.joins && d.parts == [a, n]) = none := by
    refine List.find?_eq_none.2 fun d hd hjoins => ?_
    have hparts := List.all_eq_true.1 htable d hd
    obtain ⟨hjoins, heq⟩ := Bool.and_eq_true_iff.1 hjoins
    rw [hjoins, eq_of_beq heq] at hparts
    simp only [Bool.not_true, Bool.false_or, List.all_cons, Bool.and_eq_true, Bool.or_eq_true,
      decide_eq_true_eq] at hparts
    exact hparts.2.1.elim (Nat.not_lt.2 h.1) (Nat.not_lt.2 h.2)
  obtain ⟨hlow, hhigh⟩ := h
  have hvowel : decide (n ≤ 0x1175) = false := decide_eq_false (by omega)
  have htail : decide (n ≤ 0x11C2) = false := decide_eq_false (by omega)
  rw [join?, hnone, hvowel, htail]
  simp only [Bool.and_false, Bool.false_eq_true, if_false, Option.map_none]

/-- Ideographs stand alone. -/
theorem alone_of_ideograph {n : Nat} (h : IsIdeograph n) : Alone n :=
  ⟨decompose_of_ideograph h, combiningClass_of_ideograph h, join?_of_ideograph h⟩

end TripClient.Text
