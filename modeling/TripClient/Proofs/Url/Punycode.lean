import Mathlib.Tactic.Ring
import TripClient.Url.Domain.Punycode

/-!
# Labels in ASCII letters are read back

Reading what `encode` writes gives the label that was written (`decode?_encode`). Writer and reader
share one counter over all code points and all places in the part of the label that is in. `Agrees`
says how far both have come: the reader, behind the digits that were written, holds that part
(`partOf`), and its counter and the steps that the writer has not written yet make the writer's
counter. It holds at the start, a character that is passed keeps it (`Agrees.pass`), and so do a whole
pass (`Agrees.foldl_pass`) and the move to the next code point (`Agrees.next`). What is written is ASCII
(`encode_ascii`), without capitals and points beyond those of the label (`mem_encode`).
-/

namespace TripClient.Url.Domain.Punycode

/-! ## Numbers -/

/-- A digit is read as the number that it writes. -/
theorem digit?_digitChar {d : Nat} (h : d < 36) : digit? (digitChar d) = some d := by
  have hall : ∀ k : Fin 36, digit? (digitChar k) = some k.val := by decide
  exact hall ⟨d, h⟩

/-- A step down the digits of a number. -/
theorem lt_threshold_or (bias place n : Nat) :
    n < threshold bias place ∧ n < 36 ∨
      threshold bias place ≤ n ∧
        threshold bias place + (n - threshold bias place) % (36 - threshold bias place) < 36 := by
  have hlow := one_le_threshold bias place
  have hhigh := threshold_le bias place
  have hmod := Nat.mod_lt (n - threshold bias place) (y := 36 - threshold bias place) (by omega)
  omega

/-- A number is read back, whatever follows its digits. -/
theorem readNumber?_numberDigits (bias place weight m n : Nat) (rest : List Char) :
    readNumber? bias place weight m (numberDigits bias place n ++ rest) =
      some (m + n * weight, rest) := by
  induction place, n using numberDigits.induct bias generalizing weight m with
  | case1 place n t h =>
    have hd : n < 36 := Nat.lt_of_lt_of_le h (Nat.le_trans (threshold_le bias place) (by decide))
    rw [numberDigits, if_pos h, List.singleton_append, readNumber?]
    simp [digit?_digitChar hd, show n < threshold bias place from h]
  | case2 place n t h ih =>
    obtain ⟨hlt, -⟩ | ⟨hle, hd⟩ := lt_threshold_or bias place n
    · exact absurd hlt h
    have hvalue : m + (t + (n - t) % (36 - t)) * weight + (n - t) / (36 - t) * (weight * (36 - t)) =
        m + n * weight := by
      have hparts := Nat.mod_add_div (n - t) (36 - t)
      have hsum : t + (n - t) % (36 - t) + (n - t) / (36 - t) * (36 - t) = n := by
        rw [Nat.mul_comm ((n - t) / (36 - t))]
        omega
      calc m + (t + (n - t) % (36 - t)) * weight + (n - t) / (36 - t) * (weight * (36 - t))
          = m + (t + (n - t) % (36 - t) + (n - t) / (36 - t) * (36 - t)) * weight := by ring
        _ = m + n * weight := by rw [hsum]
    rw [numberDigits, if_neg h, List.cons_append, readNumber?, digit?_digitChar hd]
    simp only [Option.bind_eq_bind, Option.bind_some, if_neg (Nat.not_lt.2 (Nat.le_add_right _ _))]
    rw [ih, hvalue]

/-- A number has a digit. -/
theorem numberDigits_ne_nil (bias place n : Nat) : numberDigits bias place n ≠ [] := by
  rw [numberDigits]
  split <;> exact List.cons_ne_nil _ _

/-! ## One character is read -/

/-- A character is put in between two parts of a label. -/
theorem insertIdx_length (front back : List Char) (c : Char) :
    (front ++ back).insertIdx front.length c = front ++ c :: back := by
  induction front with
  | nil => rfl
  | cons d front ih =>
    rw [List.cons_append, List.length_cons, List.insertIdx_succ_cons, ih, List.cons_append]

/-- Behind the digits of the steps that lead there, the reader puts a character in. -/
theorem takeOut?_numberDigits {bias n place steps i : Nat} {label : List Char} {c : Char}
    (hsteps : n * (label.length + 1) + (place + steps) = c.toNat * (label.length + 1) + i)
    (hi : i ≤ label.length) (rest : List Char) :
    takeOut? bias n place label (numberDigits bias 36 steps ++ rest) =
      takeOut? (adapt steps (label.length + 1) (place == 0)) c.toNat (i + 1) (label.insertIdx i c)
        rest := by
  have hcode : n + (place + steps) / (label.length + 1) = c.toNat := by
    have hdiv := congrArg (· / (label.length + 1)) hsteps
    simpa [Nat.add_comm, Nat.add_mul_div_right, Nat.div_eq_of_lt (Nat.lt_succ_of_le hi)] using hdiv
  have hplace : (place + steps) % (label.length + 1) = i := by
    have hmod := congrArg (· % (label.length + 1)) hsteps
    simpa [Nat.add_comm, Nat.mod_eq_of_lt (Nat.lt_succ_of_le hi)] using hmod
  have hchar : isCodePoint c.toNat := by
    have hvalid := c.valid
    simp only [isCodePoint, Bool.or_eq_true, Bool.and_eq_true, decide_eq_true_eq]
    exact hvalid
  have hempty : (numberDigits bias 36 steps ++ rest).isEmpty = false := by
    simp [numberDigits_ne_nil]
  rw [takeOut?, hempty, if_neg Bool.false_ne_true]
  split
  · next hnone =>
    rw [readNumber?_numberDigits] at hnone
    cases hnone
  · next count rest' hsome =>
    rw [readNumber?_numberDigits, Nat.mul_one] at hsome
    cases hsome
    simp only [hcode, hplace, hchar, if_true, Char.ofNat_toNat, Nat.add_sub_cancel_left]

/-! ## Writer and reader side by side -/

/-- The part of a label that is in when the writer is at the code point `n`, behind the characters
`before`. -/
def partOf (n : Nat) (before behind : List Char) : List Char :=
  before.filter (·.toNat ≤ n) ++ behind.filter (·.toNat < n)

/-- The reader has followed the writer, which is at the code point `n` behind the characters `before`
of a label with the ASCII characters `basic`. -/
structure Agrees (basic : List Char) (n : Nat) (before behind : List Char) (p : Progress) : Prop where
  handled : p.handled = (partOf n before behind).length
  read : ∃ code place,
    (∀ rest, takeOut? 72 0x80 0 basic (p.digits ++ rest) =
      takeOut? p.bias code place (partOf n before behind) rest) ∧
    code * (p.handled + 1) + (place + p.steps) =
      n * (p.handled + 1) + (before.filter (·.toNat ≤ n)).length ∧
    (place = 0 ∧ p.handled = basic.length ∨ 0 < place ∧ basic.length < p.handled)

namespace Agrees

variable {basic before behind : List Char} {n : Nat} {p : Progress}

/-- Passing a character keeps both together. -/
theorem pass {c : Char} (h : Agrees basic n before (c :: behind) p) :
    Agrees basic n (before ++ [c]) behind (pass basic.length n p c) := by
  obtain ⟨hhandled, code, place, hread, hsteps, hfirst⟩ := h
  rcases Nat.lt_trichotomy c.toNat n with hlt | heq | hgt
  · -- the character is in already: the counter goes on by one place
    have hpart : partOf n (before ++ [c]) behind = partOf n before (c :: behind) := by
      simp [partOf, List.filter_append, hlt, Nat.le_of_lt hlt]
    rw [Punycode.pass, if_pos hlt]
    refine ⟨by rw [hpart]; exact hhandled, code, place, by rw [hpart]; exact hread, ?_, hfirst⟩
    simp only [List.filter_append, List.filter_cons, List.filter_nil, List.length_append,
      decide_eq_true (Nat.le_of_lt hlt), if_true, List.length_singleton]
    omega
  · -- the character is put in, and its steps are written
    subst heq
    have hin : partOf c.toNat (before ++ [c]) behind =
        (partOf c.toNat before (c :: behind)).insertIdx (before.filter (·.toNat ≤ c.toNat)).length c := by
      simp [partOf, List.filter_append, insertIdx_length]
    have hplace : (before.filter (·.toNat ≤ c.toNat)).length ≤
        (partOf c.toNat before (c :: behind)).length := by
      rw [partOf, List.length_append]
      exact Nat.le_add_right _ _
    have hbegin : (place == 0) = (p.handled == basic.length) := by
      rcases hfirst with ⟨rfl, heq⟩ | ⟨hpos, hlt⟩
      · rw [heq, beq_self_eq_true, beq_self_eq_true]
      · rw [beq_false_of_ne (Nat.ne_of_gt hpos), beq_false_of_ne (Nat.ne_of_gt hlt)]
    have hlength : (partOf c.toNat (before ++ [c]) behind).length = p.handled + 1 := by
      rw [hin, List.length_insertIdx_of_le_length hplace, hhandled]
    rw [Punycode.pass, if_neg (Nat.lt_irrefl _), if_pos rfl]
    rw [hhandled] at hsteps
    refine ⟨hlength.symm, c.toNat, (before.filter (·.toNat ≤ c.toNat)).length + 1, ?_, ?_, ?_⟩
    · intro rest
      rw [List.append_assoc, hread, takeOut?_numberDigits hsteps hplace, hin, hbegin, hhandled]
    · simp [List.filter_append]
    · rcases hfirst with ⟨-, heq⟩ | ⟨-, hlt⟩ <;> dsimp only <;> omega
  · -- the character comes later
    have hpart : partOf n (before ++ [c]) behind = partOf n before (c :: behind) := by
      simp [partOf, List.filter_append, Nat.not_lt.2 (Nat.le_of_lt hgt), Nat.not_le.2 hgt]
    rw [Punycode.pass, if_neg (Nat.not_lt.2 (Nat.le_of_lt hgt)), if_neg (Nat.ne_of_gt hgt)]
    refine ⟨by rw [hpart]; exact hhandled, code, place, by rw [hpart]; exact hread, ?_, hfirst⟩
    simpa [List.filter_append, Nat.not_le.2 hgt] using hsteps

/-- Passing all characters that are left keeps both together. -/
theorem foldl_pass (h : Agrees basic n before behind p) :
    Agrees basic n (before ++ behind) [] (behind.foldl (Punycode.pass basic.length n) p) := by
  induction behind generalizing before p with
  | nil => rwa [List.append_nil]
  | cons c behind ih =>
    rw [← List.singleton_append, ← List.append_assoc, List.foldl_append]
    exact ih h.pass

/-- Behind the last character the counter goes on to the next code point. -/
theorem next {label : List Char} (h : Agrees basic n label [] p) :
    Agrees basic (n + 1) [] label { p with steps := p.steps + 1 } := by
  have hpart : partOf (n + 1) [] label = partOf n label [] := by
    rw [partOf, partOf, List.filter_nil, List.filter_nil, List.nil_append, List.append_nil]
    exact List.filter_congr fun c _ => by rw [decide_eq_decide, Nat.lt_succ_iff]
  obtain ⟨hhandled, code, place, hread, hsteps, hfirst⟩ := h
  have hall : (label.filter (·.toNat ≤ n)).length = p.handled := by
    rw [hhandled, partOf, List.filter_nil, List.append_nil]
  refine ⟨by rw [hpart]; exact hhandled, code, place, by rw [hpart]; exact hread, ?_, hfirst⟩
  rw [List.filter_nil, List.length_nil, Nat.add_mul, Nat.one_mul]
  dsimp only
  omega

/-- The counter goes on over code points that the label does not hold. -/
theorem skip {label : List Char} {m : Nat} (h : Agrees basic n [] label p) (hle : n ≤ m)
    (hnone : ∀ c ∈ label, n ≤ c.toNat → m ≤ c.toNat) :
    Agrees basic m [] label { p with steps := p.steps + (m - n) * (p.handled + 1) } := by
  have hpart : partOf m [] label = partOf n [] label := by
    rw [partOf, partOf]
    refine congrArg _ (List.filter_congr fun c hc => ?_)
    have := hnone c hc
    rw [decide_eq_decide]
    omega
  obtain ⟨hhandled, code, place, hread, hsteps, hfirst⟩ := h
  refine ⟨by rw [hpart]; exact hhandled, code, place, by rw [hpart]; exact hread, ?_, hfirst⟩
  obtain ⟨k, rfl⟩ := Nat.exists_eq_add_of_le hle
  rw [Nat.add_sub_cancel_left, Nat.add_mul]
  rw [List.filter_nil, List.length_nil] at hsteps ⊢
  dsimp only
  omega

/-- At the start, the reader holds the ASCII characters. -/
theorem start (label : List Char) :
    Agrees (label.filter isAscii) 0x80 [] label ⟨[], 0, 72, (label.filter isAscii).length⟩ :=
  ⟨rfl, 0x80, 0, fun _ => rfl, rfl, .inl ⟨rfl, rfl⟩⟩

end Agrees

/-- When the code points that are left are those of the characters that are not in yet, the reader ends
with the whole label. -/
theorem takeOut?_putIn {label basic : List Char} {ns : List Nat} {reached : Nat} {p : Progress}
    (hrising : ns.Pairwise (· < ·)) (hreached : ∀ n ∈ ns, reached ≤ n)
    (hleft : ∀ c ∈ label, reached ≤ c.toNat → c.toNat ∈ ns)
    (h : Agrees basic reached [] label p) :
    takeOut? 72 0x80 0 basic (putIn label basic.length ns reached p) = some label := by
  induction ns generalizing reached p with
  | nil =>
    have hall : partOf reached [] label = label := by
      refine List.filter_eq_self.2 fun c hc => ?_
      have := mt (hleft c hc) List.not_mem_nil
      rw [decide_eq_true_eq]
      omega
    obtain ⟨-, code, place, hread, -⟩ := h
    have hend := hread []
    rw [List.append_nil] at hend
    rw [putIn, hend, hall, takeOut?]
    rfl
  | cons n ns ih =>
    rw [putIn]
    refine ih (List.pairwise_cons.1 hrising).2 (List.pairwise_cons.1 hrising).1 ?_
      ((h.skip (hreached n List.mem_cons_self) ?_).foldl_pass).next
    · intro c hc hlt
      rcases List.mem_cons.1 (hleft c hc (by have := hreached n List.mem_cons_self; omega)) with heq | hmem
      · omega
      · exact hmem
    · intro c hc hle
      rcases List.mem_cons.1 (hleft c hc hle) with heq | hmem
      · exact Nat.le_of_eq heq.symm
      · exact Nat.le_of_lt ((List.pairwise_cons.1 hrising).1 _ hmem)

/-! ## The code points of a label -/

/-- A number is in when it was put in or was there. -/
theorem mem_insertNumber {n m : Nat} {ns : List Nat} : m ∈ insertNumber n ns ↔ m = n ∨ m ∈ ns := by
  induction ns with
  | nil => simp [insertNumber]
  | cons k ns ih =>
    rw [insertNumber]
    split
    · simp
    · split
      · next heq => simp [heq]
      · simp only [List.mem_cons, ih]
        tauto

/-- Numbers go on rising when one is put in. -/
theorem insertNumber_rising {n : Nat} {ns : List Nat} (h : ns.Pairwise (· < ·)) :
    (insertNumber n ns).Pairwise (· < ·) := by
  induction ns with
  | nil => simp [insertNumber]
  | cons k ns ih =>
    obtain ⟨hk, hns⟩ := List.pairwise_cons.1 h
    rw [insertNumber]
    split
    · next hlt =>
      refine List.pairwise_cons.2 ⟨fun m hm => ?_, h⟩
      rcases List.mem_cons.1 hm with rfl | hm
      · exact hlt
      · exact Nat.lt_trans hlt (hk m hm)
    · split
      · exact h
      · refine List.pairwise_cons.2 ⟨fun m hm => ?_, ih hns⟩
        rcases mem_insertNumber.1 hm with rfl | hm
        · omega
        · exact hk m hm

/-- The code points beyond ASCII rise. -/
theorem codePoints_rising (label : List Char) : (codePoints label).Pairwise (· < ·) := by
  rw [codePoints]
  induction label.filter fun c => !isAscii c with
  | nil => exact List.Pairwise.nil
  | cons c cs ih => exact insertNumber_rising ih

/-- They are those of the characters beyond ASCII. -/
theorem mem_codePoints {label : List Char} {n : Nat} :
    n ∈ codePoints label ↔ ∃ c ∈ label, 0x80 ≤ c.toNat ∧ n = c.toNat := by
  have hcodes (cs : List Char) :
      n ∈ cs.foldr (fun c ns => insertNumber c.toNat ns) [] ↔ ∃ c ∈ cs, n = c.toNat := by
    induction cs with
    | nil => simp
    | cons c cs ih => simp [mem_insertNumber, ih]
  rw [codePoints, hcodes]
  simp [isAscii, and_assoc]

/-! ## What is written -/

/-- Numbers are written with digits. -/
theorem mem_numberDigits {bias place n : Nat} {c : Char} (h : c ∈ numberDigits bias place n) :
    ∃ d < 36, c = digitChar d := by
  induction place, n using numberDigits.induct bias with
  | case1 place n t hlt =>
    rw [numberDigits, if_pos hlt, List.mem_singleton] at h
    exact ⟨n, Nat.lt_of_lt_of_le hlt (Nat.le_trans (threshold_le bias place) (by decide)), h⟩
  | case2 place n t hle ih =>
    rw [numberDigits, if_neg hle] at h
    rcases List.mem_cons.1 h with rfl | h
    · obtain ⟨hlt, -⟩ | ⟨-, hd⟩ := lt_threshold_or bias place n
      · exact absurd hlt hle
      · exact ⟨_, hd, rfl⟩
    · exact ih h

/-- Passing a character writes at most one number. -/
theorem mem_digits_pass {basic n : Nat} {p : Progress} {c d : Char}
    (h : d ∈ (pass basic n p c).digits) : d ∈ p.digits ∨ ∃ k < 36, d = digitChar k := by
  unfold pass at h
  split at h
  · exact .inl h
  · split at h
    · exact (List.mem_append.1 h).imp_right mem_numberDigits
    · exact .inl h

/-- Behind the digits that were there, only digits are written. -/
theorem mem_putIn {label : List Char} {basic reached : Nat} {ns : List Nat} {p : Progress} {d : Char}
    (h : d ∈ putIn label basic ns reached p) : d ∈ p.digits ∨ ∃ k < 36, d = digitChar k := by
  have hpass (n : Nat) (cs : List Char) {p : Progress} (h : d ∈ (cs.foldl (pass basic n) p).digits) :
      d ∈ p.digits ∨ ∃ k < 36, d = digitChar k := by
    induction cs generalizing p with
    | nil => exact .inl h
    | cons c cs ih => exact (ih h).elim mem_digits_pass .inr
  induction ns generalizing reached p with
  | nil => exact .inl h
  | cons n ns ih => exact (ih h).elim (hpass n label) .inr

/-- The numbers behind the ASCII characters of a label. -/
theorem mem_numbers {label : List Char} {d : Char}
    (h : d ∈ putIn label (label.filter isAscii).length (codePoints label) 0x80
      ⟨[], 0, 72, (label.filter isAscii).length⟩) : ∃ k < 36, d = digitChar k :=
  (mem_putIn h).resolve_left List.not_mem_nil

/-- A label is written with its own ASCII characters, hyphens and digits. -/
theorem mem_encode {label : List Char} {d : Char} (h : d ∈ encode label) :
    d ∈ label ∧ isAscii d ∨ d = '-' ∨ ∃ k < 36, d = digitChar k := by
  rcases List.mem_append.1 h with h | h
  · split at h
    · cases h
    · exact (List.mem_append.1 h).imp List.mem_filter.1 fun h => .inl (List.mem_singleton.1 h)
  · exact .inr (.inr (mem_numbers h))

/-- What is written is ASCII. -/
theorem encode_ascii (label : List Char) : (encode label).all isAscii := by
  have hdigit : ∀ k : Fin 36, isAscii (digitChar k) := by decide
  refine List.all_eq_true.2 fun d hd => ?_
  rcases mem_encode hd with ⟨-, hascii⟩ | rfl | ⟨k, hk, rfl⟩
  · exact hascii
  · rfl
  · exact hdigit ⟨k, hk⟩

/-! ## Labels are read back -/

/-- A text without hyphens is all there is behind the last hyphen before it, or behind none. -/
theorem takeWhile_reverse_append {front digits : List Char} (h : '-' ∉ digits)
    (hfront : front.getLast? = none ∨ front.getLast? = some '-') :
    ((front ++ digits).reverse.takeWhile (· != '-')).reverse = digits := by
  have hall : ∀ d ∈ digits.reverse, d != '-' := by
    intro d hd
    rw [bne_iff_ne]
    rintro rfl
    exact h (List.mem_reverse.1 hd)
  have hstop : front.reverse.takeWhile (· != '-') = [] := by
    rw [List.getLast?_eq_head?_reverse] at hfront
    rcases hrev : front.reverse with - | ⟨c, cs⟩
    · rfl
    · rw [hrev] at hfront
      obtain rfl : c = '-' := by simpa using hfront
      rfl
  rw [List.reverse_append, List.takeWhile_append_of_pos hall, hstop, List.append_nil,
    List.reverse_reverse]

/-- A label is read back from what it is written as. -/
theorem decode?_encode (label : List Char) : decode? (encode label) = some label := by
  have hread : takeOut? 72 0x80 0 (label.filter isAscii)
      (putIn label (label.filter isAscii).length (codePoints label) 0x80
        ⟨[], 0, 72, (label.filter isAscii).length⟩) = some label := by
    refine takeOut?_putIn (codePoints_rising label) ?_ ?_ (Agrees.start label)
    · intro n hn
      obtain ⟨c, -, hc, rfl⟩ := mem_codePoints.1 hn
      exact hc
    · intro c hc hbeyond
      exact mem_codePoints.2 ⟨c, hc, hbeyond, rfl⟩
  have hhyphen : '-' ∉ putIn label (label.filter isAscii).length (codePoints label) 0x80
      ⟨[], 0, 72, (label.filter isAscii).length⟩ := by
    have hdigit : ∀ k : Fin 36, '-' ≠ digitChar k := by decide
    intro h
    obtain ⟨k, hk, heq⟩ := mem_numbers h
    exact hdigit ⟨k, hk⟩ heq
  rw [decode?, encode_ascii, Bool.not_true, if_neg Bool.false_ne_true, encode]
  generalize putIn label _ (codePoints label) 0x80 _ = digits at hread hhyphen ⊢
  split
  · next hempty =>
    rw [List.isEmpty_iff] at hempty
    rw [hempty] at hread
    rw [takeWhile_reverse_append hhyphen (.inl rfl), List.nil_append,
      decide_eq_false (Nat.lt_irrefl _), Bool.false_and, if_neg Bool.false_ne_true, hread]
  · next hbasic =>
    rw [takeWhile_reverse_append hhyphen (.inr List.getLast?_concat), List.append_assoc,
      List.singleton_append]
    have htake : ((label.filter isAscii) ++ '-' :: digits).take
        (((label.filter isAscii) ++ '-' :: digits).length - digits.length - 1) =
          label.filter isAscii := by
      refine List.take_left' ?_
      rw [List.length_append, List.length_cons]
      omega
    rw [htake, if_pos, hread]
    rw [Bool.and_eq_true, decide_eq_true_eq, List.length_append, List.length_cons]
    exact ⟨by omega, by simpa using hbasic⟩

end TripClient.Url.Domain.Punycode
