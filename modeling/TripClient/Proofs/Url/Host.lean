import TripClient.Proofs.Url.Domain
import TripClient.Url.Host

/-!
# Hosts are read back

A host that was read is read again from what it writes, unless it is a name with a label that is too
long to be read (`Host.OfWeb.read`): an address of four bytes from its bytes in base ten
(`Ipv4.ofChars?_toChars`), an address of eight groups although a run of zeros is left out
(`Ipv6.ofChars?_toChars`), and a name because it is in ASCII form. What a host writes is not empty, and it
holds no character with a meaning in addresses, but for brackets around it and colons between them
(`Host.Written`).
-/

namespace TripClient.Url

/-! ## Numbers -/

/-- A digit is read as the number that it writes. -/
theorem hexDigit?_digitChar {k : Nat} (h : k < 16) : Text.hexDigit? (Nat.digitChar k) = some k := by
  have hall : ∀ k : Fin 16, Text.hexDigit? (Nat.digitChar k) = some k.val := by decide
  exact hall ⟨k, h⟩

/-- Numbers are written with the digits of their base. -/
theorem mem_toDigits {base n : Nat} {c : Char} (hbase : 1 < base) (h : c ∈ Nat.toDigits base n) :
    ∃ k < base, c = Nat.digitChar k := by
  induction n using Nat.strongRecOn with
  | ind n ih =>
    rw [Nat.toDigits_eq_if hbase] at h
    split at h
    · next hn => exact ⟨n, hn, List.mem_singleton.1 h⟩
    · next hn =>
      rcases List.mem_append.1 h with h | h
      · exact ih (n / base) (Nat.div_lt_self (by omega) hbase) h
      · exact ⟨n % base, Nat.mod_lt n (by omega), List.mem_singleton.1 h⟩

/-- The digits of a number are plain. -/
theorem isPlain_of_mem_toDigits {base n : Nat} {c : Char} (hbase : 1 < base ∧ base ≤ 16)
    (h : c ∈ Nat.toDigits base n) : Domain.IsPlain c ∧ c ≠ '.' := by
  obtain ⟨k, hk, rfl⟩ := mem_toDigits hbase.1 h
  have hall : ∀ k : Fin 16, (Domain.Punycode.isAscii (Nat.digitChar k) ∧ ¬ Domain.isForbidden (Nat.digitChar k)) ∧
      Nat.digitChar k ≠ '.' := by decide
  exact hall ⟨k, by omega⟩

/-- The digits of a number are read as the number, one after the other. -/
theorem foldlM_toDigits {base : Nat} (hbase : 1 < base ∧ base ≤ 16) {step : Nat → Char → Option Nat}
    (hstep : ∀ n, ∀ k < base, step n (Nat.digitChar k) = some (n * base + k)) (n : Nat) :
    (Nat.toDigits base n).foldlM step 0 = some n := by
  induction n using Nat.strongRecOn with
  | ind n ih =>
    rw [Nat.toDigits_eq_if hbase.1]
    split
    · next hn =>
      rw [List.foldlM_cons, hstep 0 n hn]
      simp
    · next hn =>
      rw [List.foldlM_append, ih (n / base) (Nat.div_lt_self (by omega) hbase.1), Option.bind_eq_bind,
        Option.bind_some, List.foldlM_cons, hstep _ _ (Nat.mod_lt n (by omega)), Nat.div_add_mod']
      rfl

/-! ## Addresses of four bytes -/

namespace Ipv4

/-- The bytes of an address, the most significant first. -/
def bytes (address : Nat) : List Nat := [16777216, 65536, 256, 1].map (address / · % 256)

/-- An address is written as its bytes in base ten. -/
theorem toChars_eq (address : Nat) :
    toChars address = Text.join '.' ((bytes address).map (Nat.toDigits 10)) := by
  simp only [toChars, bytes, Decimal.digitText, String.toList_ofList, List.map_map, Function.comp_def]

theorem lt_of_mem_bytes {address b : Nat} (h : b ∈ bytes address) : b < 256 := by
  obtain ⟨unit, -, rfl⟩ := List.mem_map.1 h
  exact Nat.mod_lt _ (by decide)

/-- A byte in base ten is read as that byte. -/
theorem part?_toDigits {b : Nat} (h : b < 256) : part? (Nat.toDigits 10 b) = some b := by
  have hall : ∀ b : Fin 256, part? (Nat.toDigits 10 b.val) = some b.val := by decide +kernel
  exact hall ⟨b, h⟩

/-- Between its points an address has its bytes. -/
theorem pieces_toChars (address : Nat) :
    Text.pieces (· == '.') (toChars address) = (bytes address).map (Nat.toDigits 10) := by
  rw [toChars_eq]
  refine Text.pieces_join (beq_self_eq_true '.') (List.cons_ne_nil _ _) fun p hp c hc heq => ?_
  obtain ⟨b, -, rfl⟩ := List.mem_map.1 hp
  exact (isPlain_of_mem_toDigits (by decide) hc).2 (eq_of_beq heq)

/-- The parts of an address are its bytes. -/
theorem parts_toChars (address : Nat) :
    parts (toChars address) = (bytes address).map (Nat.toDigits 10) := by
  have hlast : ((bytes address).map (Nat.toDigits 10)).getLast? =
      some (Nat.toDigits 10 (address / 1 % 256)) := rfl
  rw [parts, pieces_toChars, hlast, if_neg]
  simp

theorem toChars_ne_nil (address : Nat) : toChars address ≠ [] := by
  rw [toChars_eq]
  exact List.append_ne_nil_of_left_ne_nil Nat.toDigits_ne_nil _

/-- An address is written with plain characters. -/
theorem isPlain_of_mem {address : Nat} {c : Char} (h : c ∈ toChars address) : Domain.IsPlain c := by
  rw [toChars_eq] at h
  rcases Text.mem_join h with rfl | ⟨_, hp, hc⟩
  · exact ⟨by decide, by decide⟩
  · obtain ⟨b, -, rfl⟩ := List.mem_map.1 hp
    exact (isPlain_of_mem_toDigits (by decide) hc).1

/-- As a domain name, an address is in ASCII form: its labels are digits. -/
theorem toAscii?_toChars (address : Nat) :
    Domain.toAscii? (toChars address) = some (toChars address) := by
  refine Domain.toAscii?_of_plain (fun c hc => isPlain_of_mem hc) fun p hp heq => ?_
  have hdigit : ∀ k : Fin 10, Nat.digitChar k ≠ 'x' := by decide
  rw [pieces_toChars] at hp
  obtain ⟨b, -, rfl⟩ := List.mem_map.1 hp
  obtain ⟨k, hk, hchar⟩ := mem_toDigits (by decide) (List.mem_of_head? heq)
  exact hdigit ⟨k, hk⟩ hchar.symm

/-- An address that is written ends in a number. -/
theorem endsInNumber_toChars (address : Nat) : endsInNumber (toChars address) := by
  have hlast : ((bytes address).map (Nat.toDigits 10)).getLast? =
      some (Nat.toDigits 10 (address / 1 % 256)) := rfl
  have hlt : address / 1 % 256 < 256 := Nat.mod_lt _ (by decide)
  rw [endsInNumber, parts_toChars, hlast]
  simp only [part?_toDigits hlt, Option.isSome_some, Bool.or_true]

/-- What numbers write is an address. -/
theorem lt_of_ofNumbers? {count value address : Nat} {ns : List Nat}
    (hvalue : value < 256 ^ count) (hcount : count ≤ 3)
    (h : ofNumbers? count value ns = some address) : address < 2 ^ 32 := by
  fun_induction ofNumbers? count value ns with
  | case1 => cases h
  | case2 count value n room hn =>
    cases h
    have hroom : 256 ^ count * room = 2 ^ 32 := by
      rw [show room = 256 ^ (4 - count) from rfl, ← Nat.pow_add, show count + (4 - count) = 4 by omega]
      rfl
    calc value * room + n < value * room + room := Nat.add_lt_add_left hn _
      _ = (value + 1) * room := (Nat.succ_mul value room).symm
      _ ≤ 256 ^ count * room := Nat.mul_le_mul_right room hvalue
      _ = 2 ^ 32 := hroom
  | case3 => cases h
  | case4 count value n m rest hn ih =>
    refine ih ?_ (by omega) h
    rw [Nat.pow_succ]
    omega
  | case5 => cases h

/-- An address is read back. -/
theorem ofChars?_toChars {address : Nat} (h : address < 2 ^ 32) :
    ofChars? (toChars address) = some address := by
  have hread : ((bytes address).map (Nat.toDigits 10)).mapM part? = some (bytes address) := by
    rw [List.mapM_map]
    refine (mapM_eq_some_map fun b hb => ?_).trans (by rw [List.map_id'])
    exact part?_toDigits (lt_of_mem_bytes hb)
  rw [ofChars?, parts_toChars, hread, Option.bind_eq_bind, Option.bind_some]
  have hbytes : bytes address = [address / 16777216 % 256, address / 65536 % 256, address / 256 % 256,
      address / 1 % 256] := rfl
  have hlt (n : Nat) : n % 256 < 256 := Nat.mod_lt n (by decide)
  have hroom : address / 1 % 256 < Nat.pow 256 (4 - 3) := hlt _
  rw [hbytes, ofNumbers?, if_pos ⟨hlt _, by decide⟩, ofNumbers?, if_pos ⟨hlt _, by decide⟩, ofNumbers?,
    if_pos ⟨hlt _, by decide⟩, ofNumbers?, if_pos hroom, Option.some_inj,
    show Nat.pow 256 (4 - 3) = 256 from rfl]
  omega

end Ipv4

/-! ## Addresses of eight groups -/

namespace Ipv6

/-- What groups of sixteen bits are. -/
def AreGroups (gs : List Nat) : Prop := ∀ g ∈ gs, g < 2 ^ 16

instance (gs : List Nat) : Decidable (AreGroups gs) :=
  inferInstanceAs (Decidable (∀ g ∈ gs, g < 2 ^ 16))

/-- A group in base sixteen is read as that group. -/
theorem group?_toDigits {g : Nat} (h : g < 2 ^ 16) : group? (Nat.toDigits 16 g) = some g := by
  have hlength : (Nat.toDigits 16 g).length ≤ 4 :=
    (Nat.length_toDigits_le_iff (by decide) (by decide)).2 h
  have hempty : ((Nat.toDigits 16 g).isEmpty || decide (4 < (Nat.toDigits 16 g).length)) = false := by
    rw [decide_eq_false (Nat.not_lt.2 hlength), Bool.or_false]
    simp
  rw [group?, hempty, if_neg Bool.false_ne_true]
  refine foldlM_toDigits (by decide) (fun m k hk => ?_) g
  rw [hexDigit?_digitChar hk]
  rfl

/-- As the last piece, too. -/
theorem lastGroups?_toDigits {g : Nat} (h : g < 2 ^ 16) :
    lastGroups? (Nat.toDigits 16 g) = some [g] := by
  have hpoint : (Nat.toDigits 16 g).contains '.' = false := by
    rw [List.contains_eq_mem, decide_eq_false_iff_not]
    exact fun hmem => (isPlain_of_mem_toDigits (by decide) hmem).2 rfl
  rw [lastGroups?, hpoint, if_neg Bool.false_ne_true, group?_toDigits h]
  rfl

/-- Groups in base sixteen are read as those groups. -/
theorem groupsOf?_toDigits (mayEnd : Bool) {gs : List Nat} (h : AreGroups gs) :
    groupsOf? mayEnd (gs.map (Nat.toDigits 16)) = some gs := by
  induction gs with
  | nil => rfl
  | cons g gs ih =>
    have hg := h g List.mem_cons_self
    have hgs : AreGroups gs := fun k hk => h k (List.mem_cons_of_mem g hk)
    cases gs with
    | nil =>
      rw [List.map_cons, List.map_nil, groupsOf?, lastGroups?_toDigits hg, group?_toDigits hg]
      split <;> rfl
    | cons g' gs =>
      rw [List.map_cons] at ih ⊢
      rw [List.map_cons, groupsOf?, group?_toDigits hg, ih hgs]
      rfl

/-- Text of groups that is not empty is that of some groups. -/
theorem groupsText_eq_nil {gs : List Nat} : groupsText gs = [] ↔ gs = [] := by
  refine ⟨fun h => ?_, fun h => h ▸ rfl⟩
  match gs with
  | [] => rfl
  | [g] => exact absurd h Nat.toDigits_ne_nil
  | g :: g' :: gs => exact absurd h (List.append_ne_nil_of_right_ne_nil _ (List.cons_ne_nil _ _))

/-- Groups are read from their text. -/
theorem groups?_groupsText (mayEnd : Bool) {gs : List Nat} (h : AreGroups gs) :
    groups? mayEnd (groupsText gs) = some gs := by
  unfold groups?
  split
  · next hempty => rw [groupsText_eq_nil.1 (List.isEmpty_iff.1 hempty)]
  · next hempty =>
    have hne : gs.map (Nat.toDigits 16) ≠ [] := by
      rw [List.isEmpty_iff, groupsText_eq_nil] at hempty
      exact fun hnil => hempty (List.map_eq_nil_iff.1 hnil)
    have hcut : Text.pieces (· == ':') (groupsText gs) = gs.map (Nat.toDigits 16) := by
      refine Text.pieces_join (beq_self_eq_true ':') hne fun p hp c hc heq => ?_
      obtain ⟨g, -, rfl⟩ := List.mem_map.1 hp
      have hplain := (isPlain_of_mem_toDigits (by decide) hc).1.2
      rw [eq_of_beq heq] at hplain
      exact hplain (by decide)
    rw [hcut, groupsOf?_toDigits mayEnd h]

/-- An address is written with plain characters and colons. -/
theorem isPlain_of_mem {gs : List Nat} {c : Char} (h : c ∈ toChars gs) : Domain.IsPlain c ∨ c = ':' := by
  have hgroups {gs : List Nat} (h : c ∈ groupsText gs) : Domain.IsPlain c ∨ c = ':' := by
    rcases Text.mem_join h with heq | ⟨_, hp, hc⟩
    · exact .inr heq
    · obtain ⟨g, -, rfl⟩ := List.mem_map.1 hp
      exact .inl (isPlain_of_mem_toDigits (by decide) hc).1
  unfold toChars at h
  dsimp only at h
  split at h
  · exact hgroups h
  · rcases List.mem_append.1 h with h | h
    · rcases List.mem_append.1 h with h | h
      · exact hgroups h
      · simp only [List.mem_cons, List.not_mem_nil, or_false, or_self] at h
        exact .inr h
    · exact hgroups h

/-! ### The gap -/

/-- Only two colons in a row are a gap. -/
theorem cutAtGap_cons {c : Char} {cs : List Char} (h : c ≠ ':' ∨ cs.head? ≠ some ':') :
    cutAtGap (c :: cs) = (c :: (cutAtGap cs).1, (cutAtGap cs).2) := by
  conv_lhs => unfold cutAtGap
  split
  · next heq =>
    injection heq with hc hcs
    rw [hcs] at h
    exact absurd hc (h.resolve_right (by simp))
  · next heq => cases heq
  · next heq =>
    cases heq
    rfl

/-- There is no gap in a text without colons. -/
theorem cutAtGap_append {p : List Char} (hp : ':' ∉ p) (rest : List Char) :
    cutAtGap (p ++ rest) = (p ++ (cutAtGap rest).1, (cutAtGap rest).2) := by
  induction p with
  | nil => rfl
  | cons c p ih =>
    obtain ⟨hc, hp⟩ := not_or.1 (mt List.mem_cons.2 hp)
    rw [List.cons_append, cutAtGap_cons (.inl (Ne.symm hc)), ih hp, List.cons_append]

/-- The digits of a group hold no colon. -/
theorem colon_not_mem (g : Nat) : ':' ∉ Nat.toDigits 16 g := fun h =>
  (isPlain_of_mem_toDigits (by decide) h).1.2 (by decide)

/-- The text of groups does not start with a colon. -/
theorem head?_groupsText (g : Nat) (gs : List Nat) (rest : List Char) :
    (groupsText (g :: gs) ++ rest).head? ≠ some ':' := by
  obtain ⟨d, ds, hds⟩ := List.exists_cons_of_ne_nil (Nat.toDigits_ne_nil (n := g) (b := 16))
  have hstart : ∃ more, groupsText (g :: gs) = d :: more := by
    cases gs with
    | nil => exact ⟨ds, hds⟩
    | cons g' gs => exact ⟨ds ++ ':' :: groupsText (g' :: gs), by rw [← List.cons_append, ← hds]; rfl⟩
  obtain ⟨more, hmore⟩ := hstart
  rw [hmore, List.cons_append, List.head?_cons, ne_eq, Option.some_inj]
  rintro rfl
  exact colon_not_mem g (hds ▸ List.mem_cons_self)

/-- There is no gap in the text of groups. -/
theorem cutAtGap_groupsText (gs : List Nat) (rest : List Char) :
    cutAtGap (groupsText gs ++ rest) = (groupsText gs ++ (cutAtGap rest).1, (cutAtGap rest).2) := by
  induction gs with
  | nil => rfl
  | cons g gs ih =>
    cases gs with
    | nil => exact cutAtGap_append (colon_not_mem g) rest
    | cons g' gs =>
      have htext : groupsText (g :: g' :: gs) = Nat.toDigits 16 g ++ ':' :: groupsText (g' :: gs) := rfl
      rw [htext, List.append_assoc, List.cons_append, cutAtGap_append (colon_not_mem g),
        cutAtGap_cons (.inr (head?_groupsText g' gs rest)), ih, List.append_assoc, List.cons_append]

/-! ### The zeros that are left out -/

/-- Groups start with the zeros at their start. -/
theorem replicate_zerosAt (gs : List Nat) :
    List.replicate (zerosAt gs) 0 ++ gs.drop (zerosAt gs) = gs := by
  induction gs with
  | nil => rfl
  | cons g gs ih =>
    rw [zerosAt, List.takeWhile_cons]
    split
    · next hg =>
      rw [List.length_cons, List.replicate_succ, List.drop_succ_cons, List.cons_append, eq_of_beq hg]
      exact congrArg _ ih
    · rfl

/-- The longest run of zeros stands where it starts. -/
theorem longestRun_spec (index : Nat) (gs : List Nat) :
    ∃ skipped, (longestRun index gs).1 = index + skipped ∧
      gs.take skipped ++ List.replicate (longestRun index gs).2 0 ++
        gs.drop (skipped + (longestRun index gs).2) = gs := by
  induction gs generalizing index with
  | nil => exact ⟨0, rfl, rfl⟩
  | cons g gs ih =>
    obtain ⟨skipped, hstart, hgs⟩ := ih (index + 1)
    rw [longestRun]
    dsimp only
    split
    · refine ⟨0, rfl, ?_⟩
      rw [List.take_zero, List.nil_append, Nat.zero_add, replicate_zerosAt]
    · refine ⟨skipped + 1, by rw [hstart]; omega, ?_⟩
      rw [List.take_succ_cons, Nat.add_right_comm, List.drop_succ_cons, List.cons_append,
        List.cons_append, hgs]

/-- An address is read back. -/
theorem ofChars?_toChars {gs : List Nat} (hlength : gs.length = 8) (h : AreGroups gs) :
    ofChars? (toChars gs) = some gs := by
  obtain ⟨skipped, hstart, hgs⟩ := longestRun_spec 0 gs
  rw [Nat.zero_add] at hstart
  unfold toChars
  generalize longestRun 0 gs = run at hstart hgs
  obtain ⟨start, length⟩ := run
  dsimp only at hstart hgs ⊢
  subst hstart
  split
  · -- all groups are written
    have hgap := cutAtGap_groupsText gs []
    rw [List.append_nil] at hgap
    rw [ofChars?, hgap]
    simp [cutAtGap, groups?_groupsText true h, hlength]
  · -- two colons stand for the zeros
    have hgap := cutAtGap_groupsText (gs.take start) (':' :: ':' :: groupsText (gs.drop (start + length)))
    have hbefore : AreGroups (gs.take start) := fun g hg => h g (List.mem_of_mem_take hg)
    have hbehind : AreGroups (gs.drop (start + length)) := fun g hg => h g (List.mem_of_mem_drop hg)
    have hcount := congrArg List.length hgs
    rw [List.length_append, List.length_append, List.length_replicate, hlength] at hcount
    have hzeros : 8 - ((gs.take start).length + (gs.drop (start + length)).length) = length := by omega
    rw [ofChars?, List.append_assoc, List.cons_append, List.cons_append, List.nil_append, hgap]
    simp only [cutAtGap, List.append_nil, groups?_groupsText _ hbefore, groups?_groupsText _ hbehind,
      Option.bind_eq_bind, Option.bind_some, hzeros, hgs]
    rw [if_pos (by omega)]

/-! ### What is read -/

/-- A digit in base sixteen is less than sixteen. -/
theorem lt_of_hexDigit? {c : Char} {d : Nat} (h : Text.hexDigit? c = some d) : d < 16 := by
  have hle {c c' : Char} (hc : c ≤ c') : c.toNat ≤ c'.toNat := UInt32.le_iff_toNat_le.1 hc
  have hnine : '9'.toNat = '0'.toNat + 9 := rfl
  have hsmall : 'f'.toNat = 'a'.toNat + 5 := rfl
  have hcapital : 'F'.toNat = 'A'.toNat + 5 := rfl
  unfold Text.hexDigit? at h
  split at h
  · next hc =>
    cases h
    have := hle hc.2
    omega
  split at h
  · next hc =>
    cases h
    have := hle hc.2
    omega
  split at h
  · next hc =>
    cases h
    have := hle hc.2
    omega
  · cases h

/-- Digits write a number with no more digits. -/
theorem lt_of_foldlM {cs : List Char} {m n : Nat}
    (h : cs.foldlM (fun n c => do return n * 16 + (← Text.hexDigit? c)) m = some n) :
    n < (m + 1) * 16 ^ cs.length := by
  induction cs generalizing m with
  | nil =>
    cases h
    simp
  | cons c cs ih =>
    rw [List.foldlM_cons] at h
    obtain ⟨k, hk, h⟩ := Option.bind_eq_some_iff.1 h
    obtain ⟨d, hd, hk⟩ := Option.bind_eq_some_iff.1 hk
    cases hk
    have hdigit := lt_of_hexDigit? hd
    calc n < (m * 16 + d + 1) * 16 ^ cs.length := ih h
      _ ≤ ((m + 1) * 16) * 16 ^ cs.length := Nat.mul_le_mul_right _ (by omega)
      _ = (m + 1) * 16 ^ (c :: cs).length := by
        rw [List.length_cons, Nat.pow_succ, Nat.mul_assoc, Nat.mul_comm 16]

theorem lt_of_group? {cs : List Char} {g : Nat} (h : group? cs = some g) : g < 2 ^ 16 := by
  unfold group? at h
  split at h
  · cases h
  · next hlength =>
    simp only [Bool.or_eq_true, decide_eq_true_eq, not_or, Nat.not_lt] at hlength
    calc g < (0 + 1) * 16 ^ cs.length := lt_of_foldlM h
      _ ≤ (0 + 1) * 16 ^ 4 := Nat.mul_le_mul_left _ (Nat.pow_le_pow_right (by decide) hlength.2)
      _ = 2 ^ 16 := by decide

theorem lt_of_byte? {cs : List Char} {b : Nat} (h : byte? cs = some b) : b < 256 := by
  unfold byte? at h
  split at h
  · cases h
  · dsimp only at h
    split at h
    · next hlt =>
      cases h
      exact hlt
    · cases h

/-- The groups of the last piece. -/
theorem areGroups_lastGroups? {cs : List Char} {gs : List Nat} (h : lastGroups? cs = some gs) :
    AreGroups gs := by
  unfold lastGroups? at h
  split at h
  · obtain ⟨bs, hbs, h⟩ := Option.bind_eq_some_iff.1 h
    have hbyte (b : Nat) (hb : b ∈ bs) : b < 256 :=
      have ⟨_, _, hread⟩ := exists_of_mem_mapM hbs hb
      lt_of_byte? hread
    split at h
    · next a b c d =>
      cases h
      simp only [List.mem_cons, List.not_mem_nil, or_false, forall_eq_or_imp, forall_eq] at hbyte
      intro g hg
      simp only [List.mem_cons, List.not_mem_nil, or_false] at hg
      omega
    · cases h
  · obtain ⟨g, hg, rfl⟩ := Option.map_eq_some_iff.1 h
    intro g' hg'
    rw [List.mem_singleton.1 hg']
    exact lt_of_group? hg

/-- The groups of all pieces. -/
theorem areGroups_groupsOf? {mayEnd : Bool} {ps : List (List Char)} {gs : List Nat}
    (h : groupsOf? mayEnd ps = some gs) : AreGroups gs := by
  fun_induction groupsOf? mayEnd ps generalizing gs with
  | case1 =>
    cases h
    exact fun g hg => absurd hg List.not_mem_nil
  | case2 p hend => exact areGroups_lastGroups? h
  | case3 p hend =>
    obtain ⟨g, hg, rfl⟩ := Option.map_eq_some_iff.1 h
    intro g' hg'
    rw [List.mem_singleton.1 hg']
    exact lt_of_group? hg
  | case4 p q ps ih =>
    obtain ⟨g, hg, h⟩ := Option.bind_eq_some_iff.1 h
    obtain ⟨gs', hgs', h⟩ := Option.bind_eq_some_iff.1 h
    cases h
    intro g' hg'
    rcases List.mem_cons.1 hg' with rfl | hg'
    · exact lt_of_group? hg
    · exact ih hgs' g' hg'

theorem areGroups_groups? {mayEnd : Bool} {cs : List Char} {gs : List Nat}
    (h : groups? mayEnd cs = some gs) : AreGroups gs := by
  unfold groups? at h
  split at h
  · cases h
    exact fun g hg => absurd hg List.not_mem_nil
  · exact areGroups_groupsOf? h

/-- An address that was read has eight groups. -/
theorem of_ofChars? {cs : List Char} {gs : List Nat} (h : ofChars? cs = some gs) :
    gs.length = 8 ∧ AreGroups gs := by
  unfold ofChars? at h
  split at h
  · obtain ⟨gs', hgs', h⟩ := Option.bind_eq_some_iff.1 h
    split at h
    · next hlength =>
      cases h
      exact ⟨hlength, areGroups_groups? hgs'⟩
    · cases h
  · obtain ⟨left, hleft, h⟩ := Option.bind_eq_some_iff.1 h
    obtain ⟨right, hright, h⟩ := Option.bind_eq_some_iff.1 h
    dsimp only at h
    split at h
    · next hcount =>
      cases h
      refine ⟨?_, fun g hg => ?_⟩
      · rw [List.length_append, List.length_append, List.length_replicate]
        omega
      · rcases List.mem_append.1 hg with hg | hg
        · rcases List.mem_append.1 hg with hg | hg
          · exact areGroups_groups? hleft g hg
          · rw [List.eq_of_mem_replicate hg]
            decide
        · exact areGroups_groups? hright g hg
    · cases h

end Ipv6

/-! ## Hosts -/

namespace Host

/-- How a host is written: with characters that have no meaning in addresses, or in brackets, where
colons may stand between those. -/
inductive Written : List Char → Prop where
  | plain {cs : List Char} (hne : cs ≠ []) (h : ∀ c ∈ cs, Domain.IsPlain c) : Written cs
  | brackets {cs : List Char} (h : ∀ c ∈ cs, Domain.IsPlain c ∨ c = ':') :
      Written ('[' :: cs ++ [']'])

/-- What a host on the web is: an address, or the ASCII form of a name that is none. -/
inductive OfWeb : Host → Prop where
  | name {cs ascii : List Char} (hascii : Domain.toAscii? cs = some ascii) (hne : ascii ≠ [])
      (h : ¬ Ipv4.endsInNumber ascii) : OfWeb (.name ascii)
  | ipv4 {address : Nat} (h : address < 2 ^ 32) : OfWeb (.ipv4 address)
  | ipv6 {gs : List Nat} (hlength : gs.length = 8) (h : Ipv6.AreGroups gs) : OfWeb (.ipv6 gs)

/-- It is not the name without characters. -/
theorem OfWeb.ne_nil {host : Host} (h : OfWeb host) : host ≠ .name [] := by
  rintro rfl
  cases h with
  | name _ hne _ => exact hne rfl

/-- The host of an ASCII form is one. -/
theorem ofAscii_sound {cs : List Char} {host : Host}
    (h : ofAscii (Domain.toAscii? cs) = .ok host) : OfWeb host := by
  cases hascii : Domain.toAscii? cs with
  | none =>
    rw [hascii] at h
    cases h
  | some ascii =>
    rw [hascii] at h
    cases ascii with
    | nil => cases h
    | cons c ascii =>
      rw [ofAscii] at h
      split at h
      · split at h
        · next address haddress =>
          cases h
          obtain ⟨ns, -, hns⟩ := Option.bind_eq_some_iff.1 haddress
          exact .ipv4 (Ipv4.lt_of_ofNumbers? (by decide) (by decide) hns)
        · cases h
      · next hnumber =>
        cases h
        exact .name hascii (List.cons_ne_nil _ _) hnumber

/-- A host that was read is one. -/
theorem ofWeb_sound {cs : List Char} {host : Host} (h : ofWeb cs = .ok host) : OfWeb host := by
  unfold ofWeb at h
  split at h
  · unfold ofBracketed at h
    split at h
    · split at h
      · next gs hgs =>
        cases h
        obtain ⟨hlength, hgs⟩ := Ipv6.of_ofChars? hgs
        exact .ipv6 hlength hgs
      · cases h
    · cases h
  · cases hdecode : Percent.decode? cs with
    | none =>
      rw [hdecode] at h
      cases h
    | some decoded =>
      rw [hdecode] at h
      exact ofAscii_sound h

/-- The characters that a host is written with. -/
theorem Written.mem {cs : List Char} (h : Written cs) {c : Char} (hc : c ∈ cs) :
    Domain.IsPlain c ∨ c = ':' ∨ c = '[' ∨ c = ']' := by
  cases h with
  | plain _ hplain => exact .inl (hplain c hc)
  | brackets hplain =>
    rcases List.mem_append.1 hc with hc | hc
    · rcases List.mem_cons.1 hc with heq | hc
      · exact .inr (.inr (.inl heq))
      · exact (hplain c hc).imp_right .inl
    · exact .inr (.inr (.inr (List.mem_singleton.1 hc)))

/-- A forbidden character stands in the text of a host only if it is a colon or a bracket. -/
theorem Written.not_mem {cs : List Char} (h : Written cs) {c : Char} (hc : Domain.isForbidden c)
    (hne : c ≠ ':' ∧ c ≠ '[' ∧ c ≠ ']') : c ∉ cs := by
  intro hmem
  rcases h.mem hmem with hplain | heq | heq | heq
  · exact hplain.2 hc
  · exact hne.1 heq
  · exact hne.2.1 heq
  · exact hne.2.2 heq

theorem Written.ne_nil {cs : List Char} (h : Written cs) : cs ≠ [] := by
  cases h with
  | plain hne _ => exact hne
  | brackets _ => exact List.cons_ne_nil _ _

/-- How a host of the web is written. -/
theorem OfWeb.written {host : Host} (h : OfWeb host) : Written host.toChars := by
  cases h with
  | name hascii hne _ => exact .plain hne fun c hc => Domain.isPlain_of_mem hascii hc
  | ipv4 _ => exact .plain (Ipv4.toChars_ne_nil _) fun c hc => Ipv4.isPlain_of_mem hc
  | ipv6 _ _ => exact .brackets fun c hc => Ipv6.isPlain_of_mem hc

/-- What has no percent sign and no bracket at its start is read as a domain name. -/
theorem ofWeb_eq {cs : List Char} (hpercent : '%' ∉ cs) (hbracket : cs.head? ≠ some '[') :
    ofWeb cs = ofAscii (Domain.toAscii? cs) := by
  have hdecode : Percent.decode? cs = some cs := if_neg (by simpa using hpercent)
  unfold ofWeb
  split
  · exact absurd rfl hbracket
  · rw [hdecode, Option.bind_some]

/-- Whether a host can be read: an address, or a name of which no label is too long. -/
def readable : Host → Bool
  | .name ascii => Domain.readable ascii
  | _ => true

/-- A host of the web is read from what it writes, if it can be read. -/
theorem OfWeb.read {host : Host} (h : OfWeb host) :
    ofWeb host.toChars = if host.readable then .ok host else .error .badDomain := by
  have hread {ascii : List Char} (hplain : ∀ c ∈ ascii, Domain.IsPlain c) :
      ofWeb ascii = ofAscii (Domain.toAscii? ascii) := by
    refine ofWeb_eq (fun hmem => (hplain _ hmem).2 (by decide)) fun hmem => ?_
    exact (hplain _ (List.mem_of_head? hmem)).2 (by decide)
  cases h with
  | @name cs ascii hascii hne hnumber =>
    obtain ⟨c, cs, rfl⟩ := List.exists_cons_of_ne_nil hne
    rw [toChars, hread fun c hc => Domain.isPlain_of_mem hascii hc, Domain.toAscii?_ascii hascii,
      readable]
    split
    · rw [ofAscii, if_neg hnumber]
    · rfl
  | @ipv4 address h =>
    have hnumber := Ipv4.endsInNumber_toChars address
    have haddress := Ipv4.ofChars?_toChars h
    have hascii := Ipv4.toAscii?_toChars address
    rw [toChars, hread fun c hc => Ipv4.isPlain_of_mem hc, hascii]
    obtain ⟨c, cs, hcs⟩ := List.exists_cons_of_ne_nil (Ipv4.toChars_ne_nil address)
    rw [hcs] at hnumber haddress ⊢
    rw [ofAscii, if_pos hnumber, haddress]
    rfl
  | ipv6 hlength h =>
    simp only [toChars, List.cons_append, ofWeb, ofBracketed, List.getLast?_concat, beq_self_eq_true,
      if_true, List.dropLast_concat, Ipv6.ofChars?_toChars hlength h, readable]

end Host

end TripClient.Url
