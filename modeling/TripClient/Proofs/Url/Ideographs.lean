import TripClient.Proofs.Text.Composition
import TripClient.Proofs.Url.Reread

/-!
# Names in ideographs

A name of ideographs is a host as it stands (`Host.ofWeb_of_ideographs`): each stands for itself, none
takes part in composition, and none is written from right to left. Its ASCII form holds a number for each
ideograph; where they rise, the numbers are known one by one (`Punycode.encode_of_rising`). So the ASCII
form can be long although the name is short, and then it is not read (`Host.readable_of_ideographs`).
-/

namespace TripClient.Url

/-! ## Rising labels -/

namespace Domain.Punycode

/-- What is written of rising code points when `handled` characters are in, of which `previous` is the
greatest. -/
def risingDigits (bias previous handled : Nat) : List Nat → List Char
  | [] => []
  | n :: rest =>
    let steps := (n - previous) * (handled + 1)
    numberDigits bias 36 steps ++
      risingDigits (adapt steps (handled + 1) (handled == 0)) n (handled + 1) rest

/-- Characters that are in already are counted. -/
theorem foldl_pass_of_lt {before : List Char} {n : Nat} (h : ∀ c ∈ before, c.toNat < n) (basic : Nat)
    (p : Progress) :
    before.foldl (pass basic n) p = { p with steps := p.steps + before.length } := by
  induction before generalizing p with
  | nil => rfl
  | cons c before ih =>
    obtain ⟨hc, hbefore⟩ := List.forall_mem_cons.1 h
    rw [List.foldl_cons, pass, if_pos hc, ih hbefore, List.length_cons]
    congr 1
    dsimp only
    omega

/-- Characters that come later are passed over. -/
theorem foldl_pass_of_gt {behind : List Char} {n : Nat} (h : ∀ c ∈ behind, n < c.toNat) (basic : Nat)
    (p : Progress) : behind.foldl (pass basic n) p = p := by
  induction behind with
  | nil => rfl
  | cons c behind ih =>
    obtain ⟨hc, hbehind⟩ := List.forall_mem_cons.1 h
    rw [List.foldl_cons, pass, if_neg (Nat.lt_asymm hc), if_neg (Nat.ne_of_gt hc), ih hbehind]

/-- Characters that rise are put in one behind the other. The steps that are not written yet lead from the
greatest code point that is in to the one that was reached. -/
theorem putIn_of_rising {before behind : List Char}
    (hrising : (before ++ behind).Pairwise (·.toNat < ·.toNat)) {previous reached : Nat} {p : Progress}
    (hhandled : p.handled = before.length) (hprevious : previous ≤ reached)
    (hreached : ∀ c ∈ behind, reached ≤ c.toNat)
    (hsteps : p.steps + p.handled = (reached - previous) * (p.handled + 1)) :
    putIn (before ++ behind) 0 (behind.map Char.toNat) reached p =
      p.digits ++ risingDigits p.bias previous p.handled (behind.map Char.toNat) := by
  induction behind generalizing before previous reached p with
  | nil => exact (List.append_nil _).symm
  | cons c behind ih =>
    obtain ⟨-, hbehind, hcross⟩ := List.pairwise_append.1 hrising
    have hbefore : ∀ d ∈ before, d.toNat < c.toNat := fun d hd => hcross d hd c List.mem_cons_self
    have hlater : ∀ d ∈ behind, c.toNat < d.toNat := (List.pairwise_cons.1 hbehind).1
    have hc := hreached c List.mem_cons_self
    have hnumber : p.steps + (c.toNat - reached) * (p.handled + 1) + before.length =
        (c.toNat - previous) * (p.handled + 1) := by
      have hsum : c.toNat - previous = c.toNat - reached + (reached - previous) := by omega
      rw [hsum, Nat.add_mul, ← hsteps]
      omega
    have hsplit : before ++ c :: behind = (before ++ [c]) ++ behind := by simp
    rw [List.map_cons, putIn, List.foldl_append, foldl_pass_of_lt hbefore, List.foldl_cons]
    dsimp only
    rw [hnumber, pass, if_neg (Nat.lt_irrefl _), if_pos rfl, foldl_pass_of_gt hlater, hsplit, ih]
    · rw [risingDigits, List.append_assoc]
    · exact hsplit ▸ hrising
    · rw [List.length_append, hhandled, List.length_singleton]
    · exact Nat.le_succ _
    · exact hlater
    · dsimp only
      rw [Nat.add_sub_cancel_left]
      omega

/-- A label of rising characters beyond ASCII is written as their steps, one by one. -/
theorem encode_of_rising {label : List Char} (hrising : label.Pairwise (·.toNat < ·.toNat))
    (hbeyond : ∀ c ∈ label, ¬ isAscii c) :
    encode label = risingDigits 72 0x80 0 (label.map Char.toNat) := by
  have hbasic : label.filter isAscii = [] := List.filter_eq_nil_iff.2 hbeyond
  have hcodes : codePoints label = label.map Char.toNat := by
    have hall : (label.filter fun c => !isAscii c) = label :=
      List.filter_eq_self.2 fun c hc => by simpa using hbeyond c hc
    rw [codePoints, hall]
    clear hall hbasic hbeyond
    induction label with
    | nil => rfl
    | cons c label ih =>
      obtain ⟨hc, hlabel⟩ := List.pairwise_cons.1 hrising
      rw [List.foldr_cons, ih hlabel, List.map_cons]
      cases label with
      | nil => rfl
      | cons d label => exact if_pos (hc d List.mem_cons_self)
  have hreached : ∀ c ∈ label, 0x80 ≤ c.toNat := fun c hc => by simpa [isAscii] using hbeyond c hc
  rw [encode, hbasic, hcodes]
  exact @putIn_of_rising [] label hrising 0x80 0x80 ⟨[], 0, 72, 0⟩ rfl (Nat.le_refl _) hreached rfl

end Domain.Punycode

/-! ## Labels of ideographs -/

namespace Domain

open Punycode (isAscii)
open Text (CodeRanges IsIdeograph)

/-- A table without ideographs does not hold one. -/
theorem not_contains_of_ideograph {s : CodeRanges}
    (htable : s.ranges.toList.all fun r => r.2 < 0x4E00 || 0x9FFF < r.1) {n : Nat} (h : IsIdeograph n) :
    s.contains n = false := by
  refine Bool.eq_false_iff.2 fun hcontains => ?_
  obtain ⟨r, hr, hlow, hhigh⟩ := CodeRanges.contains_iff.1 hcontains
  have hrange := List.all_eq_true.1 htable r hr
  rw [Bool.or_eq_true, decide_eq_true_eq, decide_eq_true_eq] at hrange
  obtain ⟨hfirst, hlast⟩ := h
  omega

/-- Ideographs are no ASCII. -/
theorem not_isAscii_of_ideograph {c : Char} (h : IsIdeograph c.toNat) : ¬ isAscii c := by
  have := h.1
  rw [isAscii, decide_eq_true_eq]
  omega

/-- Ideographs stand for themselves. -/
theorem replace?_of_ideograph {c : Char} (h : IsIdeograph c.toNat) : replace? c = some [c] := by
  have htable : validRanges.ranges.toList.any fun r => r.1 ≤ 0x4E00 && 0x9FFF ≤ r.2 := by decide +kernel
  have hvalid : validRanges.contains c.toNat := by
    obtain ⟨r, hr, hrange⟩ := List.any_eq_true.1 htable
    rw [Bool.and_eq_true, decide_eq_true_eq, decide_eq_true_eq] at hrange
    exact CodeRanges.contains_iff.2 ⟨r, hr, Nat.le_trans hrange.1 h.1, Nat.le_trans h.2 hrange.2⟩
  have hascii : ¬ c.toNat < 0x80 := by
    have := h.1
    omega
  rw [replace?, if_neg hascii, if_pos hvalid]

/-- Ideographs are no marks. -/
theorem isMark_of_ideograph {c : Char} (h : IsIdeograph c.toNat) : isMark c = false :=
  not_contains_of_ideograph (by decide +kernel) h

/-- Ideographs are not written from right to left. -/
theorem direction_of_ideograph {c : Char} (h : IsIdeograph c.toNat) :
    direction c ≠ .right ∧ direction c ≠ .arabicDigit := by
  have hright : rightRanges.contains c.toNat = false := not_contains_of_ideograph (by decide +kernel) h
  have hdigit : arabicDigitRanges.contains c.toNat = false :=
    not_contains_of_ideograph (by decide +kernel) h
  unfold direction
  dsimp only
  rw [hright, if_neg Bool.false_ne_true, hdigit, if_neg Bool.false_ne_true]
  repeat' split
  all_goals decide

/-- Ideographs are no joiners. -/
theorem joinersShow_of_ideographs {before cs : List Char} (h : ∀ c ∈ cs, IsIdeograph c.toNat) :
    joinersShow before cs := by
  induction cs generalizing before with
  | nil => rfl
  | cons c cs ih =>
    obtain ⟨hc, hcs⟩ := List.forall_mem_cons.1 h
    have hne {d : Char} (hd : d.toNat < 0x4E00) : (c == d) = false := by
      refine beq_false_of_ne ?_
      rintro rfl
      exact Nat.not_lt.2 hc.1 hd
    rw [joinersShow, hne (by decide), if_neg Bool.false_ne_true, hne (by decide),
      if_neg Bool.false_ne_true, Bool.true_and, ih hcs]

variable {cs : List Char}

/-- Ideographs are well formed, if they are not too many. -/
theorem isWellFormed_of_ideographs (hne : cs ≠ []) (hlength : cs.length ≤ maxSaid)
    (h : ∀ c ∈ cs, IsIdeograph c.toNat) : isWellFormed cs := by
  obtain ⟨c, rest, rfl⟩ := List.exists_cons_of_ne_nil hne
  have hc := h c List.mem_cons_self
  have hascii : (c :: rest).all isAscii = false :=
    List.all_eq_false.2 ⟨c, List.mem_cons_self, not_isAscii_of_ideograph hc⟩
  have hreplace : (c :: rest).all (fun d => replace? d == some [d]) = true :=
    List.all_eq_true.2 fun d hd => beq_iff_eq.2 (replace?_of_ideograph (h d hd))
  have hcompose : Text.compose (c :: rest) = c :: rest :=
    Text.compose_of_alone fun d hd => Text.alone_of_ideograph (h d hd)
  rw [isWellFormed, hascii, decide_eq_true hlength, hreplace, hcompose, beq_self_eq_true,
    List.head?_cons, Option.map_some, isMark_of_ideograph hc, joinersShow_of_ideographs h]
  rfl

/-- What ideographs are said by in ASCII. -/
def asciiOf (cs : List Char) : List Char := ['x', 'n', '-', '-'] ++ Punycode.encode cs

/-- It holds no point and no forbidden character. -/
theorem mem_asciiOf (h : ∀ c ∈ cs, IsIdeograph c.toNat) {d : Char} (hd : d ∈ asciiOf cs) :
    d ≠ '.' ∧ ¬ isForbidden d := by
  have hdigit : ∀ k : Fin 36, Punycode.digitChar k ≠ '.' ∧ ¬ isForbidden (Punycode.digitChar k) := by
    decide
  have hstart : ['x', 'n', '-', '-'].all fun d => d ≠ '.' && !isForbidden d := by decide
  rcases List.mem_append.1 hd with hd | hd
  · simpa using List.all_eq_true.1 hstart d hd
  · rcases Punycode.mem_encode hd with ⟨hmem, hascii⟩ | rfl | ⟨k, hk, rfl⟩
    · exact absurd hascii (not_isAscii_of_ideograph (h d hmem))
    · decide
    · exact hdigit ⟨k, hk⟩

/-- So it is one label. -/
theorem pieces_asciiOf (h : ∀ c ∈ cs, IsIdeograph c.toNat) :
    Text.pieces (· == '.') (asciiOf cs) = [asciiOf cs] :=
  Text.pieces_eq_singleton fun _ hd heq => (mem_asciiOf h hd).1 (eq_of_beq heq)

/-- Ideographs are a label. -/
theorem ofChars?_of_ideographs (hne : cs ≠ []) (hlength : cs.length ≤ maxSaid)
    (h : ∀ c ∈ cs, IsIdeograph c.toNat) : Label.ofChars? cs = some ⟨asciiOf cs, cs⟩ := by
  have hascii : ¬ cs.all isAscii := fun hall => by
    obtain ⟨c, rest, rfl⟩ := List.exists_cons_of_ne_nil hne
    exact not_isAscii_of_ideograph (h c List.mem_cons_self) (List.all_eq_true.1 hall c List.mem_cons_self)
  unfold Label.ofChars?
  split
  · exact absurd rfl (not_isAscii_of_ideograph (h 'x' List.mem_cons_self))
  · rw [if_neg hascii, if_pos (isWellFormed_of_ideographs hne hlength h)]
    rfl

/-- Ideographs are a name, which has an ASCII form. -/
theorem toAscii?_of_ideographs (hne : cs ≠ []) (hlength : cs.length ≤ maxSaid)
    (h : ∀ c ∈ cs, IsIdeograph c.toNat) : toAscii? cs = some (asciiOf cs) := by
  have hcompose : Text.compose cs = cs :=
    Text.compose_of_alone fun c hc => Text.alone_of_ideograph (h c hc)
  have hflat : (cs.map ([·])).flatten = cs := by
    rw [← List.flatMap_def, List.flatMap_singleton']
  have hpieces : Text.pieces (· == '.') cs = [cs] := by
    refine Text.pieces_eq_singleton fun c hc heq => ?_
    rw [eq_of_beq heq] at hc
    exact not_isAscii_of_ideograph (h '.' hc) rfl
  have hlabels : labels? cs = some [⟨asciiOf cs, cs⟩] := by
    rw [labels?, mapM_eq_some_map fun c hc => replace?_of_ideograph (h c hc), Option.bind_eq_bind,
      Option.bind_some, hflat, hcompose, hpieces, List.mapM_cons,
      ofChars?_of_ideographs hne hlength h]
    rfl
  have hforbidden : (asciiOf cs).any isForbidden = false :=
    List.any_eq_false.2 fun d hd => (mem_asciiOf h hd).2
  have hright : Label.hasRight ⟨asciiOf cs, cs⟩ = false := by
    refine List.any_eq_false.2 fun c hc => ?_
    have hdirection := direction_of_ideograph (h c hc)
    simp [beq_false_of_ne hdirection.1, beq_false_of_ne hdirection.2]
  rw [toAscii?, hlabels, Option.bind_eq_bind, Option.bind_some]
  simp only [List.any_cons, List.any_nil, hforbidden, hright, Bool.or_false, Bool.false_and,
    Bool.false_eq_true, if_false, List.map_cons, List.map_nil, Text.join]

end Domain

/-! ## Hosts of ideographs -/

open Text (IsIdeograph)

variable {cs : List Char}

/-- A name without points that starts with a letter is no number. -/
theorem Ipv4.not_endsInNumber {cs : List Char} (hpoint : '.' ∉ cs) (hstart : cs.head? = some 'x') :
    ¬ endsInNumber cs := by
  obtain ⟨rest, rfl⟩ := List.head?_eq_some_iff.1 hstart
  have hpieces : Text.pieces (· == '.') ('x' :: rest) = ['x' :: rest] :=
    Text.pieces_eq_singleton fun d hd heq => hpoint (eq_of_beq heq ▸ hd)
  have hparts : parts ('x' :: rest) = ['x' :: rest] := by
    rw [parts, hpieces]
    rfl
  have hdigits : ('x' :: rest).all Char.isDigit = false := rfl
  have hnumber : part? ('x' :: rest) = none := rfl
  rw [endsInNumber, hparts, List.getLast?_singleton]
  dsimp only
  rw [hdigits, hnumber, Bool.and_false, Bool.false_or]
  exact Bool.false_ne_true

/-- Ideographs are a host. -/
theorem Host.ofWeb_of_ideographs (hne : cs ≠ []) (hlength : cs.length ≤ Domain.maxSaid)
    (h : ∀ c ∈ cs, IsIdeograph c.toNat) : ofWeb cs = .ok (.name (Domain.asciiOf cs)) := by
  have hnot {d : Char} (hd : d.toNat < 0x4E00) : d ∉ cs := fun hmem => Nat.not_lt.2 (h d hmem).1 hd
  have hnumber : ¬ Ipv4.endsInNumber (Domain.asciiOf cs) :=
    Ipv4.not_endsInNumber (fun hmem => (Domain.mem_asciiOf h hmem).1 rfl) rfl
  rw [ofWeb_eq (hnot (by decide)) (fun hhead => hnot (by decide) (List.mem_of_head? hhead)),
    Domain.toAscii?_of_ideographs hne hlength h]
  exact if_neg hnumber

/-- It can be read again unless its ASCII form is too long. -/
theorem Host.readable_of_ideographs (h : ∀ c ∈ cs, IsIdeograph c.toNat) :
    (Host.name (Domain.asciiOf cs)).readable ↔ (Domain.Punycode.encode cs).length ≤ Domain.maxCode := by
  rw [readable, Domain.readable, Domain.pieces_asciiOf h, List.all_cons, List.all_nil, Bool.and_true]
  exact decide_eq_true_iff

/-! ## URLs of a host -/

/-- The text of a scheme and a host. -/
def hostText (scheme host : List Char) : String := String.ofList (scheme ++ ':' :: '/' :: '/' :: host)

/-- The URL of a scheme and a host. -/
def ofHost (scheme : List Char) (host : Host) : Url :=
  ⟨scheme, some ⟨[], none, host, none⟩, .segments [[]], none, none⟩

/-- Whether a character has a meaning in addresses, or none at all. -/
def isSign (c : Char) : Bool :=
  c.toNat ≤ 0x20 || ['#', '?', '/', '\\', '@', ':', '['].contains c

/-- What has no signs is read as a host, behind the scheme. -/
theorem readWeb_of_host {scheme : List Char} (hweb : isWeb scheme) (ends : Bool) (hne : cs ≠ [])
    (h : ∀ c ∈ cs, ¬ isSign c) :
    readWeb scheme ends ('/' :: '/' :: cs) =
      (Host.ofWeb cs).map fun host => (⟨[], none, host, none⟩, .segments [[]]) := by
  have hnot {d : Char} (hd : isSign d) : d ∉ cs := fun hmem => h d hmem hd
  have hslash : ∀ c ∈ cs, ¬ isWebSlash c := by
    intro c hc hslash
    simp only [isWebSlash, Bool.or_eq_true, beq_iff_eq] at hslash
    rcases hslash with rfl | rfl <;> exact hnot (by decide) hc
  have hnone : ∀ c ∈ cs, (!isWebSlash c) = true := fun c hc => by simpa using hslash c hc
  have htake : cs.takeWhile (!isWebSlash ·) = cs := by
    rw [← List.append_nil cs, List.takeWhile_append_of_pos hnone]
    rfl
  have hdrop : cs.dropWhile (!isWebSlash ·) = [] := by
    rw [← List.append_nil cs, List.dropWhile_append_of_pos hnone]
    rfl
  have hstart : ('/' :: '/' :: cs).dropWhile isWebSlash = cs := by
    obtain ⟨c, rest, rfl⟩ := List.exists_cons_of_ne_nil hne
    rw [List.dropWhile_cons_of_pos rfl, List.dropWhile_cons_of_pos rfl,
      List.dropWhile_cons_of_neg (hslash c List.mem_cons_self)]
  have hport : cutPort false cs = (cs, none) := by
    have hmarks : ∀ c ∈ cs, c ≠ ':' ∧ c ≠ '[' := fun c hc =>
      ⟨fun heq => hnot (by decide) (heq ▸ hc), fun heq => hnot (by decide) (heq ▸ hc)⟩
    have hcut := cutPort_append hmarks []
    rwa [List.append_nil, cutPort, List.append_nil] at hcut
  have hempty : cs.isEmpty = false := List.isEmpty_eq_false_iff.2 hne
  have hhost : readHost scheme cs = Host.ofWeb cs := by
    rw [readHost, hweb, Bool.not_true, if_neg Bool.false_ne_true, hempty, if_neg Bool.false_ne_true]
  rw [readWeb, hstart, htake, hdrop, readAuthority_eq scheme _ (hnot (by decide)) hport, hhost]
  cases Host.ofWeb cs with
  | error e => rfl
  | ok host =>
    rw [ok_bind, Option.isSome_none, Bool.and_false, if_neg Bool.false_ne_true]
    rfl

/-- So the text of a scheme and a host is the URL of both. -/
theorem parse_hostText {scheme : List Char} (hweb : isWeb scheme) (hne : cs ≠ [])
    (h : ∀ c ∈ cs, ¬ isSign c) : parse (hostText scheme cs) = (Host.ofWeb cs).map (ofHost scheme) := by
  have hrest : ∀ c ∈ '/' :: '/' :: cs, 0x20 < c.toNat ∧ c ≠ '?' ∧ c ≠ '#' := by
    refine List.forall_mem_cons.2 ⟨by decide, List.forall_mem_cons.2 ⟨by decide, fun c hc => ?_⟩⟩
    refine ⟨Nat.not_le.1 fun hle => h c hc ?_, ?_, ?_⟩
    · rw [isSign, decide_eq_true hle, Bool.true_or]
    all_goals
      rintro rfl
      exact h _ hc (by decide)
  have htext : hostText scheme cs = String.ofList
      (scheme ++ ':' :: '/' :: '/' :: cs ++ Text.behind '?' none ++ Text.behind '#' none) := by
    rw [Text.behind, Text.behind, List.append_nil, List.append_nil, hostText]
  rw [htext, parse_append hweb hrest (fun q hq => absurd hq (Option.not_mem_none q))
    (fun f hf => absurd hf (Option.not_mem_none f)), readWeb_of_host hweb _ hne h]
  cases Host.ofWeb cs <;> rfl

/-- A name of ideographs is read as its ASCII form. -/
theorem parse_of_ideographs {scheme : List Char} (hweb : isWeb scheme) (hne : cs ≠ [])
    (hlength : cs.length ≤ Domain.maxSaid) (h : ∀ c ∈ cs, IsIdeograph c.toNat) :
    parse (hostText scheme cs) = .ok (ofHost scheme (.name (Domain.asciiOf cs))) := by
  rw [parse_hostText hweb hne, Host.ofWeb_of_ideographs hne hlength h]
  · rfl
  · intro c hc hsign
    have hsigns : ['#', '?', '/', '\\', '@', ':', '['].all fun c => c.toNat < 0x4E00 := by decide
    have hlow := (h c hc).1
    rw [isSign, Bool.or_eq_true, decide_eq_true_eq, List.contains_iff_mem] at hsign
    rcases hsign with hle | hmem
    · omega
    · have := of_decide_eq_true (List.all_eq_true.1 hsigns c hmem)
      omega

end TripClient.Url
