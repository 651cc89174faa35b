import TripClient.Proofs.Text.Trim
import TripClient.Proofs.Url.Layout

/-!
# URLs of the web are read back

A URL of the web is read from its own text if its host can be read, and else the text is no URL
(`OfWeb.parse_render`), as long as its credentials are kept as they are: no character of the text is left
out (`clean_eq_self`), fragment, query and scheme are cut off where they were put (`Text.cut_behind`), the
authority ends where the path begins (`readWeb_toChars`), its credentials (`readAuthority_credentials`) and
its host (`Host.OfWeb.read`) are read back or not, and its path is followed to the segments that it writes
(`readPath_toChars`).
-/

namespace TripClient

namespace Url

/-! ## Characters -/

/-- Behind characters that are no blanks and no controls nothing is left out before a mark. -/
theorem clean_append {front tail : List Char} (hfront : ∀ c ∈ front, 0x20 < c.toNat) (hne : front ≠ [])
    (htail : ∀ c ∈ tail.head?, 0x20 < c.toNat) :
    ∃ tail', clean (front ++ tail) = front ++ tail' ∧ tail'.head? = tail.head? := by
  have hinside {c : Char} (hc : 0x20 < c.toNat) : ¬ isOutside c := by simpa [isOutside] using hc
  have hkept {c : Char} (hc : 0x20 < c.toNat) : (!isIgnored c) = true := by
    rw [Bool.not_eq_true', isIgnored]
    refine Bool.eq_false_iff.2 fun heq => ?_
    simp only [Bool.or_eq_true, beq_iff_eq] at heq
    rcases heq with (rfl | rfl) | rfl <;> exact absurd hc (by decide)
  obtain ⟨tail', hdrop, hhead, -⟩ := Text.exists_dropEnd isOutside
    (fun c hc => hinside (hfront c (List.mem_of_mem_getLast? hc))) (fun c hc => hinside (htail c hc))
    (fun c (hc : c ∈ []) => absurd hc List.not_mem_nil)
  have hstart : (front ++ tail).dropWhile isOutside = front ++ tail := by
    obtain ⟨c, rest, rfl⟩ := List.exists_cons_of_ne_nil hne
    exact List.dropWhile_cons_of_neg (hinside (hfront c List.mem_cons_self))
  have hfilter : front.filter (!isIgnored ·) = front :=
    List.filter_eq_self.2 fun c hc => hkept (hfront c hc)
  rw [List.append_nil] at hdrop
  refine ⟨tail'.filter (!isIgnored ·), ?_, ?_⟩
  · rw [clean, hstart, hdrop, List.filter_append, hfilter]
  · cases tail' with
    | nil => exact hhead
    | cons c rest =>
      rw [List.filter_cons, if_pos (hkept (htail c (hhead ▸ rfl)))]
      exact hhead

/-- Nothing is left out of a text without blanks and controls. -/
theorem clean_eq_self {cs : List Char} (h : ∀ c ∈ cs, 0x20 < c.toNat) : clean cs = cs := by
  cases cs with
  | nil => rfl
  | cons c cs =>
    obtain ⟨tail, hclean, hhead⟩ := clean_append h (List.cons_ne_nil c cs)
      fun d (hd : d ∈ ([] : List Char).head?) => absurd hd (Option.not_mem_none d)
    rwa [List.head?_eq_none_iff.1 hhead, List.append_nil] at hclean

/-! ## Schemes -/

/-- The schemes of the web stand in the table of ports. -/
theorem mem_of_isWeb {scheme : List Char} (h : isWeb scheme) : scheme ∈ usualPorts.map Prod.fst := by
  have hmem {ports : List (List Char × Nat)} (h : (ports.lookup scheme).isSome) :
      scheme ∈ ports.map Prod.fst := by
    induction ports with
    | nil => cases h
    | cons p ports ih =>
      rw [List.map_cons]
      by_cases heq : scheme = p.1
      · exact heq ▸ List.mem_cons_self
      · rw [List.lookup_cons, beq_false_of_ne heq] at h
        exact List.mem_cons_of_mem _ (ih h)
  exact hmem h

/-- A scheme of the web is cut off. -/
theorem cutScheme?_append {scheme : List Char} (h : isWeb scheme) (rest : List Char) :
    cutScheme? (scheme ++ ':' :: rest) = some (scheme, rest) := by
  have hall : ∀ s ∈ usualPorts.map Prod.fst, ':' ∉ s ∧
      ((s.head?.map Char.isAlpha).getD false && s.all isSchemeChar) ∧ s.map Char.toLower = s := by
    decide
  obtain ⟨hcolon, hchars, hlower⟩ := hall scheme (mem_of_isWeb h)
  have hcut : Text.cut (· == ':') (scheme ++ ':' :: rest) = (scheme, some rest) :=
    Text.cut_behind hcolon (some rest)
  rw [cutScheme?, hcut]
  dsimp only
  rw [if_pos hchars, hlower]

/-! ## Authorities -/

/-- A port is cut off behind characters that are neither colons nor brackets. -/
theorem cutPort_append {front : List Char} (h : ∀ c ∈ front, c ≠ ':' ∧ c ≠ '[') (rest : List Char) :
    cutPort false (front ++ rest) = (front ++ (cutPort false rest).1, (cutPort false rest).2) := by
  induction front with
  | nil => rfl
  | cons c front ih =>
    obtain ⟨⟨hcolon, hbracket⟩, hfront⟩ := List.forall_mem_cons.1 h
    have hinside : (c == '[' || (false && c != ']')) = false := by
      rw [Bool.false_and, Bool.or_false, beq_false_of_ne hbracket]
    rw [List.cons_append, cutPort, beq_false_of_ne hcolon, Bool.false_and, if_neg Bool.false_ne_true,
      hinside, ih hfront]
    rfl

/-- No port is cut off before the bracket that closes. -/
theorem cutPort_inside {front : List Char} (h : ∀ c ∈ front, c ≠ ']') (rest : List Char) :
    cutPort true (front ++ ']' :: rest) =
      (front ++ ']' :: (cutPort false rest).1, (cutPort false rest).2) := by
  induction front with
  | nil => rfl
  | cons c front ih =>
    obtain ⟨hbracket, hfront⟩ := List.forall_mem_cons.1 h
    have hinside : (c == '[' || (true && c != ']')) = true := by
      rw [Bool.true_and, bne_iff_ne.2 hbracket, Bool.or_true]
    rw [List.cons_append, cutPort, Bool.not_true, Bool.and_false, if_neg Bool.false_ne_true, hinside,
      ih hfront]
    rfl

/-- A port is cut off behind a host. -/
theorem cutPort_host {host : List Char} (h : Host.Written host) (rest : List Char) :
    cutPort false (host ++ rest) = (host ++ (cutPort false rest).1, (cutPort false rest).2) := by
  cases h with
  | plain _ hplain =>
    refine cutPort_append (fun c hc => ⟨?_, ?_⟩) rest <;> rintro rfl <;>
      exact (hplain _ hc).2 (by decide)
  | @brackets cs hplain =>
    have hclose : ∀ c ∈ cs, c ≠ ']' := by
      rintro c hc rfl
      rcases hplain _ hc with hplain | heq
      · exact hplain.2 (by decide)
      · exact absurd heq (by decide)
    have hinside : (('[' == '[') || (false && '[' != ']')) = true := rfl
    rw [List.cons_append, List.cons_append, List.append_assoc, List.singleton_append, cutPort,
      if_neg (by decide), hinside, cutPort_inside hclose rest]
    simp only [List.cons_append, List.append_assoc, List.nil_append]

/-- A port is read back. -/
theorem readPort_toDigits {n : Nat} (h : n ≤ 65535) :
    readPort (Nat.toDigits 10 n) = .ok (some n, []) := by
  have hdigits : ∀ c ∈ Nat.toDigits 10 n, c.isDigit := fun c hc =>
    Nat.isDigit_of_mem_toDigits (by decide) (by decide) hc
  have htake : (Nat.toDigits 10 n).takeWhile Char.isDigit = Nat.toDigits 10 n := by
    rw [← List.append_nil (Nat.toDigits 10 n), List.takeWhile_append_of_pos hdigits]
    rfl
  have hdrop : (Nat.toDigits 10 n).dropWhile Char.isDigit = [] := by
    rw [← List.append_nil (Nat.toDigits 10 n), List.dropWhile_append_of_pos hdigits]
    rfl
  have hvalue : (Nat.toDigits 10 n).foldl (fun n c => n * 10 + (c.toNat - '0'.toNat)) 0 = n := by
    refine Eq.trans ?_ (Nat.ofDigitChars_ten_toDigits (n := n))
    rw [Nat.ofDigitChars]
    congr 1
    funext m c
    rw [Nat.mul_comm]
  have hempty : (Nat.toDigits 10 n).isEmpty = false := by simp
  rw [readPort, htake, hdrop, hvalue, hempty, if_neg]
  · rfl
  · simpa using h

/-- No credentials are cut off a text without an at sign. -/
theorem cutCredentials_eq_self {cs : List Char} (h : '@' ∉ cs) : cutCredentials cs = (none, cs) := by
  have hstop : ∀ c ∈ cs.reverse, ¬ (c == '@') := by
    intro c hc heq
    exact h (eq_of_beq heq ▸ List.mem_reverse.1 hc)
  rw [cutCredentials, Text.cut_eq_self hstop]

/-- Credentials that are kept are cut off at the at sign. -/
theorem cutCredentials_append {authority : Authority} (hsome : authority.hasCredentials) {cs : List Char}
    (h : '@' ∉ cs) :
    cutCredentials (authority.credentialsText ++ cs) =
      (some (authority.username ++ Text.behind ':' authority.password), cs) := by
  have hstop : ∀ c ∈ cs.reverse, ¬ (c == '@') := by
    intro c hc heq
    exact h (eq_of_beq heq ▸ List.mem_reverse.1 hc)
  rw [authority.credentialsText_eq hsome, cutCredentials, List.reverse_append, List.reverse_append,
    List.reverse_singleton, List.singleton_append, Text.cut_append hstop rfl]
  dsimp only
  rw [List.reverse_reverse, List.reverse_reverse]

/-- The host of an authority of the web is read from its text, if it can be read. -/
theorem readHost_toChars {scheme : List Char} (hweb : isWeb scheme) {host : Host} (h : host.OfWeb) :
    readHost scheme host.toChars = if host.readable then .ok host else .error .badDomain := by
  have hempty : host.toChars.isEmpty = false := by
    rw [List.isEmpty_eq_false_iff]
    exact h.written.ne_nil
  rw [readHost, hweb, Bool.not_true, if_neg Bool.false_ne_true, hempty, if_neg Bool.false_ne_true, h.read]

/-- A text without an at sign is read as a host and a port. -/
theorem readAuthority_eq (scheme : List Char) (ends : Bool) {cs hostText : List Char}
    {portText : Option (List Char)} (hat : '@' ∉ cs) (hcut : cutPort false cs = (hostText, portText)) :
    readAuthority scheme ends cs = do
      let host ← readHost scheme hostText
      if host == .name [] && portText.isSome then throw .emptyHost
      let (port, left) ← match portText with
        | some t => readPort t
        | none => .ok (none, [])
      return (⟨[], none, host, port.filter fun n => usualPorts.lookup scheme != some n⟩, left) := by
  rw [readAuthority, cutCredentials_eq_self hat]
  dsimp only
  rw [hcut]
  refine congrArg (readHost scheme hostText >>= ·) (funext fun host => ?_)
  dsimp only
  cases host == .name [] <;> cases portText <;> rfl

/-- Credentials that are kept are read back before an authority that has a host. -/
theorem readAuthority_credentials (scheme : List Char) (ends : Bool) {authority : Authority}
    (hkept : authority.Kept) (hsome : authority.hasCredentials) {cs : List Char} (hat : '@' ∉ cs) :
    readAuthority scheme ends (authority.credentialsText ++ cs) = do
      let (bare, left) ← readAuthority scheme ends cs
      if bare.host == .name [] then throw .emptyHost
      return ({ bare with username := authority.username, password := authority.password }, left) := by
  obtain ⟨hostText, portText, hcut⟩ : ∃ hostText portText, cutPort false cs = (hostText, portText) :=
    ⟨_, _, rfl⟩
  have hcolon : ':' ∉ authority.username := fun hmem => hkept.username _ hmem (by decide)
  have hpassword : (authority.password.filter (!·.isEmpty)).map (Percent.encode Percent.inUserinfo) =
      authority.password := by
    cases hpart : authority.password with
    | none => rfl
    | some p =>
      obtain ⟨hne, hchars⟩ := hkept.password p hpart
      rw [Option.filter_some, if_pos (by simpa using hne), Option.map_some,
        Percent.encode_of_not_inSet hchars]
  have hnotEmpty : ((some (authority.username ++ Text.behind ':' authority.password)) == some []) = false :=
    beq_false_of_ne fun heq => authority.credentials_ne_nil hsome (Option.some_inj.1 heq)
  have hcredentials (host : Host) (port : Option Nat) :
      Authority.hasCredentials ⟨authority.username, authority.password, host, port⟩ = true := hsome
  rw [readAuthority_eq scheme ends hat hcut, readAuthority, cutCredentials_append hsome hat]
  simp only [Option.getD_some, hnotEmpty, Bool.false_and, Bool.false_eq_true, if_false,
    Text.cut_behind hcolon, hcut, hpassword, Percent.encode_of_not_inSet hkept.username, hcredentials]
  cases readHost scheme hostText with
  | error e => rfl
  | ok host =>
    by_cases hname : host = .name []
    · rw [hname]
      cases portText <;> rfl
    · have hname : (host == .name []) = false := beq_false_of_ne hname
      simp only [ok_bind, hname, Bool.false_and, Bool.false_eq_true, if_false]
      cases portText with
      | none => exact (if_neg (Bool.eq_false_iff.1 hname)).symm
      | some t =>
        dsimp only
        cases readPort t with
        | error e => rfl
        | ok p => exact (if_neg (Bool.eq_false_iff.1 hname)).symm

/-- An authority without credentials is read back, if its host can be read. -/
theorem readAuthority_of_none {scheme : List Char} (hweb : isWeb scheme) (ends : Bool)
    {authority : Authority} (hnone : authority.hasCredentials = false) (hhost : authority.host.OfWeb)
    (hport : ∀ n ∈ authority.port, n ≤ 65535 ∧ usualPorts.lookup scheme ≠ some n) :
    readAuthority scheme ends authority.toChars =
      if authority.host.readable then .ok (authority, []) else .error .badDomain := by
  have hat := Authority.not_mem hnone hhost (c := '@') (by decide) (by decide)
  have hcut : cutPort false authority.toChars =
      (authority.host.toChars, authority.port.map (Nat.toDigits 10)) := by
    rw [Authority.toChars_eq hnone, cutPort_host hhost.written]
    cases authority.port with
    | none => exact congrArg (·, none) (List.append_nil _)
    | some n => exact congrArg (·, some (Nat.toDigits 10 n)) (List.append_nil _)
  have hname : (authority.host == .name []) = false := beq_false_of_ne hhost.ne_nil
  obtain ⟨username, password, host, port⟩ := authority
  simp only [Authority.hasCredentials, Bool.or_eq_false_iff, Bool.not_eq_false', List.isEmpty_iff,
    Option.isSome_eq_false_iff, Option.isNone_iff_eq_none] at hnone
  obtain ⟨rfl, rfl⟩ := hnone
  dsimp only at hcut hport hname ⊢
  rw [readAuthority_eq scheme ends hat hcut, readHost_toChars hweb hhost]
  split
  · cases port with
    | none =>
      rw [ok_bind, hname]
      rfl
    | some n =>
      obtain ⟨hle, husual⟩ := hport n rfl
      rw [ok_bind, hname]
      simp only [Bool.false_and, Bool.false_eq_true, if_false, Option.map_some, readPort_toDigits hle,
        ok_bind, Option.filter_some, bne_iff_ne.2 husual]
      rfl
  · rfl

/-- An authority whose credentials are kept is read back, if its host can be read. -/
theorem readAuthority_toChars {scheme : List Char} (hweb : isWeb scheme) (ends : Bool)
    {authority : Authority} (hkept : authority.Kept) (hhost : authority.host.OfWeb)
    (hport : ∀ n ∈ authority.port, n ≤ 65535 ∧ usualPorts.lookup scheme ≠ some n) :
    readAuthority scheme ends authority.toChars =
      if authority.host.readable then .ok (authority, []) else .error .badDomain := by
  cases hsome : authority.hasCredentials with
  | false => exact readAuthority_of_none hweb ends hsome hhost hport
  | true =>
    have hat : '@' ∉ authority.bare.toChars :=
      Authority.not_mem authority.hasCredentials_bare hhost (by decide) (by decide)
    have hname : (authority.host == .name []) = false := beq_false_of_ne hhost.ne_nil
    rw [authority.toChars_eq_bare, readAuthority_credentials scheme ends hkept hsome hat,
      readAuthority_of_none hweb ends authority.hasCredentials_bare hhost hport]
    change (if authority.host.readable then _ else _ : Except Error _) >>= _ = _
    split
    · exact if_neg (Bool.eq_false_iff.1 hname)
    · rfl

/-! ## Paths -/

/-- Segments that lead on are followed one by one. -/
theorem Path.follow_of_kept {done ss : List (List Char)} (h : ∀ s ∈ ss, Kept s) :
    follow done ss = done ++ ss := by
  fun_induction follow done ss with
  | case1 done => rw [List.append_nil]
  | case2 done s hdots => exact absurd hdots (h s List.mem_cons_self).here
  | case3 done s hdots => exact absurd hdots (h s List.mem_cons_self).up
  | case4 done s => rfl
  | case5 done s t rest hdots => exact absurd hdots (h s List.mem_cons_self).here
  | case6 done s t rest hdots => exact absurd hdots (h s List.mem_cons_self).up
  | case7 done s t rest _ _ ih =>
    rw [ih fun u hu => h u (List.mem_cons_of_mem s hu), List.append_assoc, List.singleton_append]

/-- Segments are written with slashes before and between them. -/
theorem Path.toChars_eq_join (first : List Char) (rest : List (List Char)) :
    (Path.segments (first :: rest)).toChars = '/' :: Text.join '/' (first :: rest) := by
  induction rest generalizing first with
  | nil => simp [Path.toChars, Text.join]
  | cons second rest ih =>
    have hcons : (Path.segments (first :: second :: rest)).toChars =
        '/' :: first ++ (Path.segments (second :: rest)).toChars := rfl
    rw [hcons, ih, Text.join, List.cons_append]

/-- The path of a URL of the web is read back. -/
theorem readPath_toChars {ss : List (List Char)} (hne : ss ≠ []) (h : ∀ s ∈ ss, Path.Kept s) :
    readPath true (Path.segments ss).toChars = .segments ss := by
  obtain ⟨first, rest, rfl⟩ := List.exists_cons_of_ne_nil hne
  have hcut : Text.pieces isWebSlash (Text.join '/' (first :: rest)) = first :: rest :=
    Text.pieces_join rfl hne fun s hs c hc => ((h s hs).chars c hc).2
  have hencode : (first :: rest).map (Percent.encode Percent.inPath) = first :: rest := by
    refine (List.map_congr_left fun s hs => ?_).trans (List.map_id _)
    exact Percent.encode_of_not_inSet fun c hc => ((h s hs).chars c hc).1
  have hread : readPath true ('/' :: Text.join '/' (first :: rest)) =
      .segments (Path.ofChars isWebSlash (Text.join '/' (first :: rest))) := rfl
  rw [Path.toChars_eq_join, hread, Path.ofChars, hcut, hencode, Path.follow_of_kept h, List.nil_append]

/-! ## URLs -/

/-- Characters that are kept are no blanks and no controls. -/
theorem lt_toNat_of_not_inFragment {c : Char} (h : ¬ Percent.inFragment c) : 0x20 < c.toNat := by
  simp only [Percent.inFragment, Percent.inAny, Bool.or_eq_true, decide_eq_true_eq, not_or,
    List.contains_eq_mem, List.mem_cons, Nat.not_lt, Nat.not_le] at h
  have hblank : c.toNat ≠ ' '.toNat := fun heq => h.2.1 (Char.toNat_inj.1 heq)
  have hvalue : ' '.toNat = 0x20 := rfl
  omega

/-- In a query, too. -/
theorem lt_toNat_of_not_inWebQuery {c : Char} (h : ¬ Percent.inWebQuery c) :
    0x20 < c.toNat ∧ c ≠ '#' := by
  simp only [Percent.inWebQuery, Percent.inQuery, Percent.inAny, Bool.or_eq_true, decide_eq_true_eq,
    not_or, List.contains_eq_mem, List.mem_cons, Nat.not_lt, Nat.not_le] at h
  have hblank : c.toNat ≠ ' '.toNat := fun heq => h.1.2.1 (Char.toNat_inj.1 heq)
  have hvalue : ' '.toNat = 0x20 := rfl
  exact ⟨by omega, h.1.2.2.2.1⟩

/-- What is kept of a user name or a password is no blank, no control, no slash, and no mark that ends a
path. -/
theorem of_not_inUserinfo {c : Char} (h : ¬ Percent.inUserinfo c) :
    0x20 < c.toNat ∧ c ≠ '?' ∧ c ≠ '#' ∧ ¬ isWebSlash c := by
  have hfragment : ¬ Percent.inFragment c := fun hin => h (by
    rw [Percent.inUserinfo, Percent.inPath, hin, Bool.true_or, Bool.true_or])
  refine ⟨lt_toNat_of_not_inFragment hfragment, ?_, ?_, fun hslash => ?_⟩
  · rintro rfl
    exact h (by decide)
  · rintro rfl
    exact h (by decide)
  · simp only [isWebSlash, Bool.or_eq_true, beq_iff_eq] at hslash
    rcases hslash with rfl | rfl <;> exact h (by decide)

/-- Nor is what an authority is written with. -/
theorem Authority.Kept.mem_toChars {authority : Authority} (hkept : authority.Kept)
    (hhost : authority.host.OfWeb) {c : Char} (hc : c ∈ authority.toChars) :
    0x20 < c.toNat ∧ c ≠ '?' ∧ c ≠ '#' ∧ ¬ isWebSlash c := by
  rw [authority.toChars_eq_bare] at hc
  rcases List.mem_append.1 hc with hc | hc
  · cases hsome : authority.hasCredentials with
    | false =>
      rw [credentialsText, hsome] at hc
      cases hc
    | true =>
      rw [authority.credentialsText_eq hsome] at hc
      rcases List.mem_append.1 hc with hc | hc
      · rcases hkept.mem hc with rfl | hinUserinfo
        · decide
        · exact of_not_inUserinfo hinUserinfo
      · rw [List.mem_singleton.1 hc]
        decide
  · rcases Authority.mem_toChars authority.hasCredentials_bare hhost hc with hplain | rfl | rfl | rfl
    · refine ⟨Domain.lt_toNat_of_isPlain hplain, ?_, ?_, fun hslash => ?_⟩
      · rintro rfl
        exact hplain.2 (by decide)
      · rintro rfl
        exact hplain.2 (by decide)
      · simp only [isWebSlash, Bool.or_eq_true, beq_iff_eq] at hslash
        rcases hslash with rfl | rfl <;> exact hplain.2 (by decide)
    · decide
    · decide
    · decide

/-- What stands between the scheme of a URL of the web and its query holds no blanks, no controls and none of
the marks that end a path. -/
theorem of_mem_front {authority : Authority} (hkept : authority.Kept) (hhost : authority.host.OfWeb)
    {ss : List (List Char)} (hss : ∀ s ∈ ss, Path.Kept s) {c : Char}
    (hc : c ∈ '/' :: '/' :: (authority.toChars ++ (Path.segments ss).toChars)) :
    0x20 < c.toNat ∧ c ≠ '?' ∧ c ≠ '#' := by
  have hslash : 0x20 < '/'.toNat ∧ '/' ≠ '?' ∧ '/' ≠ '#' := by decide
  rcases List.mem_cons.1 hc with rfl | hc
  · exact hslash
  rcases List.mem_cons.1 hc with rfl | hc
  · exact hslash
  rcases List.mem_append.1 hc with hc | hc
  · obtain ⟨hlow, hquestion, hhash, -⟩ := hkept.mem_toChars hhost hc
    exact ⟨hlow, hquestion, hhash⟩
  · refine ⟨?_, Path.not_mark_of_mem hss hc⟩
    obtain ⟨s, hs, hc⟩ := List.mem_flatMap.1 hc
    rcases List.mem_cons.1 hc with rfl | hc
    · decide
    · have hinPath := ((hss s hs).chars c hc).1
      rw [Percent.inPath, Bool.or_eq_true, not_or] at hinPath
      exact lt_toNat_of_not_inFragment hinPath.1

/-- A URL of the web is read behind its scheme, if its host can be read. -/
theorem readWeb_toChars {scheme : List Char} (hweb : isWeb scheme) (ends : Bool)
    {authority : Authority} (hkept : authority.Kept) (hhost : authority.host.OfWeb)
    (hport : ∀ n ∈ authority.port, n ≤ 65535 ∧ usualPorts.lookup scheme ≠ some n)
    {ss : List (List Char)} (hne : ss ≠ []) (hss : ∀ s ∈ ss, Path.Kept s) :
    readWeb scheme ends ('/' :: '/' :: (authority.toChars ++ (Path.segments ss).toChars)) =
      if authority.host.readable then .ok (authority, .segments ss) else .error .badDomain := by
  have hslash : ∀ c ∈ authority.toChars, ¬ isWebSlash c := fun c hc =>
    (hkept.mem_toChars hhost hc).2.2.2
  have hnot : ∀ c ∈ authority.toChars, (!isWebSlash c) = true := fun c hc => by
    simpa using hslash c hc
  obtain ⟨first, rest, rfl⟩ := List.exists_cons_of_ne_nil hne
  have hpath := readPath_toChars hne hss
  rw [Path.toChars_eq_join] at hpath ⊢
  have htake : (authority.toChars ++ '/' :: Text.join '/' (first :: rest)).takeWhile (!isWebSlash ·) =
      authority.toChars := by
    rw [List.takeWhile_append_of_pos hnot, List.takeWhile_cons_of_neg (by decide), List.append_nil]
  have hdrop : (authority.toChars ++ '/' :: Text.join '/' (first :: rest)).dropWhile (!isWebSlash ·) =
      '/' :: Text.join '/' (first :: rest) := by
    rw [List.dropWhile_append_of_pos hnot, List.dropWhile_cons_of_neg (by decide)]
  have hstart : ('/' :: '/' :: (authority.toChars ++ '/' :: Text.join '/' (first :: rest))).dropWhile
      isWebSlash = authority.toChars ++ '/' :: Text.join '/' (first :: rest) := by
    obtain ⟨c, cs, hcs⟩ := List.exists_cons_of_ne_nil (Authority.toChars_ne_nil hhost)
    rw [List.dropWhile_cons_of_pos rfl, List.dropWhile_cons_of_pos rfl, hcs, List.cons_append,
      List.dropWhile_cons_of_neg (hslash c (hcs ▸ List.mem_cons_self))]
  rw [readWeb, hstart, htake, hdrop, readAuthority_toChars hweb _ hkept hhost hport]
  split
  · rw [ok_bind]
    dsimp only
    rw [List.nil_append, hpath]
    rfl
  · rfl

/-- Behind a scheme of the web, what counts of a text is cut at the marks that end a path and a query. -/
theorem parse_of_clean {scheme : List Char} (hweb : isWeb scheme) {cs rest : List Char}
    {query fragment : Option (List Char)}
    (hclean : clean cs = scheme ++ ':' :: rest ++ Text.behind '?' query ++ Text.behind '#' fragment)
    (hrest : ∀ c ∈ rest, c ≠ '?' ∧ c ≠ '#') (hquery : ∀ q ∈ query, '#' ∉ q) :
    parse (String.ofList cs) =
      (readWeb scheme (query.isNone && fragment.isNone) rest).map fun (authority, path) =>
        ⟨scheme, some authority, path, query.map (Percent.encode Percent.inWebQuery),
          fragment.map (Percent.encode Percent.inFragment)⟩ := by
  have hscheme : ∀ s ∈ usualPorts.map Prod.fst, (s ++ [':']).all fun c => c ≠ '?' ∧ c ≠ '#' := by decide
  have hfront : ∀ c ∈ scheme ++ ':' :: rest, c ≠ '?' ∧ c ≠ '#' := by
    rw [← List.singleton_append, ← List.append_assoc]
    refine List.forall_mem_append.2 ⟨fun c hc => ?_, hrest⟩
    exact of_decide_eq_true (List.all_eq_true.1 (hscheme scheme (mem_of_isWeb hweb)) c hc)
  have hhash : '#' ∉ Text.behind '?' query := by
    cases query with
    | none => exact List.not_mem_nil
    | some q => exact List.not_mem_cons_of_ne_of_not_mem (by decide) (hquery q rfl)
  have hcutFragment : Text.cut (· == '#')
      (scheme ++ ':' :: rest ++ Text.behind '?' query ++ Text.behind '#' fragment) =
        (scheme ++ ':' :: rest ++ Text.behind '?' query, fragment) := by
    refine Text.cut_behind (fun hc => ?_) fragment
    exact (List.mem_append.1 hc).elim (fun hc => (hfront _ hc).2 rfl) hhash
  have hcutQuery : Text.cut (· == '?') (scheme ++ ':' :: rest ++ Text.behind '?' query) =
      (scheme ++ ':' :: rest, query) :=
    Text.cut_behind (fun hc => (hfront _ hc).1 rfl) query
  have hweb' : (isWeb scheme || scheme == fileScheme) = true := by rw [hweb, Bool.true_or]
  rw [parse, String.toList_ofList, hclean, hcutFragment]
  dsimp only
  rw [hcutQuery]
  dsimp only
  rw [cutScheme?_append hweb]
  dsimp only
  rw [if_pos hweb, hweb', if_pos rfl]
  cases readWeb scheme (query.isNone && fragment.isNone) rest <;> rfl

/-- The schemes of the web hold no blanks and no controls. -/
theorem lt_toNat_of_mem_front {scheme : List Char} (hweb : isWeb scheme) {rest : List Char}
    (hrest : ∀ c ∈ rest, 0x20 < c.toNat) : ∀ c ∈ scheme ++ ':' :: rest, 0x20 < c.toNat := by
  have hscheme : ∀ s ∈ usualPorts.map Prod.fst, (s ++ [':']).all fun c => 0x20 < c.toNat := by decide
  rw [← List.singleton_append, ← List.append_assoc]
  refine List.forall_mem_append.2 ⟨fun c hc => ?_, hrest⟩
  exact of_decide_eq_true (List.all_eq_true.1 (hscheme scheme (mem_of_isWeb hweb)) c hc)

/-- A text without blanks and controls is cut as it stands. -/
theorem parse_append {scheme : List Char} (hweb : isWeb scheme) {rest : List Char}
    {query fragment : Option (List Char)} (hrest : ∀ c ∈ rest, 0x20 < c.toNat ∧ c ≠ '?' ∧ c ≠ '#')
    (hquery : ∀ q ∈ query, ∀ c ∈ q, 0x20 < c.toNat ∧ c ≠ '#')
    (hfragment : ∀ f ∈ fragment, ∀ c ∈ f, 0x20 < c.toNat) :
    parse (String.ofList
      (scheme ++ ':' :: rest ++ Text.behind '?' query ++ Text.behind '#' fragment)) =
        (readWeb scheme (query.isNone && fragment.isNone) rest).map fun (authority, path) =>
          ⟨scheme, some authority, path, query.map (Percent.encode Percent.inWebQuery),
            fragment.map (Percent.encode Percent.inFragment)⟩ := by
  have hqueryChars : ∀ c ∈ Text.behind '?' query, 0x20 < c.toNat := by
    cases query with
    | none => exact fun c hc => absurd hc List.not_mem_nil
    | some q => exact List.forall_mem_cons.2 ⟨by decide, fun c hc => (hquery q rfl c hc).1⟩
  have hfragmentChars : ∀ c ∈ Text.behind '#' fragment, 0x20 < c.toNat := by
    cases fragment with
    | none => exact fun c hc => absurd hc List.not_mem_nil
    | some f => exact List.forall_mem_cons.2 ⟨by decide, hfragment f rfl⟩
  have hfront := lt_toNat_of_mem_front hweb fun c hc => (hrest c hc).1
  have hclean := clean_eq_self (List.forall_mem_append.2
    ⟨List.forall_mem_append.2 ⟨hfront, hqueryChars⟩, hfragmentChars⟩)
  exact parse_of_clean hweb hclean (fun c hc => (hrest c hc).2) fun q hq hmem =>
    (hquery q hq _ hmem).2 rfl

/-- Whether the host of a URL can be read, if it has one. -/
def readable (u : Url) : Bool := (u.host?.map Host.readable).getD true

/-- A URL of the web whose credentials are kept is read from its own text, if its host can be read. -/
theorem OfWeb.parse_render {u : Url} (h : OfWeb u) (hkept : ∀ authority ∈ u.authority, authority.Kept) :
    parse u.render = if u.readable then .ok u else .error .badDomain := by
  obtain ⟨hweb, ⟨authority, hauthority, hhost, hport⟩, ⟨ss, hpath, hne, hss⟩, hquery, hfragment⟩ := h
  obtain ⟨scheme, authority?, path, query, fragment⟩ := u
  dsimp only at hweb hauthority hport hpath hquery hfragment hkept
  subst hauthority hpath
  have hkept := hkept authority rfl
  have hchars : Url.toChars ⟨scheme, some authority, .segments ss, query, fragment⟩ =
      scheme ++ ':' :: '/' :: '/' :: (authority.toChars ++ (Path.segments ss).toChars) ++
        Text.behind '?' query ++ Text.behind '#' fragment := by
    cases query <;> cases fragment <;> simp [Url.toChars, Text.behind]
  have hpart {inSet : Char → Bool} {part : Option (List Char)}
      (h : ∀ cs ∈ part, ∀ c ∈ cs, ¬ inSet c) : part.map (Percent.encode inSet) = part := by
    cases part with
    | none => rfl
    | some cs => rw [Option.map_some, Percent.encode_of_not_inSet (h cs rfl)]
  have hreadable : Url.readable ⟨scheme, some authority, .segments ss, query, fragment⟩ =
      authority.host.readable := rfl
  rw [render, hchars, parse_append hweb (fun c hc => of_mem_front hkept hhost hss hc)
      (fun q hq c hc => lt_toNat_of_not_inWebQuery (hquery q hq c hc))
      (fun f hf c hc => lt_toNat_of_not_inFragment (hfragment f hf c hc)),
    readWeb_toChars hweb _ hkept hhost hport hne hss, hpart hquery, hpart hfragment, hreadable]
  split <;> rfl

/-- The credentials of a URL are kept if there are none. -/
theorem kept_of_none {u : Url} (hnone : u.hasCredentials = false) :
    ∀ authority ∈ u.authority, authority.Kept := by
  intro authority hauthority
  rw [hasCredentials, hauthority] at hnone
  exact Authority.kept_of_none hnone

end Url

end TripClient
