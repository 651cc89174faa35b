import TripClient.Proofs.Url.Endpoint
import TripClient.Proofs.Url.Host
import TripClient.Proofs.Url.Percent
import TripClient.Settings

/-!
# What URLs of the web are made of

`OfWeb` says what every URL with a scheme of the web is made of: a host, a port that is not the usual
one, segments that lead on, and a query and a fragment whose characters are escaped. A URL is so when it
was read (`ofWeb_of_parse`), and it stays so when it is made the base of endpoints (`OfWeb.asBase`) and
when an endpoint is addressed below it (`OfWeb.endpoint`). So the base of settings is one (`base_ok`).
-/

namespace TripClient.Url

/-! ## Segments -/

namespace Path

/-- Whether a text is a segment of a path of the web: it has been escaped, it holds no slash of either
kind, and it leads on. -/
structure Kept (s : List Char) : Prop where
  chars : ∀ c ∈ s, ¬ Percent.inPath c ∧ ¬ isWebSlash c
  here : dots? s ≠ some 1
  up : dots? s ≠ some 2

instance (s : List Char) : Decidable (Kept s) :=
  decidable_of_iff (s.all (fun c => !Percent.inPath c && !isWebSlash c) ∧ dots? s ≠ some 1 ∧
      dots? s ≠ some 2)
    ⟨fun h => ⟨by simpa using h.1, h.2.1, h.2.2⟩, fun h => ⟨by simpa using h.chars, h.here, h.up⟩⟩

theorem kept_nil : Kept [] := ⟨fun _ h => absurd h List.not_mem_nil, by decide, by decide⟩

/-- Escaping with a set of which escapes are not made leaves no character of the set, and no slash if
there was none. -/
theorem chars_encode {inSet : Char → Bool} {cs : List Char}
    (hset : ∀ c, Percent.inPath c → inSet c) (hslash : ∀ c ∈ cs, isWebSlash c → inSet c) :
    ∀ c ∈ Percent.encode inSet cs, ¬ Percent.inPath c ∧ ¬ isWebSlash c := by
  have hdigit : ∀ n : Fin 16, ¬ Percent.inPath (Percent.hexDigit n) ∧
      ¬ isWebSlash (Percent.hexDigit n) := by decide
  intro c hc
  rcases Percent.eq_of_mem_encode hc with ⟨hmem, hnot⟩ | rfl | ⟨n, hn, rfl⟩
  · exact ⟨mt (hset c) hnot, mt (hslash c hmem) hnot⟩
  · decide
  · exact hdigit ⟨n, hn⟩

/-- Going up leaves segments that were there. -/
theorem mem_up {ss : List (List Char)} {s : List Char} (h : s ∈ up ss) : s ∈ ss := by
  unfold up at h
  split at h
  · split at h
    · exact h
    · exact List.dropLast_subset _ h
  · exact h

/-- Following a path of escaped segments from segments that are kept leads to such segments. -/
theorem kept_follow {done ss : List (List Char)} (hdone : ∀ s ∈ done, Kept s)
    (hss : ∀ s ∈ ss, ∀ c ∈ s, ¬ Percent.inPath c ∧ ¬ isWebSlash c) : ∀ s ∈ follow done ss, Kept s := by
  have hempty {done : List (List Char)} (hdone : ∀ s ∈ done, Kept s) : ∀ s ∈ done ++ [[]], Kept s := by
    intro s hs
    rcases List.mem_append.1 hs with hs | hs
    · exact hdone s hs
    · rw [List.mem_singleton.1 hs]
      exact kept_nil
  have hbehind {done : List (List Char)} {s : List Char} (hdone : ∀ s ∈ done, Kept s) (hs : Kept s) :
      ∀ t ∈ done ++ [s], Kept t := by
    intro t ht
    rcases List.mem_append.1 ht with ht | ht
    · exact hdone t ht
    · rwa [List.mem_singleton.1 ht]
  fun_induction follow done ss with
  | case1 done => exact hdone
  | case2 done s hdots => exact hempty hdone
  | case3 done s hdots => exact hempty fun t ht => hdone t (mem_up ht)
  | case4 done s hhere hup => exact hbehind hdone ⟨hss s List.mem_cons_self, hhere, hup⟩
  | case5 done s t rest hdots ih => exact ih hdone fun u hu => hss u (List.mem_cons_of_mem s hu)
  | case6 done s t rest hdots ih =>
    exact ih (fun u hu => hdone u (mem_up hu)) fun u hu => hss u (List.mem_cons_of_mem s hu)
  | case7 done s t rest hhere hup ih =>
    exact ih (hbehind hdone ⟨hss s List.mem_cons_self, hhere, hup⟩) fun u hu =>
      hss u (List.mem_cons_of_mem s hu)

/-- A path that is followed has a segment if one is left to follow. -/
theorem follow_ne_nil {done ss : List (List Char)} (h : ss ≠ []) : follow done ss ≠ [] := by
  fun_induction follow done ss with
  | case1 => exact absurd rfl h
  | case2 | case3 | case4 => simp
  | case5 _ _ _ _ _ ih | case6 _ _ _ _ _ ih | case7 _ _ _ _ _ _ ih => exact ih (List.cons_ne_nil _ _)

/-- The segments that a text writes. -/
theorem kept_ofChars (cs : List Char) :
    ofChars isWebSlash cs ≠ [] ∧ ∀ s ∈ ofChars isWebSlash cs, Kept s := by
  refine ⟨follow_ne_nil ?_, kept_follow (fun s hs => absurd hs List.not_mem_nil) ?_⟩
  · rw [ne_eq, List.map_eq_nil_iff]
    exact Text.pieces_ne_nil _ cs
  · intro s hs
    obtain ⟨p, hp, rfl⟩ := List.mem_map.1 hs
    exact chars_encode (fun _ h => h) fun c hc hslash =>
      absurd hslash (Text.not_isSeparator_of_mem hp hc)

/-- Going on by a segment. -/
theorem kept_append {ss : List (List Char)} (hss : ∀ s ∈ ss, Kept s) (segment : String) :
    ∀ s ∈ append ss segment, Kept s := by
  unfold append
  split
  · exact hss
  · refine kept_follow ?_ fun s hs => ?_
    · split
      · exact fun s hs => absurd hs List.not_mem_nil
      · exact hss
    · rw [List.mem_singleton.1 hs]
      refine chars_encode (fun c hc => ?_) fun c _ hc => ?_
      · rw [Percent.inSegment, hc, Bool.true_or]
      · simp only [isWebSlash, Bool.or_eq_true, beq_iff_eq] at hc
        rcases hc with rfl | rfl <;> decide

/-- There is a segment behind which one goes on by a segment that is not dots. -/
theorem append_ne_nil {segment : String} (h : segment ≠ "." ∧ segment ≠ "..") (ss : List (List Char)) :
    append ss segment ≠ [] := by
  rw [append, if_neg (by simpa using h)]
  exact follow_ne_nil (List.cons_ne_nil _ _)

/-- Going on by segments. -/
theorem kept_foldl {ss : List (List Char)} (hss : ∀ s ∈ ss, Kept s) (segments : List String) :
    ∀ s ∈ segments.foldl append ss, Kept s := by
  induction segments generalizing ss with
  | nil => exact hss
  | cons segment rest ih => exact ih (kept_append hss segment)

theorem mem_withoutEnd {ss : List (List Char)} {s : List Char} (h : s ∈ withoutEnd ss) : s ∈ ss := by
  unfold withoutEnd at h
  split at h
  · exact h
  · split at h
    · exact List.dropLast_subset _ h
    · exact h

theorem exists_withEnd (ss : List (List Char)) : ∃ front, withEnd ss = front ++ [[]] := by
  unfold withEnd
  split
  · next h =>
    obtain ⟨front, hend⟩ := List.getLast?_eq_some_iff.1 (eq_of_beq h)
    exact ⟨front, hend⟩
  · exact ⟨ss, rfl⟩

theorem mem_withEnd {ss : List (List Char)} {s : List Char} (h : s ∈ withEnd ss) : s ∈ ss ∨ s = [] := by
  unfold withEnd at h
  split at h
  · exact .inl h
  · exact (List.mem_append.1 h).imp_right List.mem_singleton.1

end Path

/-! ## URLs -/

/-- What a URL with a scheme of the web is made of. -/
structure OfWeb (u : Url) : Prop where
  scheme : isWeb u.scheme
  /-- There is a host. A port is one, and not the usual one. -/
  authority : ∃ a, u.authority = some a ∧ a.host.OfWeb ∧
    ∀ n ∈ a.port, n ≤ 65535 ∧ usualPorts.lookup u.scheme ≠ some n
  path : ∃ ss, u.path = .segments ss ∧ ss ≠ [] ∧ ∀ s ∈ ss, Path.Kept s
  query : ∀ q ∈ u.query, ∀ c ∈ q, ¬ Percent.inWebQuery c
  fragment : ∀ f ∈ u.fragment, ∀ c ∈ f, ¬ Percent.inFragment c

/-- A port that is read is one. -/
theorem readPort_le {cs left : List Char} {port : Option Nat} (h : readPort cs = .ok (port, left)) :
    ∀ n ∈ port, n ≤ 65535 := by
  unfold readPort at h
  dsimp only at h
  split at h
  · cases h
  · next hport =>
    cases h
    simp only [Bool.or_eq_true, decide_eq_true_eq, not_or, Nat.not_lt] at hport
    intro n hn
    split at hn
    · cases hn
    · cases hn
      exact hport.1

/-- The host of an authority is read from some of its text. -/
theorem readAuthority_host {scheme cs left : List Char} {ends : Bool} {authority : Authority}
    (h : readAuthority scheme ends cs = .ok (authority, left)) :
    ∃ text, readHost scheme text = .ok authority.host := by
  unfold readAuthority at h
  obtain ⟨-, h⟩ := throw_else_eq_ok.1 h
  obtain ⟨host, hhost, h⟩ := bind_eq_ok.1 h
  obtain ⟨-, h⟩ := throw_else_eq_ok.1 h
  -- With a port and without one.
  dsimp only at h
  split at h
  all_goals
    obtain ⟨⟨port, rest⟩, -, h⟩ := bind_eq_ok.1 h
    obtain ⟨-, h⟩ := throw_else_eq_ok.1 h
    cases h
    exact ⟨_, hhost⟩

/-- The port of an authority is one, and not the usual one of the scheme. -/
theorem readAuthority_port {scheme cs left : List Char} {ends : Bool} {authority : Authority}
    (h : readAuthority scheme ends cs = .ok (authority, left)) :
    ∀ n ∈ authority.port, n ≤ 65535 ∧ usualPorts.lookup scheme ≠ some n := by
  unfold readAuthority at h
  obtain ⟨-, h⟩ := throw_else_eq_ok.1 h
  obtain ⟨host, hhost, h⟩ := bind_eq_ok.1 h
  obtain ⟨-, h⟩ := throw_else_eq_ok.1 h
  have husual {port : Option Nat} (hle : ∀ n ∈ port, n ≤ 65535) :
      ∀ n ∈ port.filter fun n => usualPorts.lookup scheme != some n,
        n ≤ 65535 ∧ usualPorts.lookup scheme ≠ some n := by
    intro n hn
    obtain ⟨hmem, hne⟩ := Option.filter_eq_some_iff.1 hn
    exact ⟨hle n hmem, by simpa using hne⟩
  -- With a port and without one.
  dsimp only at h
  split at h
  · obtain ⟨⟨port, rest⟩, hport, h⟩ := bind_eq_ok.1 h
    obtain ⟨-, h⟩ := throw_else_eq_ok.1 h
    cases h
    exact husual (readPort_le hport)
  · obtain ⟨⟨port, rest⟩, hport, h⟩ := bind_eq_ok.1 h
    obtain ⟨-, h⟩ := throw_else_eq_ok.1 h
    cases h
    cases hport
    exact husual fun n hn => absurd hn (Option.not_mem_none n)

/-- What is escaped with a set of which escapes are not made holds no character of the set. -/
theorem not_inSet_of_mem {inSet : Char → Bool} (hpercent : ¬ inSet '%')
    (hdigit : ∀ n : Fin 16, ¬ inSet (Percent.hexDigit n)) {cs : List Char} :
    ∀ c ∈ Percent.encode inSet cs, ¬ inSet c := by
  intro c hc
  rcases Percent.eq_of_mem_encode hc with ⟨-, hnot⟩ | rfl | ⟨n, hn, rfl⟩
  · exact hnot
  · exact hpercent
  · exact hdigit ⟨n, hn⟩

/-- Whether a user name and a password are kept as they are: both have been escaped, and a password is not
empty. -/
structure Authority.Kept (authority : Authority) : Prop where
  username : ∀ c ∈ authority.username, ¬ Percent.inUserinfo c
  password : ∀ p ∈ authority.password, p ≠ [] ∧ ∀ c ∈ p, ¬ Percent.inUserinfo c

/-- So they are if there are none. -/
theorem Authority.kept_of_none {authority : Authority} (h : authority.hasCredentials = false) :
    authority.Kept := by
  obtain ⟨username, password, host, port⟩ := authority
  simp only [hasCredentials, Bool.or_eq_false_iff, Bool.not_eq_false', List.isEmpty_iff,
    Option.isSome_eq_false_iff, Option.isNone_iff_eq_none] at h
  obtain ⟨rfl, rfl⟩ := h
  exact ⟨fun c hc => absurd hc List.not_mem_nil, fun p hp => absurd hp (Option.not_mem_none p)⟩

/-- The credentials of an authority that is read are kept. -/
theorem readAuthority_kept {scheme cs left : List Char} {ends : Bool} {authority : Authority}
    (h : readAuthority scheme ends cs = .ok (authority, left)) : authority.Kept := by
  unfold readAuthority at h
  obtain ⟨-, h⟩ := throw_else_eq_ok.1 h
  obtain ⟨host, -, h⟩ := bind_eq_ok.1 h
  obtain ⟨-, h⟩ := throw_else_eq_ok.1 h
  have hescaped (cs : List Char) : ∀ c ∈ Percent.encode Percent.inUserinfo cs, ¬ Percent.inUserinfo c :=
    not_inSet_of_mem (by decide) (by decide)
  -- With a port and without one.
  dsimp only at h
  split at h
  all_goals
    obtain ⟨⟨port, rest⟩, -, h⟩ := bind_eq_ok.1 h
    obtain ⟨-, h⟩ := throw_else_eq_ok.1 h
    cases h
    refine ⟨hescaped _, fun p hp => ?_⟩
    obtain ⟨cs, hcs, rfl⟩ := Option.map_eq_some_iff.1 hp
    obtain ⟨-, hne⟩ := Option.filter_eq_some_iff.1 hcs
    exact ⟨Percent.encode_ne_nil (by simpa using hne), hescaped cs⟩

/-- On the web a host is a host of the web. -/
theorem readHost_web {scheme cs : List Char} {host : Host} (hweb : isWeb scheme)
    (h : readHost scheme cs = .ok host) : host.OfWeb := by
  rw [readHost, hweb] at h
  split at h
  · next hnot => cases hnot
  · split at h
    · cases h
    · exact Host.ofWeb_sound h

/-- The path of a URL of the web. -/
theorem readPath_kept (cs : List Char) :
    ∃ ss, readPath true cs = .segments ss ∧ ss ≠ [] ∧ ∀ s ∈ ss, Path.Kept s := by
  cases cs with
  | nil =>
    refine ⟨[[]], rfl, List.cons_ne_nil _ _, fun s hs => ?_⟩
    rw [List.mem_singleton.1 hs]
    exact Path.kept_nil
  | cons c rest => exact ⟨_, rfl, Path.kept_ofChars _⟩

/-- A URL that was read with a scheme of the web has an authority that was read, a path that was read, and a
query and a fragment that were escaped. -/
theorem exists_of_parse {text : String} {u : Url} (h : parse text = .ok u) (hweb : isWeb u.scheme) :
    (∃ ends cs authority left rest, readAuthority u.scheme ends cs = .ok (authority, left) ∧
      u.authority = some authority ∧ u.path = readPath true rest) ∧
      (∃ query : Option (List Char), u.query = query.map (Percent.encode Percent.inWebQuery)) ∧
      ∃ fragment : Option (List Char), u.fragment = fragment.map (Percent.encode Percent.inFragment) := by
  unfold parse at h
  dsimp only at h
  split at h
  · cases h
  · next scheme rest _ =>
    split at h
    · obtain ⟨_, hmap, h⟩ := bind_eq_ok.1 h
      cases h
      obtain ⟨⟨authority, path⟩, hread, rfl⟩ := map_eq_ok.1 hmap
      obtain ⟨⟨authority', left⟩, hauthority, hread⟩ := bind_eq_ok.1 hread
      cases hread
      have hpart : (isWeb scheme || scheme == fileScheme) = true := by rw [hweb]; rfl
      rw [hpart]
      exact ⟨⟨_, _, _, _, _, hauthority, rfl, rfl⟩, ⟨_, rfl⟩, ⟨_, rfl⟩⟩
    · next hother =>
      split at h
      all_goals
        obtain ⟨_, -, h⟩ := bind_eq_ok.1 h
        cases h
        exact absurd hweb hother

/-- A URL that was read is a URL of the web if its scheme is one of the web. -/
theorem ofWeb_of_parse {text : String} {u : Url} (h : parse text = .ok u) (hweb : isWeb u.scheme) :
    OfWeb u := by
  obtain ⟨⟨_, _, authority, _, rest, hread, hauthority, hpath⟩, ⟨query, hquery⟩, ⟨fragment, hfragment⟩⟩ :=
    exists_of_parse h hweb
  obtain ⟨text, hhost⟩ := readAuthority_host hread
  have hescaped {inSet : Char → Bool} (hpercent : ¬ inSet '%')
      (hdigit : ∀ n : Fin 16, ¬ inSet (Percent.hexDigit n)) {part : Option (List Char)} :
      ∀ cs ∈ part.map (Percent.encode inSet), ∀ c ∈ cs, ¬ inSet c := by
    intro cs hcs
    obtain ⟨_, -, rfl⟩ := Option.map_eq_some_iff.1 hcs
    exact not_inSet_of_mem hpercent hdigit
  exact ⟨hweb, ⟨_, hauthority, readHost_web hweb hhost, readAuthority_port hread⟩,
    hpath ▸ readPath_kept rest, hquery ▸ hescaped (by decide) (by decide),
    hfragment ▸ hescaped (by decide) (by decide)⟩

/-- The credentials of a URL of the web that was read are kept. -/
theorem kept_of_parse {text : String} {u : Url} (h : parse text = .ok u) (hweb : isWeb u.scheme) :
    ∀ authority ∈ u.authority, authority.Kept := by
  obtain ⟨⟨_, _, authority, _, _, hread, hauthority, -⟩, -, -⟩ := exists_of_parse h hweb
  intro authority' h'
  obtain rfl := Option.some_inj.1 (hauthority.symm.trans h')
  exact readAuthority_kept hread

/-- The base of endpoints. -/
theorem OfWeb.asBase {u : Url} (h : OfWeb u) : OfWeb u.asBase := by
  obtain ⟨hscheme, hauthority, ⟨ss, hpath, hne, hss⟩, -, -⟩ := h
  refine ⟨hscheme, hauthority, ⟨Path.withEnd ss, by rw [Url.asBase, hpath], ?_, fun s hs => ?_⟩, nofun,
    nofun⟩
  · obtain ⟨front, hfront⟩ := Path.exists_withEnd ss
    rw [hfront]
    simp
  · rcases Path.mem_withEnd hs with hs | rfl
    · exact hss s hs
    · exact Path.kept_nil

/-- Letters and digits are ASCII. -/
theorem toNat_lt_of_isAlphanum {c : Char} (h : c.isAlphanum) : c.toNat < 128 := by
  have hle {c' : Char} (hc : c.val ≤ c'.val) : c.toNat ≤ c'.toNat := UInt32.le_iff_toNat_le.1 hc
  have hlast : 'z'.toNat = 122 ∧ 'Z'.toNat = 90 ∧ '9'.toNat = 57 := ⟨rfl, rfl, rfl⟩
  have hbound : c.toNat ≤ 'z'.toNat ∨ c.toNat ≤ 'Z'.toNat ∨ c.toNat ≤ '9'.toNat := by
    rcases Bool.or_eq_true_iff.1 h with halpha | hdigit
    · rcases Bool.or_eq_true_iff.1 halpha with hupper | hlower
      · have hrange : c.val ≥ 'A'.val ∧ c.val ≤ 'Z'.val := of_decide_eq_true hupper
        exact .inr (.inl (hle hrange.2))
      · exact .inl (hle (of_decide_eq_true (Bool.and_eq_true_iff.1 hlower).2))
    · exact .inr (.inr (hle (of_decide_eq_true (Bool.and_eq_true_iff.1 hdigit).2)))
  omega

/-- What stands for itself among named values does so in a query. -/
theorem not_inWebQuery_of_isPlain {c : Char} (h : Query.isPlain c) : ¬ Percent.inWebQuery c := by
  have hlt : c.toNat < 128 := by
    rcases Bool.or_eq_true_iff.1 h with h | h
    · exact toNat_lt_of_isAlphanum h
    · simp only [List.contains_eq_mem, decide_eq_true_eq, List.mem_cons, List.not_mem_nil, or_false] at h
      rcases h with rfl | rfl | rfl | rfl <;> decide
  have hall : ∀ n : Fin 128, Query.isPlain (Char.ofNat n) → ¬ Percent.inWebQuery (Char.ofNat n) := by
    decide
  have hc := hall ⟨c.toNat, hlt⟩
  rw [Char.ofNat_toNat] at hc
  exact hc h

/-- Named values are written with characters that stand for themselves in a query. -/
theorem not_inWebQuery_of_mem_ofPairs {pairs : List (String × String)} :
    ∀ c ∈ Query.ofPairs pairs, ¬ Percent.inWebQuery c := by
  have hdigit : ∀ n : Fin 16, ¬ Percent.inWebQuery (Percent.hexDigit n) := by decide
  have htext {s : String} : ∀ c ∈ Query.encode s, ¬ Percent.inWebQuery c := by
    intro c hc
    obtain ⟨d, -, hmem⟩ := List.mem_flatMap.1 hc
    split at hmem
    · rw [List.mem_singleton.1 hmem]
      decide
    · split at hmem
      · next hd =>
        rw [List.mem_singleton.1 hmem]
        exact not_inWebQuery_of_isPlain hd
      · rcases Percent.eq_of_mem_escapeChar hmem with rfl | ⟨n, hn, rfl⟩
        · decide
        · exact hdigit ⟨n, hn⟩
  intro c hc
  rcases Text.mem_join hc with rfl | ⟨_, hp, hc⟩
  · decide
  · obtain ⟨pair, -, rfl⟩ := List.mem_map.1 hp
    rcases List.mem_append.1 hc with hc | hc
    · exact htext c hc
    · rcases List.mem_cons.1 hc with rfl | hc
      · decide
      · exact htext c hc

/-- An endpoint below a base. -/
theorem OfWeb.endpoint {base : Url} (h : OfWeb base) (segments : List String)
    (query : List (String × String)) : OfWeb (base.endpoint segments query) := by
  obtain ⟨hscheme, hauthority, ⟨ss, hpath, hne, hss⟩, hquery, hfragment⟩ := h
  refine ⟨hscheme, hauthority, ⟨_, rfl, ?_, ?_⟩, ?_, hfragment⟩
  · exact Path.append_ne_nil (by decide) _
  · refine Path.kept_append (Path.kept_foldl (fun s hs => ?_) segments) ""
    rw [hpath] at hs
    exact hss s (Path.mem_withoutEnd hs)
  · intro q hq
    rw [Url.endpoint] at hq
    dsimp only at hq
    split at hq
    · exact hquery q hq
    · cases hq
      exact not_inWebQuery_of_mem_ofPairs

/-! ## The base of settings -/

/-- The schemes that a request may use. -/
theorem scheme_of_schemes {scheme : List Char}
    (h : Http.Address.schemes.contains (String.ofList scheme)) :
    scheme = "http".toList ∨ scheme = "https".toList := by
  have hmem : String.ofList scheme ∈ Http.Address.schemes := List.contains_iff_mem.1 h
  rcases List.mem_cons.1 hmem with heq | hmem
  · exact .inl (String.ofList_inj.1 (heq : _ = String.ofList "http".toList))
  · exact .inr (String.ofList_inj.1 (List.mem_singleton.1 hmem : _ = String.ofList "https".toList))

/-- They are schemes of the web. -/
theorem isWeb_of_schemes {scheme : List Char}
    (h : Http.Address.schemes.contains (String.ofList scheme)) : isWeb scheme := by
  rcases scheme_of_schemes h with rfl | rfl <;> rfl

/-- The base of settings is made of the URL that their text is read as, which has a scheme that requests may
use. -/
theorem parse_of_base {s : Settings} {base : Url} (h : s.base = .ok base) :
    ∃ u, parse (Text.trim s.baseUrl) = .ok u ∧ Http.Address.schemes.contains (String.ofList u.scheme) ∧
      base = u.asBase := by
  unfold Settings.base at h
  split at h
  · cases h
  · next u hparse =>
    split at h
    · cases h
    · next hscheme =>
      split at h
      · cases h
      · cases h
        exact ⟨u, hparse, by simpa using hscheme, rfl⟩

/-- The base of settings is a URL of the web, and its path ends with a slash. -/
theorem base_ok {s : Settings} {base : Url} (h : s.base = .ok base) :
    OfWeb base ∧ base.query = none ∧ base.fragment = none ∧
      ∃ front, base.path = .segments (front ++ [[]]) ∧ ∀ s ∈ front, Path.Kept s := by
  obtain ⟨u, hparse, hscheme, rfl⟩ := parse_of_base h
  have hweb := ofWeb_of_parse hparse (isWeb_of_schemes hscheme)
  obtain ⟨ss, hpath, -, hss⟩ := hweb.path
  obtain ⟨front, hend⟩ := Path.exists_withEnd ss
  refine ⟨hweb.asBase, rfl, rfl, front, ?_, fun s hs => ?_⟩
  · rw [asBase, hpath, ← hend]
  · refine (Path.mem_withEnd (hend ▸ List.mem_append_left _ hs)).elim (hss s) fun heq => ?_
    rw [heq]
    exact Path.kept_nil

end TripClient.Url
