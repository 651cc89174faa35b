import TripClient.Proofs.Http.Address
import TripClient.Proofs.Text.Trim

/-!
# Bases are normal

The base of settings is a URL of the web without query and fragment whose path ends with a slash
(`Url.Normal`). It is the base of many texts: of its own, of that with a query and a fragment behind it, of
that without its final slash, all with blanks around (`Url.SaidBy`). Each of these texts says the same base
again, unless the host has a label that is too long to be read, and then each is refused
(`Settings.base_of_saidBy`).
-/

namespace TripClient

namespace Url

/-! ## Paths that end with a slash -/

/-- A path that ends with a segment ends with a slash exactly if there is nothing in the segment. -/
theorem Path.endsWithSlash_iff {ss : List (List Char)} (hss : ∀ s ∈ ss, Kept s) :
    (Path.segments ss).toChars.getLast? = some '/' ↔ ss.getLast? = some [] := by
  obtain rfl | ⟨front, last, rfl⟩ := List.eq_nil_or_concat ss
  · exact ⟨nofun, nofun⟩
  rw [List.concat_eq_append, toChars_segments_append, List.getLast?_concat, Option.some_inj]
  have hlast : (Path.segments [last]).toChars = '/' :: last := List.append_nil _
  rw [hlast, List.getLast?_append, List.getLast?_cons, Option.some_or, Option.some_inj]
  cases hchars : last.getLast? with
  | none =>
    rw [List.getLast?_eq_none_iff.1 hchars]
    exact ⟨fun _ => rfl, fun _ => rfl⟩
  | some c =>
    have hc : c ∈ last := List.mem_of_getLast? hchars
    have hslash := ((hss last (by simp)).chars c hc).2
    refine ⟨fun heq => ?_, fun hnil => ?_⟩
    · obtain rfl : c = '/' := heq
      exact absurd rfl hslash
    · rw [hnil] at hc
      cases hc

/-- A slash behind a path is an empty segment. -/
theorem Path.toChars_concat_slash (ss : List (List Char)) :
    (Path.segments (ss ++ [[]])).toChars = (Path.segments ss).toChars ++ ['/'] :=
  toChars_segments_append ss [[]]

/-- The URL with a path that is read from a text. -/
def setPath (u : Url) (cs : List Char) : Url := { u with path := readPath (isWeb u.scheme) cs }

/-- The URL without query and fragment; if the text of its path does not end with a slash, the path is read
from that text with a slash behind it. -/
def withSlash (u : Url) : Url :=
  let bare := { u with query := none, fragment := none }
  if u.path.toChars.getLast? = some '/' then bare else bare.setPath (u.path.toChars ++ ['/'])

/-- The base that a URL with segments is made. -/
theorem asBase_eq_of_segments {u : Url} {ss : List (List Char)} (h : u.path = .segments ss) :
    u.asBase = { u with path := .segments (Path.withEnd ss), query := none, fragment := none } := by
  rw [asBase, h]

/-- A base is the base that it is made. -/
theorem asBase_eq_self {u : Url} (hquery : u.query = none) (hfragment : u.fragment = none)
    {front : List (List Char)} (hpath : u.path = .segments (front ++ [[]])) : u.asBase = u := by
  obtain ⟨scheme, authority, path, query, fragment⟩ := u
  dsimp only at hquery hfragment hpath
  subst hquery hfragment hpath
  rw [asBase_eq_of_segments rfl, Path.withEnd, if_pos (by simp)]

/-- So the path of a base is not escaped again, and its segments are followed no further. -/
theorem OfWeb.asBase_eq {u : Url} (h : OfWeb u) : u.asBase = u.withSlash := by
  obtain ⟨hweb, -, ⟨ss, hpath, hne, hss⟩, -, -⟩ := h
  have hiff := Path.endsWithSlash_iff hss
  rw [asBase_eq_of_segments hpath, withSlash, hpath, Path.withEnd]
  by_cases hend : ss.getLast? = some []
  · rw [if_pos (hiff.2 hend), if_pos (beq_iff_eq.2 hend)]
  · rw [if_neg (mt hiff.1 hend), if_neg (mt beq_iff_eq.1 hend), setPath, hweb, ← Path.toChars_concat_slash,
      readPath_toChars (by simp)]
    intro s hs
    rcases List.mem_append.1 hs with hs | hs
    · exact hss s hs
    · rw [List.mem_singleton.1 hs]
      exact Path.kept_nil

/-! ## Texts around a URL -/

/-- What ends a path may be a query and a fragment. -/
theorem exists_parts {tail : List Char} (h : ∀ c ∈ tail.head?, c = '?' ∨ c = '#') :
    ∃ query fragment, tail = Text.behind '?' query ++ Text.behind '#' fragment ∧
      ∀ q ∈ query, '#' ∉ q := by
  cases tail with
  | nil => exact ⟨none, none, rfl, fun q hq => absurd hq (Option.not_mem_none q)⟩
  | cons c rest =>
    rcases h c rfl with rfl | rfl
    · obtain ⟨q, fragment, rfl, hq⟩ := Text.exists_behind '#' rest
      refine ⟨some q, fragment, rfl, ?_⟩
      rintro _ ⟨⟩
      exact hq
    · exact ⟨none, some rest, rfl, fun q hq => absurd hq (Option.not_mem_none q)⟩

/-- What is kept in a path is no blank. -/
theorem isBlank_of_not_inPath {c : Char} (h : ¬ Percent.inPath c) : Text.isBlank c = false := by
  rw [Percent.inPath, Percent.inFragment, Percent.inAny] at h
  simp only [Bool.or_eq_true, decide_eq_true_eq, not_or, List.contains_eq_mem, List.mem_cons, Nat.not_lt,
    Nat.not_le] at h
  have hblank : c.toNat ≠ ' '.toNat := fun heq => h.1.2.1 (Char.toNat_inj.1 heq)
  have hvalue : ' '.toNat = 0x20 := rfl
  simp only [Text.isBlank, Bool.or_eq_false_iff, Bool.and_eq_false_iff, decide_eq_false_iff_not,
    beq_eq_false_iff_ne]
  omega

/-- Nor is any character of a path. -/
theorem Path.isBlank_of_mem {ss : List (List Char)} (hss : ∀ s ∈ ss, Kept s) {c : Char}
    (hc : c ∈ (Path.segments ss).toChars) : Text.isBlank c = false := by
  obtain ⟨s, hs, hmem⟩ := List.mem_flatMap.1 hc
  rcases List.mem_cons.1 hmem with rfl | hmem
  · decide
  · exact isBlank_of_not_inPath ((hss s hs).chars c hmem).1

/-- A scheme of the web does not begin with a blank. -/
theorem isBlank_of_head_scheme {scheme : List Char} (hweb : isWeb scheme) {c : Char} {rest : List Char}
    (hc : (scheme ++ rest).head? = some c) : Text.isBlank c = false := by
  have hall : ∀ s ∈ usualPorts.map Prod.fst, s.head?.any fun c => !Text.isBlank c := by decide
  have hscheme := hall scheme (mem_of_isWeb hweb)
  cases scheme with
  | nil => cases hscheme
  | cons d scheme =>
    obtain rfl : d = c := Option.some_inj.1 hc
    simpa using hscheme

/-- A text that ends with a path does not close with a blank. -/
theorem Path.isBlank_of_getLast {ss : List (List Char)} (hne : ss ≠ []) (hss : ∀ s ∈ ss, Kept s)
    {front : List Char} {c : Char} (hc : (front ++ (Path.segments ss).toChars).getLast? = some c) :
    Text.isBlank c = false := by
  obtain ⟨first, rest, rfl⟩ := List.exists_cons_of_ne_nil hne
  obtain ⟨cs, hcs⟩ : ∃ cs, (Path.segments (first :: rest)).toChars = '/' :: cs := ⟨_, rfl⟩
  refine Path.isBlank_of_mem hss (List.mem_of_getLast? (a := c) ?_)
  rwa [List.getLast?_append, hcs, List.getLast?_cons, Option.some_or, ← List.getLast?_cons, ← hcs] at hc

/-- A URL of the web without query and fragment is read from a text that has its own text between blanks,
with or without what ends a path. -/
theorem OfWeb.parse_around {u : Url} (h : OfWeb u) (hkept : ∀ authority ∈ u.authority, authority.Kept)
    (hquery : u.query = none) (hfragment : u.fragment = none) {before tail after : List Char}
    (hbefore : ∀ c ∈ before, Text.isBlank c) (hafter : ∀ c ∈ after, Text.isBlank c)
    (htail : ∀ c ∈ tail.head?, c = '?' ∨ c = '#') :
    ∃ query fragment, parse (Text.trim (String.ofList (before ++ u.toChars ++ tail ++ after))) =
      if u.readable then .ok { u with query, fragment } else .error .badDomain := by
  obtain ⟨hweb, ⟨authority, hauthority, hhost, hport⟩, ⟨ss, hpath, hne, hss⟩, -, -⟩ := h
  obtain ⟨scheme, authority?, path, query?, fragment?⟩ := u
  dsimp only at hweb hauthority hport hpath hquery hfragment hkept
  subst hauthority hpath hquery hfragment
  have hkept := hkept authority rfl
  have hchars : Url.toChars ⟨scheme, some authority, .segments ss, none, none⟩ =
      scheme ++ ':' :: '/' :: '/' :: (authority.toChars ++ (Path.segments ss).toChars) := by
    simp [Url.toChars]
  have hmarks {tail : List Char} (htail : ∀ c ∈ tail.head?, c = '?' ∨ c = '#') :
      ∀ c ∈ tail.head?, 0x20 < c.toNat ∧ Text.isBlank c = false := by
    intro c hc
    rcases htail c hc with rfl | rfl <;> decide
  have hsplit : scheme ++ ':' :: '/' :: '/' :: (authority.toChars ++ (Path.segments ss).toChars) =
      scheme ++ ':' :: '/' :: '/' :: authority.toChars ++ (Path.segments ss).toChars := by simp
  -- The blanks around are dropped, and perhaps some at the end of the tail.
  obtain ⟨trimmed, htrim, htrimmed, -⟩ := Text.trimChars_around hbefore hafter
    (fun c hc => isBlank_of_head_scheme hweb (by rwa [List.append_assoc] at hc))
    (fun c hc => Path.isBlank_of_getLast hne hss (by rwa [hsplit] at hc))
    (fun c hc => (hmarks htail c hc).2)
  -- So are blanks and controls there, as a URL is read.
  obtain ⟨cleaned, hclean, hcleaned⟩ := clean_append
    (lt_toNat_of_mem_front hweb fun c hc => (of_mem_front hkept hhost hss hc).1) (by simp)
    (fun c (hc : c ∈ trimmed.head?) => (hmarks htail c (htrimmed ▸ hc)).1)
  obtain ⟨query, fragment, rfl, hquery⟩ := exists_parts
    fun c (hc : c ∈ cleaned.head?) => htail c (htrimmed ▸ hcleaned ▸ hc)
  refine ⟨query.map (Percent.encode Percent.inWebQuery),
    fragment.map (Percent.encode Percent.inFragment), ?_⟩
  rw [← List.append_assoc] at hclean
  have hreadable : Url.readable ⟨scheme, some authority, .segments ss, none, none⟩ =
      authority.host.readable := rfl
  rw [hchars, Text.trim, String.toList_ofList, htrim,
    parse_of_clean hweb hclean (fun c hc => (of_mem_front hkept hhost hss hc).2) hquery,
    readWeb_toChars hweb _ hkept hhost hport hne hss, hreadable]
  split <;> rfl

/-! ## Texts of a base -/

/-- The texts that say a base: its own, or that without its final slash, unless the path is no more than
that slash or ends with two; behind it anything that a question mark or a hash begins; and blanks around. -/
def SaidBy (u : Url) (text : String) : Prop :=
  ∃ before core tail after : List Char, text.toList = before ++ core ++ tail ++ after ∧
    (core = u.render.toList ∨
      core ++ ['/'] = u.render.toList ∧ u.path.toChars ≠ ['/'] ∧ ¬ ['/', '/'] <:+ u.path.toChars) ∧
    (∀ c ∈ tail.head?, c = '?' ∨ c = '#') ∧ ∀ c ∈ before ++ after, Text.isBlank c

/-- A base is said by its own text. -/
theorem saidBy_render (u : Url) : u.SaidBy u.render :=
  ⟨[], u.render.toList, [], [], by simp, .inl rfl, fun c hc => absurd hc (Option.not_mem_none c),
    fun c hc => absurd hc List.not_mem_nil⟩

/-- What a base is. -/
structure Normal (u : Url) : Prop where
  scheme : u.scheme = "http".toList ∨ u.scheme = "https".toList
  host : ∃ host, u.host? = some host ∧ host.toChars ≠ []
  bare : u.query = none ∧ u.fragment = none
  path : ∃ front, u.path.toChars = front ++ ['/']

/-- Without its final slash, the text of a base is that of a URL of which the same base is made. -/
theorem exists_unslashed {u : Url} (h : OfWeb u) (hquery : u.query = none) (hfragment : u.fragment = none)
    {front : List (List Char)} (hpath : u.path = .segments (front ++ [[]])) {core : List Char}
    (hcore : core ++ ['/'] = u.toChars) (hroot : u.path.toChars ≠ ['/'])
    (hdouble : ¬ ['/', '/'] <:+ u.path.toChars) :
    ∃ v : Url, OfWeb v ∧ v.authority = u.authority ∧ v.scheme = u.scheme ∧ v.query = none ∧
      v.fragment = none ∧ v.toChars = core ∧ v.asBase = u := by
  obtain ⟨hscheme, hauthority, ⟨ss, hss, -, hkept⟩, -, -⟩ := h
  obtain rfl : ss = front ++ [[]] := Path.segments.inj (hss.symm.trans hpath)
  have hne : front ≠ [] := by
    rintro rfl
    exact hroot (by rw [hpath]; rfl)
  have hlast : front.getLast? ≠ some [] := by
    intro hlast
    obtain ⟨rest, rfl⟩ := List.getLast?_eq_some_iff.1 hlast
    refine hdouble ⟨(Path.segments rest).toChars, ?_⟩
    rw [hpath, Path.toChars_concat_slash, Path.toChars_concat_slash, List.append_assoc]
    rfl
  obtain ⟨a, ha, hhost⟩ := hauthority
  obtain ⟨scheme, authority, path, query, fragment⟩ := u
  dsimp only at hscheme ha hpath hquery hfragment
  subst ha hpath hquery hfragment
  refine ⟨⟨scheme, some a, .segments front, none, none⟩,
    ⟨hscheme, ⟨a, rfl, hhost⟩, ⟨front, rfl, hne, fun s hs => hkept s (List.mem_append_left _ hs)⟩, nofun,
      nofun⟩, rfl, rfl, rfl, rfl, ?_, ?_⟩
  · rw [← List.append_left_inj ['/'], hcore]
    simp [toChars, Path.toChars_concat_slash]
  · rw [asBase_eq_of_segments rfl, Path.withEnd, if_neg (by simpa using hlast)]

end Url

namespace Settings

open Url

/-- The base of settings whose text is read as a URL with a host and a scheme that requests may use. -/
theorem base_of_parse {s : Settings} {u : Url} (h : Url.parse (Text.trim s.baseUrl) = .ok u)
    (hscheme : Http.Address.schemes.contains (String.ofList u.scheme)) (hhost : u.authority.isSome) :
    s.base = .ok u.asBase := by
  rw [base, h]
  dsimp only
  rw [hscheme, Bool.not_true, if_neg Bool.false_ne_true, Option.isNone_eq_false_iff.2 hhost,
    if_neg Bool.false_ne_true]

/-- Settings whose text is no URL have no base. -/
theorem base_of_parse_error {s : Settings} {e : Url.Error} (h : Url.parse (Text.trim s.baseUrl) = .error e) :
    s.base = .error (.config s!"invalid base_url '{s.baseUrl}': {e.message}") := by
  rw [base, h]

/-- The texts that say a base have the same base, if its host can be read, and else they have none. -/
theorem base_of_saidBy {s : Settings} {u : Url} (h : s.base = .ok u) (t : Settings)
    (hsaid : u.SaidBy t.baseUrl) : t.base = if u.readable then .ok u else
      .error (.config s!"invalid base_url '{t.baseUrl}': {Url.Error.badDomain.message}") := by
  obtain ⟨hweb, hquery, hfragment, front, hpath, -⟩ := base_ok h
  obtain ⟨v, hparse, hscheme, hmade⟩ := parse_of_base h
  obtain ⟨before, core, tail, after, htext, hcore, htail, hblank⟩ := hsaid
  obtain ⟨hbefore, hafter⟩ := List.forall_mem_append.1 hblank
  have hsame : u.authority = v.authority ∧ u.scheme = v.scheme := by rw [hmade]; exact ⟨rfl, rfl⟩
  have hkept : ∀ authority ∈ u.authority, authority.Kept :=
    hsame.1 ▸ kept_of_parse hparse (isWeb_of_schemes hscheme)
  obtain ⟨authority, hauthority, -⟩ := hweb.authority
  -- The text is read as a URL of which the base is made, whether the final slash is there or not.
  obtain ⟨w, hw, hwAuthority, hwScheme, hwQuery, hwFragment, rfl, hwBase⟩ : ∃ w : Url, OfWeb w ∧
      w.authority = u.authority ∧ w.scheme = u.scheme ∧ w.query = none ∧ w.fragment = none ∧
        w.toChars = core ∧ w.asBase = u := by
    rw [render, String.toList_ofList] at hcore
    rcases hcore with rfl | ⟨hcore, hroot, hdouble⟩
    · exact ⟨u, hweb, rfl, rfl, hquery, hfragment, rfl, asBase_eq_self hquery hfragment hpath⟩
    · exact exists_unslashed hweb hquery hfragment hpath hcore hroot hdouble
  obtain ⟨query, fragment, hread⟩ := hw.parse_around (hwAuthority ▸ hkept) hwQuery hwFragment hbefore hafter
    htail
  rw [← htext, String.ofList_toList] at hread
  have hreadable : w.readable = u.readable := by rw [readable, host?, hwAuthority]; rfl
  rw [hreadable] at hread
  split at hread
  · next hcan =>
    have hcontains : Http.Address.schemes.contains (String.ofList w.scheme) := by
      rw [hwScheme, hsame.2]
      exact hscheme
    have hhost : w.authority.isSome := by rw [hwAuthority, hauthority]; rfl
    have hbase := base_of_parse hread hcontains hhost
    rw [if_pos hcan, ← hwBase]
    exact hbase
  · next hcannot =>
    rw [if_neg hcannot]
    exact base_of_parse_error hread

/-- The text of a base whose host cannot be read has none. -/
theorem base_of_not_readable {s : Settings} {u : Url} (h : s.base = .ok u) (hnot : ¬ u.readable) :
    { usual with baseUrl := u.render }.base =
      .error (.config s!"invalid base_url '{u.render}': {Url.Error.badDomain.message}") := by
  have hagain := base_of_saidBy h { usual with baseUrl := u.render } u.saidBy_render
  rwa [if_neg hnot] at hagain

/-- A base is normal: it is made of the URL that the text is read as, and every text that says it, its own
among them, has the same base, unless the host has a label that is too long to be read. -/
theorem base_normal {s : Settings} {u : Url} (h : s.base = .ok u) :
    u.Normal ∧ (∃ v, Url.parse (Text.trim s.baseUrl) = .ok v ∧ u = v.withSlash) ∧
      u.SaidBy u.render ∧ ∀ t : Settings, u.SaidBy t.baseUrl →
        t.base = if u.readable then .ok u else
          .error (.config s!"invalid base_url '{t.baseUrl}': {Url.Error.badDomain.message}") := by
  obtain ⟨hweb, hquery, hfragment, front, hpath, -⟩ := base_ok h
  obtain ⟨v, hparse, hscheme, rfl⟩ := parse_of_base h
  obtain ⟨authority, hauthority, hhost, -⟩ := hweb.authority
  refine ⟨⟨scheme_of_schemes hscheme, ⟨authority.host, ?_, hhost.written.ne_nil⟩, ⟨hquery, hfragment⟩, ?_⟩,
    ⟨v, hparse, (ofWeb_of_parse hparse (isWeb_of_schemes hscheme)).asBase_eq⟩, saidBy_render _,
    base_of_saidBy h⟩
  · rw [host?, hauthority, Option.map_some]
  · rw [hpath, Path.toChars_concat_slash]
    exact ⟨_, rfl⟩

/-- Neither the credentials nor the escapes of a base are escaped again. -/
theorem base_of_escapes : ∃ u,
    { usual with baseUrl := "HTTPS://me:p%40\"@[0::1]:8443/x/../a b%2e?q#f" }.base = .ok u ∧
      u.render = "https://me:p%40%22@[::1]:8443/a%20b%2e/" ∧ u.Normal ∧
      { usual with baseUrl := "\t https://me:p%40%22@[::1]:8443/a%20b%2e? /x#/ \u3000" }.base = .ok u := by
  have hbase : { usual with baseUrl := "HTTPS://me:p%40\"@[0::1]:8443/x/../a b%2e?q#f" }.base =
      .ok ⟨"https".toList, some ⟨"me".toList, some "p%40%22".toList, .ipv6 [0, 0, 0, 0, 0, 0, 0, 1],
        some 8443⟩, .segments ["a%20b%2e".toList, []], none, none⟩ := by decide +kernel
  obtain ⟨hnormal, -, -, hsaid⟩ := base_normal hbase
  refine ⟨_, hbase, by decide +kernel, hnormal, ?_⟩
  have htail : "? /x#/".toList.head? = some '?' := by decide +kernel
  have hblank : ("\t ".toList ++ " \u3000".toList).all Text.isBlank := by decide +kernel
  exact hsaid { usual with baseUrl := "\t https://me:p%40%22@[::1]:8443/a%20b%2e? /x#/ \u3000" }
    ⟨"\t ".toList, "https://me:p%40%22@[::1]:8443/a%20b%2e".toList, "? /x#/".toList, " \u3000".toList,
      by decide +kernel, .inr (by decide +kernel), fun c hc => .inl (Option.some_inj.1 (hc.symm.trans htail)),
      List.all_eq_true.1 hblank⟩

end Settings

/-! ## Bases whose text is refused -/

section Ideographs

open Url (hostText ofHost)

variable {cs : List Char} (h : ∀ c ∈ cs, Text.IsIdeograph c.toNat)

include h

/-- A scheme and ideographs hold no blanks. -/
theorem Url.trim_hostText : Text.trim (hostText "http".toList cs) = hostText "http".toList cs := by
  have hfront : "http://".toList.all fun c => Text.isBlank c == false := by decide
  refine Text.trim_eq_self fun c hc => ?_
  have hsplit : (hostText "http".toList cs).toList = "http://".toList ++ cs := by simp [hostText]
  rw [hsplit] at hc
  rcases List.mem_append.1 hc with hc | hc
  · exact beq_iff_eq.1 (List.all_eq_true.1 hfront c hc)
  · obtain ⟨hlow, -⟩ := h c hc
    simp only [Text.isBlank, Bool.or_eq_false_iff, Bool.and_eq_false_iff, decide_eq_false_iff_not,
      beq_eq_false_iff_ne]
    omega

/-- A name of ideographs is a base, the text of which has none if the ASCII form of the name is too long. -/
theorem Settings.base_of_ideographs (hne : cs ≠ []) (hlength : cs.length ≤ Url.Domain.maxSaid)
    (hlong : Url.Domain.maxCode < (Url.Domain.Punycode.encode cs).length) :
    ∃ u, { usual with baseUrl := hostText "http".toList cs }.base = .ok u ∧
      { usual with baseUrl := u.render }.base =
        .error (.config s!"invalid base_url '{u.render}': {Url.Error.badDomain.message}") := by
  have hweb : Url.isWeb "http".toList := rfl
  have hparse := Url.parse_of_ideographs hweb hne hlength h
  rw [← Url.trim_hostText h] at hparse
  have hscheme : Http.Address.schemes.contains (String.ofList "http".toList) := by decide
  have hmade (host : Url.Host) : (ofHost "http".toList host).asBase = ofHost "http".toList host := rfl
  have hbase : { usual with baseUrl := hostText "http".toList cs }.base =
      .ok (ofHost "http".toList (.name (Url.Domain.asciiOf cs))) := by
    rw [← hmade]
    exact base_of_parse hparse hscheme rfl
  have hnot : ¬ (ofHost "http".toList (.name (Url.Domain.asciiOf cs))).readable := fun hreadable =>
    Nat.not_le.2 hlong ((Url.Host.readable_of_ideographs h).1 hreadable)
  exact ⟨_, hbase, base_of_not_readable hbase hnot⟩

end Ideographs

/-- The text of a base does not always have a base. -/
theorem Settings.exists_base_refused : ∃ u,
    { usual with baseUrl := Url.hostText "http".toList Http.Address.ideographs }.base = .ok u ∧
      { usual with baseUrl := u.render }.base =
        .error (.config s!"invalid base_url '{u.render}': {Url.Error.badDomain.message}") := by
  refine base_of_ideographs Http.Address.isIdeograph_of_mem (List.ne_nil_of_length_pos ?_) ?_ ?_
  · rw [Http.Address.length_ideographs]
    decide
  · rw [Http.Address.length_ideographs]
    decide
  · rw [Http.Address.length_encode_ideographs]
    decide

end TripClient
