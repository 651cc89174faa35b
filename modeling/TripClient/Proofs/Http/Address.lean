import TripClient.Proofs.Text.Excerpt
import TripClient.Proofs.Url.Ideographs

/-!
# Addresses are canonical

An address is taken from a URL and then is no more than a text, a scheme and a host. `IsOf` says that
nothing is lost: the text is short and has no place for credentials; scheme, host and path are those of
the URL, although the path is only searched for in the text; and the text is read as the same URL and
taken for the same address again, unless the host has a label that is too long to be read. This holds of
every address that is taken from a URL that was read or made (`isOf_ofUrl`), so of every one that is
read from a text. Names of ideographs show that a label can be too long although its text was short
(`exists_of_ideographs`).
-/

namespace TripClient

/-- Whether a URL is one that is read from texts or made of such: with a scheme of the web it is a URL
of the web. -/
def Url.Regular (u : Url) : Prop := Url.isWeb u.scheme → Url.OfWeb u

namespace Http.Address

open Url (Path)

/-- What an address is that was taken from a URL. -/
structure IsOf (a : Address) (u : Url) : Prop where
  scheme : a.scheme = String.ofList u.scheme ∧ (a.scheme = "http" ∨ a.scheme = "https")
  host : (∃ host, u.host? = some host ∧ a.host = String.ofList host.toChars) ∧ a.host ≠ ""
  short : a.text.utf8ByteSize ≤ maxBytes
  /-- The text is the scheme, the host, at most a port, and the path; then a query or a fragment may
  follow. -/
  layout : ∃ port tail, a.text = a.scheme ++ "://" ++ a.host ++ port ++ a.path ++ tail ∧
    (port = "" ∨ ∃ n, port = ":" ++ Decimal.digitText n) ∧ ∀ c ∈ tail.toList.head?, c = '?' ∨ c = '#'
  nameless : u.hasCredentials = false ∧ '@' ∉ a.host.toList
  path : a.path = String.ofList u.path.toChars
  marks : (∃ rest, a.path.toList = '/' :: rest) ∧ '?' ∉ a.path.toList ∧ '#' ∉ a.path.toList
  /-- The text is read as the same URL, and taken for the same address. -/
  again : u.readable → Url.parse a.text = .ok u ∧ parse a.text = .ok a
  /-- A text with a label that is too long is refused. -/
  refused : ¬ u.readable → parse a.text = .error (refusal a.text Url.Error.badDomain.message)

/-- What is read from a text was taken from a URL. -/
theorem ofUrl_of_parse {s : String} {a : Address} (h : parse s = .ok a) :
    ∃ u, Url.parse s = .ok u ∧ ofUrl u = .ok a := by
  unfold parse at h
  obtain ⟨-, h⟩ := throw_else_eq_ok.1 h
  obtain ⟨-, h⟩ := throw_else_eq_ok.1 h
  obtain ⟨-, h⟩ := throw_else_eq_ok.1 h
  dsimp only at h
  split at h
  · next u hu => exact ⟨u, hu, h⟩
  · cases h

/-- A text that is short and not blank is taken for what is taken from the URL that it is read as. -/
theorem parse_eq {s : String} (hshort : s.utf8ByteSize ≤ maxBytes)
    (hblank : ∃ c ∈ s.toList, Text.isBlank c = false) :
    parse s = match Url.parse s with
      | .ok u => ofUrl u
      | .error e => .error (refusal s e.message) := by
  obtain ⟨c, hc, hcblank⟩ := hblank
  have hempty : s.isEmpty = false := by
    refine Bool.eq_false_iff.2 fun hempty => ?_
    rw [String.isEmpty_iff.1 hempty] at hc
    cases hc
  have hnotBlank : Text.isBlankText s = false :=
    List.all_eq_false.2 ⟨c, hc, by rw [hcblank]; exact Bool.false_ne_true⟩
  unfold parse
  rw [hempty, if_neg Bool.false_ne_true, if_neg (Nat.not_lt.2 hshort), hnotBlank,
    if_neg Bool.false_ne_true]
  cases Url.parse s <;> rfl

/-- What is taken from a URL of the web. -/
theorem isOf_ofUrl {u : Url} (hu : u.Regular) {a : Address} (h : ofUrl u = .ok a) : a.IsOf u := by
  obtain ⟨hshort, hscheme, authority, hauthority, hcredentials, rfl⟩ := ofUrl_eq_ok h
  have hweb := hu (Url.isWeb_of_schemes hscheme)
  have hnone : u.hasCredentials = false := by
    rw [Url.hasCredentials, hauthority]
    exact hcredentials
  have hreads := hweb.parse_render (Url.kept_of_none hnone)
  have hpathChars := path_of_ofUrl h hweb
  have hpathText := String.toList_inj.1 (hpathChars.trans String.toList_ofList.symm)
  obtain ⟨-, ⟨authority', hauthority', hhost, -⟩, ⟨ss, hpath, hne, hss⟩, -, -⟩ := hweb
  obtain rfl := Option.some_inj.1 (hauthority.symm.trans hauthority')
  obtain ⟨tail, htail, hchars⟩ := Url.exists_tail hauthority
  have hblank : ∃ c ∈ u.render.toList, Text.isBlank c = false := by
    refine ⟨':', ?_, by decide⟩
    rw [Url.render, String.toList_ofList, hchars]
    exact List.mem_append_right _ List.mem_cons_self
  refine ⟨⟨rfl, ?_⟩, ⟨⟨_, congrArg (Option.map _) hauthority, rfl⟩, ?_⟩, hshort, ?_, ⟨hnone, ?_⟩,
    hpathText, ?_, fun hreadable => ?_, fun hlong => ?_⟩
  · -- the scheme
    simpa [schemes] using hscheme
  · -- the host
    rw [ne_eq, ← String.toList_inj, String.toList_ofList]
    exact hhost.written.ne_nil
  · -- the layout
    refine ⟨String.ofList (Text.behind ':' (authority.port.map (Nat.toDigits 10))), String.ofList tail,
      ?_, ?_, by rwa [String.toList_ofList]⟩
    · have hport := Url.Authority.toChars_eq hcredentials
      rw [hpathText, ← String.toList_inj]
      simp only [Url.render, hchars, hport, String.toList_append, String.toList_ofList]
      cases authority.port <;> simp [Text.behind]
    · cases authority.port with
      | none => exact .inl rfl
      | some n => exact .inr ⟨n, by rw [← String.toList_inj]; simp [Text.behind, Decimal.digitText]⟩
  · -- no credentials
    rw [String.toList_ofList]
    exact hhost.written.not_mem (by decide) (by decide)
  · -- the path
    rw [hpathChars, hpath]
    obtain ⟨first, rest, rfl⟩ := List.exists_cons_of_ne_nil hne
    refine ⟨⟨_, rfl⟩, fun hmem => ?_, fun hmem => ?_⟩
    · exact (Path.not_mark_of_mem hss hmem).1 rfl
    · exact (Path.not_mark_of_mem hss hmem).2 rfl
  · -- the host can be read
    rw [if_pos hreadable] at hreads
    refine ⟨hreads, ?_⟩
    rw [parse_eq hshort hblank, hreads]
    exact h
  · -- it cannot
    rw [if_neg hlong] at hreads
    rw [parse_eq hshort hblank, hreads]

/-! ## Names in ideographs -/

section Ideographs

open Text (IsIdeograph)
open Url (hostText ofHost)
open Url.Domain (asciiOf)
open Url.Domain.Punycode (encode)

variable {cs : List Char}

/-- An ideograph takes three bytes. -/
theorem utf8ByteSize_hostText (h : ∀ c ∈ cs, IsIdeograph c.toNat) :
    (hostText "http".toList cs).utf8ByteSize = 7 + cs.length * 3 := by
  have hthree : ∀ c ∈ cs, c.utf8Size = 3 := by
    intro c hc
    obtain ⟨hlow, hhigh⟩ := h c hc
    have hone : ¬ c.val ≤ 0x7F := fun hle => by
      have : c.toNat ≤ 0x7F := hle
      omega
    have htwo : ¬ c.val ≤ 0x7FF := fun hle => by
      have : c.toNat ≤ 0x7FF := hle
      omega
    have hmost : c.val ≤ 0xFFFF := show c.toNat ≤ 0xFFFF by omega
    exact (if_neg hone).trans ((if_neg htwo).trans (if_pos hmost))
  have hsplit : hostText "http".toList cs = "http://" ++ String.ofList cs := by
    rw [← String.toList_inj]
    simp [hostText]
  have hfront : "http://".utf8ByteSize = 7 := by decide
  rw [hsplit, String.utf8ByteSize_append, hfront, Text.utf8ByteSize_of_forall hthree]

/-- In ASCII form, a name of ideographs takes a byte for each character. -/
theorem utf8ByteSize_render_ofHost (cs : List Char) :
    (ofHost "http".toList (.name (asciiOf cs))).render.utf8ByteSize = 12 + (encode cs).length := by
  have hone : ∀ c ∈ encode cs, c.utf8Size = 1 := by
    intro c hc
    have hascii : c.toNat < 0x80 := by
      simpa [Url.Domain.Punycode.isAscii] using
        List.all_eq_true.1 (Url.Domain.Punycode.encode_ascii cs) c hc
    exact if_pos (show c.toNat ≤ 0x7F by omega)
  have hsplit : (ofHost "http".toList (.name (asciiOf cs))).render =
      "http://xn--" ++ String.ofList (encode cs) ++ "/" := by
    rw [← String.toList_inj]
    simp [Url.render, Url.toChars, ofHost, Url.Authority.toChars, Url.Authority.credentialsText,
      Url.Authority.hasCredentials, Url.Host.toChars, asciiOf, Url.Path.toChars]
  have hfront : "http://xn--".utf8ByteSize = 11 := by decide
  have hend : "/".utf8ByteSize = 1 := by decide
  rw [hsplit, String.utf8ByteSize_append, String.utf8ByteSize_append, hfront, hend,
    Text.utf8ByteSize_of_forall hone]
  omega

/-- A name of ideographs is taken for an address if its text and that of the address are short; but the
text of the address is refused if the ASCII form of the name is too long. -/
theorem exists_of_ideographs (hne : cs ≠ []) (h : ∀ c ∈ cs, IsIdeograph c.toNat)
    (hshort : 7 + cs.length * 3 ≤ maxBytes) (hascii : 12 + (encode cs).length ≤ maxBytes) :
    ∃ a, parse (hostText "http".toList cs) = .ok a ∧
      (Url.Domain.maxCode < (encode cs).length →
        parse a.text = .error (refusal a.text Url.Error.badDomain.message)) := by
  have hlength : cs.length ≤ Url.Domain.maxSaid := by
    unfold maxBytes at hshort
    unfold Url.Domain.maxSaid
    omega
  have hweb : Url.isWeb "http".toList := rfl
  have hparse := Url.parse_of_ideographs hweb hne hlength h
  have hblank : ∃ c ∈ (hostText "http".toList cs).toList, Text.isBlank c = false :=
    ⟨':', by simp [hostText], by decide⟩
  have hscheme : schemes.contains (String.ofList "http".toList) := by decide
  have hof : ofUrl (ofHost "http".toList (.name (asciiOf cs))) =
      .ok ⟨(ofHost "http".toList (.name (asciiOf cs))).render, "http", String.ofList (asciiOf cs)⟩ := by
    rw [ofUrl_eq hscheme rfl, utf8ByteSize_render_ofHost, if_neg (Nat.not_lt.2 hascii)]
    exact if_neg Bool.false_ne_true
  have hisOf := isOf_ofUrl (fun _ => Url.ofWeb_of_parse hparse hweb) hof
  refine ⟨_, ?_, fun hlong => hisOf.refused fun hreadable => ?_⟩
  · rw [parse_eq (utf8ByteSize_hostText h ▸ hshort) hblank, hparse]
    exact hof
  · exact Nat.not_le.2 hlong ((Url.Host.readable_of_ideographs h).1 hreadable)

/-- As many ideographs as fit, at equal distances. -/
def ideographs : List Char := (List.range 680).map fun i => Char.ofNat (0x4E00 + 30 * i)

theorem toNat_ideographs : ideographs.map Char.toNat = (List.range 680).map (0x4E00 + 30 * ·) := by
  decide +kernel

theorem length_ideographs : ideographs.length = 680 := by
  rw [ideographs, List.length_map, List.length_range]

theorem isIdeograph_of_mem : ∀ c ∈ ideographs, IsIdeograph c.toNat := by
  intro c hc
  have hmem : c.toNat ∈ (List.range 680).map (0x4E00 + 30 * ·) := toNat_ideographs ▸ List.mem_map_of_mem hc
  obtain ⟨i, hi, heq⟩ := List.mem_map.1 hmem
  have := List.mem_range.1 hi
  constructor <;> omega

/-- Their ASCII form is longer than any that is read. -/
theorem length_encode_ideographs : (encode ideographs).length = 2013 := by
  have hrising : ideographs.Pairwise (·.toNat < ·.toNat) := by
    refine List.pairwise_map.1 ?_
    rw [toNat_ideographs, List.pairwise_map]
    exact List.pairwise_lt_range.imp fun h => by omega
  rw [Url.Domain.Punycode.encode_of_rising hrising
    fun c hc => Url.Domain.not_isAscii_of_ideograph (isIdeograph_of_mem c hc), toNat_ideographs]
  decide +kernel

end Ideographs

/-! ## Every address -/

/-- Every address is canonical, unless a label of its host is too long to be read. -/
theorem isOf_of_taken :
    (∀ s a, parse s = .ok a → ∃ u, Url.parse s = .ok u ∧ a.IsOf u) ∧
      ∀ u : Url, u.Regular → ∀ a, ofUrl u = .ok a → a.IsOf u := by
  refine ⟨fun s a h => ?_, fun u hu a h => isOf_ofUrl hu h⟩
  obtain ⟨u, hparse, hof⟩ := ofUrl_of_parse h
  exact ⟨u, hparse, isOf_ofUrl (fun hweb => Url.ofWeb_of_parse hparse hweb) hof⟩

/-- An address of eight groups with a port, as it is read and as it is taken from a base. -/
theorem isOf_of_groups :
    (∃ u, Url.parse "HTTP://[1:0::A]:8080/x/../y%20?q#f" = .ok u ∧
      (⟨"http://[1::a]:8080/y%20?q#f", "http", "[1::a]"⟩ : Address).IsOf u) ∧
      (⟨"http://[1::a]:8080/y%20/", "http", "[1::a]"⟩ : Address).IsOf
        ⟨['h', 't', 't', 'p'], some ⟨[], none, .ipv6 [1, 0, 0, 0, 0, 0, 0, 10], some 8080⟩,
          .segments [['y', '%', '2', '0'], []], none, none⟩ := by
  refine ⟨isOf_of_taken.1 _ _ (by decide +kernel), isOf_of_taken.2 _ (fun hweb => ?_) _ (by decide +kernel)⟩
  refine ⟨hweb, ⟨_, rfl, .ipv6 rfl (by decide), ?_⟩, ⟨_, rfl, by decide, fun s hs => ?_⟩, nofun, nofun⟩
  · rintro n ⟨⟩
    decide
  · simp only [List.mem_cons, List.not_mem_nil, or_false] at hs
    rcases hs with rfl | rfl
    · decide
    · exact Path.kept_nil

/-- The text of an address is not always taken for the address again. -/
theorem exists_taken_and_refused : ∃ a, parse (Url.hostText "http".toList ideographs) = .ok a ∧
    parse a.text = .error (refusal a.text Url.Error.badDomain.message) := by
  obtain ⟨a, hparse, hrefused⟩ := exists_of_ideographs
    (List.ne_nil_of_length_pos (by rw [length_ideographs]; decide)) isIdeograph_of_mem
    (by rw [length_ideographs]; decide) (by rw [length_encode_ideographs]; decide)
  exact ⟨a, hparse, hrefused (by rw [length_encode_ideographs]; decide)⟩

end Http.Address

end TripClient
