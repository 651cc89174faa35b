import TripClient.Client.Exchange
import TripClient.Proofs.Success

/-!
# Where endpoints are

The path of an endpoint is that of the base, followed by its segments as they are written, and a slash
(`endpoint_path`). So endpoints whose segments are written with different numbers of characters in all
are different endpoints (`Api.endpoint_ne`), whatever the base is.
-/

namespace TripClient

namespace Url

namespace Path

/-- How a segment is written whose text is given as it is meant. -/
def written (s : String) : List Char :=
  Percent.encode Percent.inSegment (s.toList.filter fun c => c != '\t' && c != '\n' && c != '\r')

/-- Whether a segment is written as a segment that holds something, and leads on. -/
def leadsOn (s : String) : Bool :=
  written s != [] && dots? (written s) != some 1 && dots? (written s) != some 2

/-- The segments behind which another one goes: those of the path, but none of the path `/`. -/
def root (ss : List (List Char)) : List (List Char) := if ss == [[]] then [] else ss

/-- A segment that is not made of dots goes behind the others. -/
theorem append_eq {s : String} (h₁ : dots? (written s) ≠ some 1) (h₂ : dots? (written s) ≠ some 2)
    (ss : List (List Char)) : append ss s = root ss ++ [written s] := by
  have hdot : (s == "." || s == "..") = false := by
    rw [Bool.or_eq_false_iff, beq_eq_false_iff_ne, beq_eq_false_iff_ne]
    constructor <;> rintro rfl
    · exact h₁ (by decide +kernel)
    · exact h₂ (by decide +kernel)
  have hfollow (done : List (List Char)) : follow done [written s] = done ++ [written s] := by
    unfold follow
    split
    · next h => exact absurd h h₁
    · next h => exact absurd h h₂
    · rfl
  rw [append, hdot]
  exact hfollow (root ss)

/-- Only the path `/` gives up a segment when one goes behind it. -/
theorem root_append (ss : List (List Char)) {last : List Char} (h : ss = [] → last ≠ []) :
    root (ss ++ [last]) = ss ++ [last] := by
  refine if_neg fun heq => ?_
  have hsingle : ss ++ [last] = [] ++ [[]] := eq_of_beq heq
  obtain ⟨hnil, hlast⟩ := List.append_singleton_inj.1 hsingle
  exact h hnil hlast

/-- A segment that leads on goes behind the others. -/
theorem append_of_leadsOn {s : String} (h : leadsOn s) (ss : List (List Char)) :
    written s ≠ [] ∧ append ss s = root ss ++ [written s] := by
  simp only [leadsOn, Bool.and_eq_true, bne_iff_ne, ne_eq] at h
  exact ⟨h.1.1, append_eq h.1.2 h.2 ss⟩

/-- Segments that lead on go one behind the other. -/
theorem foldl_append {segments : List String} (hne : segments ≠ [])
    (h : ∀ s ∈ segments, leadsOn s) (ss : List (List Char)) :
    segments.foldl append ss = root ss ++ segments.map written := by
  induction segments generalizing ss with
  | nil => exact absurd rfl hne
  | cons s rest ih =>
    obtain ⟨hs, hrest⟩ := List.forall_mem_cons.1 h
    obtain ⟨hholds, happend⟩ := append_of_leadsOn hs ss
    rw [List.foldl_cons, happend]
    by_cases hnil : rest = []
    · rw [hnil, List.foldl_nil, List.map_cons, List.map_nil]
    · rw [ih hnil hrest, root_append _ fun _ => hholds, List.append_assoc, List.map_cons,
        List.singleton_append]

end Path

/-- The path of an endpoint. -/
theorem endpoint_path (base : Url) {segments : List String} (hne : segments ≠ [])
    (h : ∀ s ∈ segments, Path.leadsOn s) (query : List (String × String)) :
    (base.endpoint segments query).path =
      .segments (Path.root (Path.withoutEnd base.path.toSegments) ++ segments.map Path.written ++ [[]]) := by
  obtain ⟨front, last, rfl⟩ := (List.eq_nil_or_concat segments).resolve_left hne
  obtain ⟨hholds, -⟩ := Path.append_of_leadsOn (h last (by simp)) []
  have hend : Path.written "" = [] := rfl
  have hdots (n : Nat) (hn : n ≠ 0) : Path.dots? (Path.written "") ≠ some n := by
    rw [hend, Path.dots?, ne_eq, Option.some_inj]
    exact hn.symm
  rw [endpoint, Path.foldl_append hne h, Path.append_eq (hdots 1 (by decide)) (hdots 2 (by decide)), hend]
  rw [List.map_concat, List.concat_eq_append, ← List.append_assoc, Path.root_append _ fun _ => hholds]

/-- Without named values an endpoint is the base with another path. -/
theorem endpoint_eq (base : Url) {segments : List String} (hne : segments ≠ [])
    (h : ∀ s ∈ segments, Path.leadsOn s) :
    base.endpoint segments [] =
      { base with path := .segments (Path.root (Path.withoutEnd base.path.toSegments) ++
        segments.map Path.written ++ [[]]) } := by
  have hpath := endpoint_path base hne h []
  have hbase : base.endpoint segments [] = { base with path := (base.endpoint segments []).path } := rfl
  rw [hbase, hpath]

/-- Segments are written one after the other. -/
theorem toChars_segments_append (ss ss' : List (List Char)) :
    (Path.segments (ss ++ ss')).toChars = (Path.segments ss).toChars ++ (Path.segments ss').toChars :=
  List.flatMap_append

/-- The path of a URL with a host has all its characters in the text of the URL. -/
theorem length_toChars {u : Url} (h : u.authority.isSome) (p p' : Path) :
    { u with path := p }.toChars.length + p'.toChars.length =
      { u with path := p' }.toChars.length + p.toChars.length := by
  obtain ⟨authority, h⟩ := Option.isSome_iff_exists.1 h
  simp only [toChars, h, List.length_append, List.length_cons]
  omega

end Url

/-- A URL with a scheme that requests may use and with a host is an address, unless it is too long or
holds credentials. -/
theorem Http.Address.ofUrl_eq {u : Url} {authority : Url.Authority}
    (hscheme : schemes.contains (String.ofList u.scheme)) (hauthority : u.authority = some authority) :
    ofUrl u =
      if maxBytes < u.render.utf8ByteSize then .error (tooLong u.render)
      else if u.hasCredentials then
        .error (refusal u.render "credentials in URL are not allowed")
      else .ok ⟨u.render, String.ofList u.scheme, String.ofList authority.host.toChars⟩ := by
  have hhost : u.host? = some authority.host := by rw [Url.host?, hauthority, Option.map_some]
  simp only [ofUrl, hscheme, hhost, Bool.not_true, Bool.false_eq_true, if_false]
  split
  · rfl
  · exact ite_congr rfl (fun _ => rfl) fun _ => rfl

/-- What is taken from a URL for an address: its text, its scheme and its host, if it is short, has such a
scheme and a host, and holds no credentials. -/
theorem Http.Address.ofUrl_eq_ok {u : Url} {a : Http.Address} (h : ofUrl u = .ok a) :
    u.render.utf8ByteSize ≤ maxBytes ∧ schemes.contains (String.ofList u.scheme) ∧
      ∃ authority, u.authority = some authority ∧ authority.hasCredentials = false ∧
        a = ⟨u.render, String.ofList u.scheme, String.ofList authority.host.toChars⟩ := by
  unfold ofUrl at h
  obtain ⟨hshort, h⟩ := throw_else_eq_ok.1 h
  obtain ⟨hscheme, h⟩ := throw_else_eq_ok.1 h
  dsimp only at h
  split at h
  · cases h
  · next host hhost =>
    obtain ⟨hnone, h⟩ := throw_else_eq_ok.1 h
    cases h
    obtain ⟨authority, hauthority, rfl⟩ := Option.map_eq_some_iff.1 hhost
    rw [Url.hasCredentials, hauthority] at hnone
    exact ⟨Nat.not_lt.1 hshort, by simpa using hscheme, authority, hauthority, by simpa using hnone, rfl⟩

/-- Endpoints whose segments are written with different numbers of characters are different, whatever
the base is. -/
theorem Api.endpoint_ne (api : Api) {segments segments' : List String} {a a' : Http.Address}
    (hne : segments ≠ []) (hne' : segments' ≠ []) (hon : ∀ s ∈ segments, Url.Path.leadsOn s)
    (hon' : ∀ s ∈ segments', Url.Path.leadsOn s)
    (hlength : (Url.Path.segments (segments.map Url.Path.written)).toChars.length ≠
      (Url.Path.segments (segments'.map Url.Path.written)).toChars.length)
    (h : api.endpoint segments [] = .ok a) (h' : api.endpoint segments' [] = .ok a') : a ≠ a' := by
  rintro rfl
  have hof {segments : List String} (h : api.endpoint segments [] = .ok a) :
      Http.Address.ofUrl (api.base.endpoint segments []) = .ok a := by
    unfold Api.endpoint at h
    cases hu : Http.Address.ofUrl (api.base.endpoint segments []) with
    | error e => rw [hu] at h; cases h
    | ok b => rw [hu] at h; cases h; rfl
  obtain ⟨-, -, authority, hauthority, -, htaken⟩ := Http.Address.ofUrl_eq_ok (hof h)
  obtain ⟨-, -, _, -, -, htaken'⟩ := Http.Address.ofUrl_eq_ok (hof h')
  have htext := congrArg Http.Address.text htaken
  have htext' := congrArg Http.Address.text htaken'
  have hhost : (api.base.endpoint segments []).authority.isSome := Option.isSome_of_eq_some hauthority
  have hchars : (api.base.endpoint segments []).toChars = (api.base.endpoint segments' []).toChars :=
    String.ofList_inj.1 (htext.symm.trans htext')
  have hlen := congrArg List.length hchars
  rw [Url.endpoint_eq _ hne hon] at hlen hhost
  rw [Url.endpoint_eq _ hne' hon'] at hlen
  have hpaths := Url.length_toChars (u := api.base) hhost
    (.segments (Url.Path.root (Url.Path.withoutEnd api.base.path.toSegments) ++
      segments.map Url.Path.written ++ [[]]))
    (.segments (Url.Path.root (Url.Path.withoutEnd api.base.path.toSegments) ++
      segments'.map Url.Path.written ++ [[]]))
  simp only [Url.toChars_segments_append, List.length_append] at hpaths
  omega

end TripClient
