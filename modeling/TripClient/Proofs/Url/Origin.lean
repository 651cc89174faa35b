import TripClient.Proofs.Url.Query
import TripClient.Proofs.Url.Reread
import TripClient.Proofs.Url.Segments

/-!
# Endpoints stay where the base is

Whatever the segments and the named values are, the text of an endpoint is the origin of the base, a path,
and the named values behind a question mark (`AtOrigin`). None of the signs that end an origin or a path
stands in one of the parts before its end (`Url.not_mark_of_mem_place`), so that who cuts the text at the
question mark finds the values again, and who reads it as a URL finds the scheme, the host and the port of
the base (`Api.endpoint_at_origin`).
-/

namespace TripClient

namespace Url

/-- The origin of a URL, as it stands in texts: scheme, host, and the port unless it is the usual one. -/
def origin (u : Url) : List Char :=
  u.scheme ++ ':' :: '/' :: '/' :: match u.authority with
    | some a => a.bare.toChars
    | none => []

variable {u : Url} {authority : Authority} (hauthority : u.authority = some authority)
  (hnone : authority.hasCredentials = false)

include hauthority hnone

/-- Without credentials the authority stands behind the scheme. -/
theorem origin_eq : u.origin = u.scheme ++ ':' :: '/' :: '/' :: authority.toChars := by
  rw [origin, hauthority]
  exact congrArg (fun a => u.scheme ++ ':' :: '/' :: '/' :: Authority.toChars a) (Authority.bare_eq_self hnone)

/-- Neither the origin of a URL of the web nor its path holds a mark that ends a path. -/
theorem not_mark_of_mem_place (hweb : u.OfWeb) {c : Char} (hc : c ∈ u.origin ++ u.path.toChars) :
    c ≠ '?' ∧ c ≠ '#' := by
  obtain ⟨hscheme, ⟨authority', hauthority', hhost, -⟩, ⟨ss, hpath, -, hss⟩, -, -⟩ := hweb
  obtain rfl := Option.some_inj.1 (hauthority.symm.trans hauthority')
  have hfront : ∀ s ∈ usualPorts.map Prod.fst, (s ++ [':']).all fun c => c ≠ '?' ∧ c ≠ '#' := by decide
  rw [origin_eq hauthority hnone, hpath] at hc
  have hsplit : u.scheme ++ ':' :: '/' :: '/' :: authority.toChars ++ (Path.segments ss).toChars =
      (u.scheme ++ [':']) ++ '/' :: '/' :: (authority.toChars ++ (Path.segments ss).toChars) := by simp
  rw [hsplit] at hc
  rcases List.mem_append.1 hc with hc | hc
  · exact of_decide_eq_true (List.all_eq_true.1 (hfront _ (mem_of_isWeb hscheme)) c hc)
  · exact (of_mem_front (Authority.kept_of_none hnone) hhost hss hc).2

/-- An origin holds no credentials. -/
theorem at_not_mem_origin (hweb : u.OfWeb) : '@' ∉ u.origin := by
  obtain ⟨hscheme, ⟨authority', hauthority', hhost, -⟩, -, -, -⟩ := hweb
  obtain rfl := Option.some_inj.1 (hauthority.symm.trans hauthority')
  have hfront : ∀ s ∈ usualPorts.map Prod.fst, '@' ∉ s := by decide
  rw [origin_eq hauthority hnone]
  intro hmem
  rcases List.mem_append.1 hmem with hmem | hmem
  · exact hfront _ (mem_of_isWeb hscheme) hmem
  · simp only [List.mem_cons] at hmem
    rcases hmem with heq | heq | heq | hmem
    · exact absurd heq (by decide)
    · exact absurd heq (by decide)
    · exact absurd heq (by decide)
    · exact Authority.not_mem hnone hhost (by decide) (by decide) hmem

/-- A URL is written as its origin, its path and what may follow. -/
theorem toChars_eq_origin : u.toChars =
    u.origin ++ u.path.toChars ++ Text.behind '?' u.query ++ Text.behind '#' u.fragment := by
  rw [origin_eq hauthority hnone]
  cases hquery : u.query <;> cases hfragment : u.fragment <;>
    simp [toChars, Text.behind, hauthority, hquery, hfragment]

end Url

namespace Api

open Url (Path)

/-- Named values as they are read from a query, of which there is none if there are no values. -/
def valuesIn (query : Query) : Option (Option Query) := if query.isEmpty then none else some (some query)

/-- Whether an address is at the origin of a base, and says these named values and no others. -/
structure AtOrigin (base : Url) (query : Query) (a : Http.Address) : Prop where
  scheme : a.scheme = String.ofList base.scheme
  host : base.host?.map (fun host => String.ofList host.toChars) = some a.host
  /-- No user name and no password. -/
  nameless : base.hasCredentials = false ∧ '@' ∉ base.origin
  /-- The path starts and ends with a slash. -/
  path : (∃ rest, a.path.toList = '/' :: rest) ∧ ∃ front, a.path.toList = front ++ ['/']
  /-- The origin of the base, the path, and behind a question mark the named values; without these there is
  no question mark. -/
  text : '?' ∉ base.origin ++ a.path.toList ∧ ∃ values,
    a.text.toList = base.origin ++ a.path.toList ++ Text.behind '?' values ∧
      values.map Url.Query.toPairs? = valuesIn query
  fragment : '#' ∉ a.text.toList
  /-- As a URL the text has the scheme, host and port of the base, the path and the named values. -/
  read : ∀ u, Url.parse a.text = .ok u →
    u.scheme = base.scheme ∧ u.authority = base.authority ∧ u.path.toChars = a.path.toList ∧
      u.query.map Url.Query.toPairs? = valuesIn query ∧ u.fragment = none
  /-- It is one, unless the host of the base has a label that is too long to be read. -/
  isRead : base.readable → ∃ u, Url.parse a.text = .ok u

/-- The named values of an endpoint are read from its query. -/
theorem values_of_endpoint {base : Url} (h : base.query = none) (segments : List String) (query : Query) :
    (base.endpoint segments query).query.map Url.Query.toPairs? = valuesIn query := by
  cases query with
  | nil => exact congrArg (Option.map _) h
  | cons p rest => exact congrArg some (Url.Query.toPairs?_ofPairs (p :: rest))

variable {s : Settings} {api : Api} (hbase : s.base = .ok api.base)

include hbase

/-- The path of an endpoint starts and ends with a slash. -/
theorem slashes_of_endpoint {segments : List String} {query : Query} {a : Http.Address}
    (h : api.endpoint segments query = .ok a) :
    (∃ rest, a.path.toList = '/' :: rest) ∧ ∃ front, a.path.toList = front ++ ['/'] := by
  obtain ⟨hweb, -, -, front, hpath, -⟩ := Url.base_ok hbase
  obtain ⟨-, -, ⟨ss, hss, hne, -⟩, -, -⟩ := hweb.endpoint segments query
  rw [path_of_endpoint hbase h]
  constructor
  · obtain ⟨first, rest, rfl⟩ := List.exists_cons_of_ne_nil hne
    exact ⟨first ++ rest.flatMap ('/' :: ·), by rw [hss]; rfl⟩
  · rw [Path.endpoint_segments hpath, Url.toChars_segments_append]
    exact ⟨_, rfl⟩

/-- An endpoint is at the origin of the base and says its named values, whatever its segments are; and its
path does not depend on the values. -/
theorem endpoint_at_origin {segments : List String} {query : Query} {a : Http.Address}
    (h : api.endpoint segments query = .ok a) :
    AtOrigin api.base query a ∧
      ∀ query' a', api.endpoint segments query' = .ok a' → a'.path = a.path := by
  obtain ⟨hweb, hquery, hfragment, -⟩ := Url.base_ok hbase
  have hpath := path_of_endpoint hbase h
  have hof := mapError_eq_ok.1 h
  obtain ⟨-, -, authority, hauthority, hnone, ha⟩ := Http.Address.ofUrl_eq_ok hof
  have hauthority : api.base.authority = some authority := hauthority
  have hcredentials : api.base.hasCredentials = false := by
    rw [Url.hasCredentials, hauthority]
    exact hnone
  have hendpoint := hweb.endpoint segments query
  have hvalues := values_of_endpoint hquery segments query
  have horigin : (api.base.endpoint segments query).origin = api.base.origin := rfl
  have hplace (c : Char) (hc : c ∈ api.base.origin ++ a.path.toList) : c ≠ '?' ∧ c ≠ '#' := by
    rw [hpath, ← horigin] at hc
    exact Url.not_mark_of_mem_place (u := api.base.endpoint segments query) hauthority hnone hendpoint hc
  have hrender : a.text = (api.base.endpoint segments query).render := by rw [ha]
  have htext : a.text.toList = api.base.origin ++ a.path.toList ++
      Text.behind '?' (api.base.endpoint segments query).query := by
    have hbehind : Text.behind '#' (api.base.endpoint segments query).fragment = [] :=
      congrArg (Text.behind '#') hfragment
    rw [hrender, Url.render, String.toList_ofList,
      Url.toChars_eq_origin (u := api.base.endpoint segments query) hauthority hnone, hbehind,
      List.append_nil, horigin, hpath]
  have hread := hendpoint.parse_render (Url.kept_of_none hcredentials)
  rw [← hrender] at hread
  refine ⟨⟨by rw [ha]; rfl, by rw [ha, Url.host?, hauthority]; rfl,
    ⟨hcredentials, Url.at_not_mem_origin hauthority hnone hweb⟩, slashes_of_endpoint hbase h,
    ⟨fun hmem => (hplace _ hmem).1 rfl, _, htext, hvalues⟩, ?_, fun u hu => ?_, fun hreadable => ?_⟩,
    fun query' a' h' => ?_⟩
  · -- no fragment
    rw [htext]
    intro hmem
    rcases List.mem_append.1 hmem with hmem | hmem
    · exact (hplace _ hmem).2 rfl
    · cases hpart : (api.base.endpoint segments query).query with
      | none =>
        rw [hpart] at hmem
        exact absurd hmem List.not_mem_nil
      | some q =>
        rw [hpart] at hmem
        rcases List.mem_cons.1 hmem with heq | hmem
        · exact absurd heq (by decide)
        · exact (Url.lt_toNat_of_not_inWebQuery (hendpoint.query q hpart _ hmem)).2 rfl
  · -- the text as a URL
    rw [hread] at hu
    split at hu
    · cases hu
      exact ⟨rfl, rfl, hpath.symm, hvalues, hfragment⟩
    · cases hu
  · rw [hread]
    exact ⟨_, if_pos hreadable⟩
  · -- the path
    rw [← String.toList_inj, hpath, path_of_endpoint hbase h']
    rfl

end Api

/-- A client of a server at a port of the same machine. -/
def Api.loopbackPort : Api where
  base := { Api.loopback.base with
    authority := some ⟨[], none, .ipv6 [0, 0, 0, 0, 0, 0, 0, 1], some 8080⟩ }
  requestTimeout := Settings.usual.requestTimeout
  uploadTimeout := Settings.usual.uploadTimeout

/-- Marks in a segment and in a value stay where they are, and the port is that of the base. -/
theorem Api.marks_at_origin : ∃ (s : Settings) (a : Http.Address),
    s.baseUrl = "HTTP://[::1]:8080/api?x#y" ∧ s.base = .ok loopbackPort.base ∧
      loopbackPort.endpoint ["groups", "a/b?c#@"] [("q", "à & b?#=+%"), ("", "//")] = .ok a ∧
      a.text = "http://[::1]:8080/api/groups/a%2Fb%3Fc%23@/?q=%C3%A0+%26+b%3F%23%3D%2B%25&=%2F%2F" ∧
      AtOrigin loopbackPort.base [("q", "à & b?#=+%"), ("", "//")] a := by
  have hbase : { Settings.usual with baseUrl := "HTTP://[::1]:8080/api?x#y" }.base =
      .ok loopbackPort.base := by rfl
  have h : loopbackPort.endpoint ["groups", "a/b?c#@"] [("q", "à & b?#=+%"), ("", "//")] =
      .ok ⟨"http://[::1]:8080/api/groups/a%2Fb%3Fc%23@/?q=%C3%A0+%26+b%3F%23%3D%2B%25&=%2F%2F", "http",
        "[::1]"⟩ := by decide +kernel
  exact ⟨_, _, rfl, hbase, h, rfl, (endpoint_at_origin hbase h).1⟩

end TripClient
