import TripClient.Http.Transport
import TripClient.Proofs.Client.Exchange
import TripClient.Proofs.Url.Segments

/-!
# What checked settings are good for

Settings are checked before there is a client, its requests only when they are made, and what sends
them when it is put together. What a check of settings that succeeds promises is that there is an `Api`
whose waiting times are accepted by every request (`Settings.usable`). It does not promise that there
is a request: a base URL with a user name is refused in each of them, also in those that exchange a
token, and so is one that is too long; nor that there is something to send them, as the name of the
program may hold what no header may hold.
-/

namespace TripClient

/-! ## Addresses of endpoints -/

/-- The base of settings has a scheme that requests may use, and a host. -/
theorem Settings.base_web {s : Settings} {base : Url} (h : s.base = .ok base) :
    Http.Address.schemes.contains (String.ofList base.scheme) ∧
      ∃ authority, base.authority = some authority := by
  unfold Settings.base at h
  split at h
  · cases h
  · next u _ =>
    split at h
    · cases h
    · next hscheme =>
      split at h
      · cases h
      · next hhost =>
        cases h
        rw [Bool.not_eq_true, Bool.not_eq_false'] at hscheme
        have hauthority : u.authority ≠ none := by simpa using hhost
        exact ⟨hscheme, Option.ne_none_iff_exists'.1 hauthority⟩

namespace Api

open Client

/-- The URL of an endpoint, as text. -/
def joinedText (api : Api) (segments : List String) (query : Query) : String :=
  (api.base.endpoint segments query).render

/-- Whether requests for an endpoint are let through: its URL is not too long, and holds no
credentials. -/
structure LetThrough (api : Api) (segments : List String) (query : Query) : Prop where
  fits : (api.joinedText segments query).utf8ByteSize ≤ Http.Address.maxBytes
  bare : api.base.hasCredentials = false

/-- The endpoint at which tokens are exchanged. -/
def exchangeSegments : List String := ["auth", "token", "refresh"]

section
variable {s : Settings} {api : Api} (hbase : s.base = .ok api.base)
include hbase

/-- What the address of an endpoint is. -/
theorem endpoint_eq_ite (segments : List String) (query : Query) :
    ∃ authority : Url.Authority, api.endpoint segments query =
      if Http.Address.maxBytes < (api.joinedText segments query).utf8ByteSize then
        .error (.ofHttp (Http.Address.tooLong (api.joinedText segments query)))
      else if api.base.hasCredentials then
        .error (.ofHttp (Http.Address.refusal (api.joinedText segments query)
          "credentials in URL are not allowed"))
      else .ok ⟨api.joinedText segments query, String.ofList api.base.scheme,
        String.ofList authority.host.toChars⟩ := by
  obtain ⟨hscheme, authority, hauthority⟩ := Settings.base_web hbase
  refine ⟨authority, ?_⟩
  -- An endpoint has the scheme and the authority of its base.
  have heq := Http.Address.ofUrl_eq (u := api.base.endpoint segments query) hscheme hauthority
  have hcredentials : (api.base.endpoint segments query).hasCredentials = api.base.hasCredentials := rfl
  rw [hcredentials] at heq
  rw [endpoint, heq, apply_ite (Except.mapError Failure.ofHttp),
    apply_ite (Except.mapError Failure.ofHttp)]
  rfl

/-- An endpoint that is let through has the address that its URL is. -/
theorem endpoint_of_letThrough {segments : List String} {query : Query}
    (h : LetThrough api segments query) :
    ∃ a, api.endpoint segments query = .ok a ∧ a.text = api.joinedText segments query := by
  obtain ⟨authority, heq⟩ := endpoint_eq_ite hbase segments query
  rw [if_neg (Nat.not_lt.2 h.fits), if_neg (by rw [h.bare]; decide)] at heq
  exact ⟨_, heq, rfl⟩

/-- An endpoint that is not let through has no address. -/
theorem endpoint_of_not_letThrough {segments : List String} {query : Query}
    (h : ¬ LetThrough api segments query) :
    ∃ f, api.endpoint segments query = .error f := by
  obtain ⟨authority, heq⟩ := endpoint_eq_ite hbase segments query
  split at heq
  · exact ⟨_, heq⟩
  · next hfits =>
    split at heq
    · exact ⟨_, heq⟩
    · next hbare => exact (h ⟨Nat.not_lt.1 hfits, Bool.eq_false_iff.2 hbare⟩).elim

end

/-! ## Requests and exchanges -/

/-- There is a request for an endpoint, in whatever state a client is; it waits as long as settings
say, and as an upload it may wait as long as they say for those. -/
def Makes (s : Settings) (api : Api) (method : Http.Method) (segments : List String) (query : Query) :
    Prop :=
  ∀ {E : Type} (o : Outside E) (c : Client) (e : E), ∃ r,
    (api.request method segments query).run.alone o.respond c e =
        ⟨[], { c with made := c.made + 1 }, e, .ok r⟩ ∧
      r.method = method ∧ r.address.text = api.joinedText segments query ∧ r.timeout = s.requestTimeout ∧
      r.withTimeout s.uploadTimeout = .ok { r with timeout := s.uploadTimeout }

/-- A token is exchanged by asking the server, in whatever state a client is. -/
def Exchanges (s : Settings) (api : Api) (token : String) : Prop :=
  ∀ {E : Type} (o : Outside E) (c : Client) (e : E), ∃ r,
    r.address.text = api.joinedText exchangeSegments [] ∧ r.timeout = s.requestTimeout ∧
      (api.exchange token).run.alone o.respond c e =
        ⟨[⟨r, (o.respond r e).2⟩], (o.respond r e).2.meanwhile { c with made := c.made + 1 }, (o r e).1,
          valueOf r (o r e).2.answer >>= newTokens token⟩

/-- Work that fails at once, in whatever state a client is. -/
def Fails {α : Type} (w : Work α) : Prop := ∃ f, w.run = .done (.error f)

theorem Fails.bind {α β : Type} {w : Work α} (h : Fails w) (k : α → Work β) : Fails (w >>= k) := by
  obtain ⟨f, hw⟩ := h
  exact ⟨f, by rw [run_bind, hw]; rfl⟩

/-- Without an address there is no request. -/
theorem request_fails {api : Api} {segments : List String} {query : Query} {f : Failure}
    (h : api.endpoint segments query = .error f) (method : Http.Method) :
    Fails (api.request method segments query) :=
  ⟨f, by rw [request, ofOutcome_bind, h]; rfl⟩

/-- Without an address for it a token is not exchanged. -/
theorem exchange_fails {api : Api} {f : Failure} (h : api.endpoint exchangeSegments [] = .error f)
    (token : String) : Fails (api.exchange token) :=
  ((request_fails h .post).bind _).bind _

end Api

/-! ## Checked settings -/

namespace Settings

open Http.Request (maxTimeout maxBodyBytes)

/-- What a check of settings that succeeds has found. -/
structure Checked (s : Settings) : Prop where
  base : ∃ base, s.base = .ok base
  request : 0 < s.requestTimeout ∧ s.requestTimeout ≤ maxTimeout
  upload : s.requestTimeout ≤ s.uploadTimeout ∧ s.uploadTimeout ≤ maxTimeout
  capacity : 0 < s.cacheCapacity
  response : 0 < s.maxResponseBytes ∧ s.maxResponseBytes ≤ responseLimit
  agent : ¬ Text.isBlankText s.userAgent

theorem check_eq_ok {s : Settings} : s.check = .ok () ↔ Checked s := by
  unfold check
  rw [bind_eq_ok]
  constructor
  · rintro ⟨base, hbase, h⟩
    obtain ⟨hrequest, h⟩ := throw_else_eq_ok.1 h
    obtain ⟨hupload, h⟩ := throw_else_eq_ok.1 h
    obtain ⟨hcapacity, h⟩ := throw_else_eq_ok.1 h
    obtain ⟨hresponse, h⟩ := throw_else_eq_ok.1 h
    obtain ⟨hagent, -⟩ := throw_else_eq_ok.1 h
    exact ⟨⟨base, hbase⟩, by omega, by omega, by omega, by omega, hagent⟩
  · rintro ⟨⟨base, hbase⟩, hrequest, hupload, hcapacity, hresponse, hagent⟩
    refine ⟨base, hbase, throw_else_eq_ok.2 ⟨by omega, throw_else_eq_ok.2 ⟨by omega, ?_⟩⟩⟩
    exact throw_else_eq_ok.2 ⟨by omega, throw_else_eq_ok.2 ⟨by omega, throw_else_eq_ok.2 ⟨hagent, rfl⟩⟩⟩

/-- What settings are good for whose check succeeds. -/
structure Usable (s : Settings) (api : Api) : Prop where
  /-- Requests can be sent exactly if the name of the program may stand in a header. -/
  sends : (∃ t, Http.Transport.ofSettings s = .ok t) ↔ Http.Transport.isSendable s.userAgent
  /-- There is a request for every endpoint that is let through. -/
  makes : ∀ method segments query, api.LetThrough segments query → api.Makes s method segments query
  /-- There is none for the others. -/
  makesNone : ∀ method segments query, ¬ api.LetThrough segments query →
    Api.Fails (api.request method segments query)
  /-- Tokens are exchanged if the endpoint for that is let through. -/
  exchanges : api.LetThrough Api.exchangeSegments [] → ∀ token,
    (Api.refreshBody token).render.utf8ByteSize ≤ maxBodyBytes → api.Exchanges s token
  /-- They are not exchanged otherwise. -/
  exchangesNone : ¬ api.LetThrough Api.exchangeSegments [] → ∀ token, Api.Fails (api.exchange token)

/-- For settings whose check succeeds there is an `Api`, and whether requests are made and sent depends
on nothing but the name of the program, the credentials in the base URL and the length of an
endpoint. -/
theorem usable {s : Settings} (h : s.check = .ok ()) :
    ∃ api, Api.ofSettings s = .ok api ∧ Usable s api := by
  have hchecked := check_eq_ok.1 h
  obtain ⟨base, hbase⟩ := hchecked.base
  refine ⟨⟨base, s.requestTimeout, s.uploadTimeout⟩, by rw [Api.ofSettings, h, hbase]; rfl, ?_⟩
  have ⟨hpos, hmax⟩ := hchecked.request
  have hupload : 0 < s.uploadTimeout := Nat.lt_of_lt_of_le hpos hchecked.upload.1
  constructor
  case sends =>
    rw [Http.Transport.ofSettings]
    split
    · next hsendable => exact ⟨fun _ => hsendable, fun _ => ⟨_, rfl⟩⟩
    · next hsendable => exact ⟨nofun, fun h => absurd h hsendable⟩
  case makes =>
    intro method segments query hthrough E o c e
    obtain ⟨a, ha, htext⟩ := Api.endpoint_of_letThrough hbase hthrough
    exact ⟨_, Api.request_alone o.respond c e ha hpos hmax method, rfl, htext, rfl,
      Http.Request.withTimeout_eq_ok.2 ⟨⟨hupload, hchecked.upload.2⟩, rfl⟩⟩
  case makesNone =>
    intro method segments query hnone
    obtain ⟨f, hf⟩ := Api.endpoint_of_not_letThrough hbase hnone
    exact Api.request_fails hf method
  case exchanges =>
    intro hthrough token hsize E o c e
    obtain ⟨a, ha, htext⟩ := Api.endpoint_of_letThrough hbase hthrough
    have htakes : Api.Takes ⟨base, s.requestTimeout, s.uploadTimeout⟩ Api.exchangeSegments
        (Api.refreshBody token) := ⟨⟨a, ha⟩, ⟨hpos, hmax⟩, hsize⟩
    obtain ⟨r, hr, hexchange⟩ := htakes.exchange o c e
    obtain rfl : r.address = a := Except.ok.inj (hr.address_eq.symm.trans ha)
    exact ⟨r, htext, hr.timeout_eq, hexchange⟩
  case exchangesNone =>
    intro hnone token
    obtain ⟨f, hf⟩ := Api.endpoint_of_not_letThrough hbase hnone
    exact Api.exchange_fails hf token

/-- A client of the server on the same machine gets its groups, and exchanges its token. -/
theorem loopback_usable :
    loopback.check = .ok () ∧ ∃ api, Api.ofSettings loopback = .ok api ∧
      (∃ t, Http.Transport.ofSettings loopback = .ok t) ∧ api.Makes loopback .get ["groups"] [] ∧
      api.Exchanges loopback "r" := by
  have hcheck : loopback.check = .ok () := by rfl
  obtain ⟨api, hapi, husable⟩ := usable hcheck
  obtain rfl : Api.loopback = api := Except.ok.inj (Eq.trans (by rfl) hapi)
  refine ⟨hcheck, _, hapi, husable.sends.2 (by decide +kernel), ?_, ?_⟩
  · exact husable.makes .get ["groups"] [] ⟨by decide +kernel, by decide⟩
  · exact husable.exchanges ⟨by decide +kernel, by decide⟩ "r" (by decide +kernel)

end Settings

/-- Settings for a server on the same machine, at which one is known by name. -/
def Settings.named : Settings := { Settings.usual with baseUrl := "http://lan:pw@[::1]/api/" }

/-- Settings for a program whose name takes two lines. -/
def Settings.twoLines : Settings := { Settings.loopback with userAgent := "trip\nclient" }

/-- A client of a server at which one is known by name. -/
def Api.named : Api where
  base := ⟨"http".toList, some ⟨"lan".toList, some "pw".toList, .ipv6 [0, 0, 0, 0, 0, 0, 0, 1], none⟩,
    .segments ["api".toList, []], none, none⟩
  requestTimeout := Settings.usual.requestTimeout
  uploadTimeout := Settings.usual.uploadTimeout

namespace Settings

/-- Settings with credentials in the base URL pass their check, and then every request fails, also each
exchange of a token; settings with an end of line in the name of the program pass it as well, and then
nothing can send requests. -/
theorem checked_unusable :
    (named.check = .ok () ∧ ∃ api, Api.ofSettings named = .ok api ∧
      (api.joinedText ["groups"] []).utf8ByteSize ≤ Http.Address.maxBytes ∧
      (∀ method segments query, Api.Fails (api.request method segments query)) ∧
      ∀ token, Api.Fails (api.exchange token)) ∧
    twoLines.check = .ok () ∧ ∀ t, Http.Transport.ofSettings twoLines ≠ .ok t := by
  have hcheck : named.check = .ok () := by rfl
  have hbase : named.base = .ok Api.named.base := by rfl
  have hapi : Api.ofSettings named = .ok Api.named := by
    rw [Api.ofSettings, hcheck, hbase]
    rfl
  have hnone {segments : List String} {query : Api.Query} :
      ∃ f, Api.named.endpoint segments query = .error f :=
    Api.endpoint_of_not_letThrough hbase fun h => Bool.noConfusion (h.bare : true = false)
  refine ⟨⟨hcheck, _, hapi, by decide +kernel, fun method segments query => ?_, fun token => ?_⟩,
    by rfl, fun t h => ?_⟩
  · obtain ⟨f, hf⟩ := hnone
    exact Api.request_fails hf method
  · obtain ⟨f, hf⟩ := hnone
    exact Api.exchange_fails hf token
  · have hsendable : ¬ Http.Transport.isSendable twoLines.userAgent := by decide +kernel
    rw [Http.Transport.ofSettings, if_neg hsendable] at h
    cases h

end Settings

end TripClient
