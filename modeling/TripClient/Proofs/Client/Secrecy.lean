import TripClient.Proofs.Client.Changes
import TripClient.Proofs.Http.Headers
import TripClient.Proofs.Json.Quoted
import TripClient.Proofs.Session.Secrecy

/-!
# What a client shows of its tokens

Two clients whose sessions differ only in the tokens they began with do the same (`perform_conceals`):
each operation makes the same requests in both but for the tokens, changes what is remembered in the same
way, and gives the same value or the same failure.

Tokens go two ways into a request. In a header they are looked at by whoever puts the header in, who
refuses what is too long or ends the line; a token that fits is not refused, and what is refused
otherwise does not depend on it (`withBearer_alike`). In a body they are written as JSON, with escapes,
and the body is refused if it is too large, which no token that fits can make it (`withJson_alike`). What
is said of an answer names the method and the path of its request, and nothing else of it
(`valueOf_eq`). Everything else is put together from these (`Works.bind`, `authorizedWith_conceals`).
-/

namespace TripClient.Secrets

open Client

variable {α α' β β' : Type}

/-! ## Clients and requests -/

/-- The clients are the same but for the tokens that their sessions began with. -/
structure Clients (k : Secrets) (c c' : Client) : Prop where
  session : k.Sessions c.session c'.session
  users_eq : c'.users = c.users
  groups_eq : c'.groups = c.groups
  plans_eq : c'.plans = c.plans
  made_eq : c'.made = c.made

/-- Values of the header that says in whose name a request is made. -/
def Bearers (k : Secrets) (v v' : String) : Prop :=
  v = v' ∨ v = "Bearer " ++ k.first.access ∧ v' = "Bearer " ++ k.second.access

/-- Bodies that carry the same, or each the token to get the next two with. -/
def Bodies (k : Secrets) (b b' : Http.Body) : Prop :=
  b = b' ∨ b = .json (Api.refreshBody k.first.refresh).render ∧
    b' = .json (Api.refreshBody k.second.refresh).render

/-- The requests are the same but for the tokens. -/
structure Requests (k : Secrets) (r r' : Http.Request) : Prop where
  method_eq : r'.method = r.method
  address_eq : r'.address = r.address
  headers_eq : r'.headers.without "Authorization" = r.headers.without "Authorization"
  bearer : Option.Rel k.Bearers (r.headers.get? "Authorization") (r'.headers.get? "Authorization")
  body : k.Bodies r.body r'.body
  timeout_eq : r'.timeout = r.timeout
  id_eq : r'.id = r.id

/-- What is not told apart of a client. -/
def onClients (k : Secrets) : Likeness Client Http.Request fun _ => Http.Answer :=
  ⟨k.Clients, k.Requests, fun _ _ answer answer' => answer = answer'⟩

variable {k : Secrets}

theorem Requests.refl (r : Http.Request) : k.Requests r r where
  method_eq := rfl
  address_eq := rfl
  headers_eq := rfl
  bearer := by
    cases r.headers.get? "Authorization" with
    | none => exact .none
    | some v => exact .some (.inl rfl)
  body := .inl rfl
  timeout_eq := rfl
  id_eq := rfl

section
variable {c c' : Client} (h : k.Clients c c')
include h

theorem Clients.withSession {s s' : Session} (hs : k.Sessions s s') :
    k.Clients (c.withSession s) (c'.withSession s') :=
  ⟨hs, h.users_eq, h.groups_eq, h.plans_eq, h.made_eq⟩

theorem Clients.withUsers (users : Cache UserId Profile) :
    k.Clients (c.withUsers users) (c'.withUsers users) :=
  ⟨h.session, rfl, h.groups_eq, h.plans_eq, h.made_eq⟩

theorem Clients.withGroups (groups : Cache GroupId Group) :
    k.Clients (c.withGroups groups) (c'.withGroups groups) :=
  ⟨h.session, h.users_eq, rfl, h.plans_eq, h.made_eq⟩

theorem Clients.withPlans (plans : Cache PlanId Plan) :
    k.Clients (c.withPlans plans) (c'.withPlans plans) :=
  ⟨h.session, h.users_eq, h.groups_eq, rfl, h.made_eq⟩

end

/-! ## Work -/

/-- The work cannot be told apart, and gives one failure or results that `R` relates. -/
structure Works (k : Secrets) (R : α → α' → Prop) (w : Work α) (w' : Work α') : Prop where
  run : Task.Twin k.onClients (OutcomesAlike R) w.run w'.run

/-- The work shows nothing of the tokens. -/
abbrev Conceals (k : Secrets) (w : Work α) : Prop := k.Works (· = ·) w w

section
variable {R : α → α' → Prop} {R' : β → β' → Prop}

theorem Works.bind {w : Work α} {w' : Work α'} {f : α → Work β} {f' : α' → Work β'}
    (hw : k.Works R w w') (hf : ∀ a a', R a a' → k.Works R' (f a) (f' a')) :
    k.Works R' (w >>= f) (w' >>= f') := by
  constructor
  rw [run_bind, run_bind]
  refine hw.run.bind fun _ _ ha => ?_
  cases ha with
  | ok ha => exact (hf _ _ ha).run
  | error f => exact .done (.error f)

/-- Work that goes on with the same. -/
theorem Works.next {w w' : Work α} {f : α → Work β} {f' : α → Work β'} (hw : k.Works (· = ·) w w')
    (hf : ∀ a, k.Works R' (f a) (f' a)) : k.Works R' (w >>= f) (w' >>= f') :=
  hw.bind fun a _ ha => ha ▸ hf a

theorem works_ofOutcome {x : Outcome α} {x' : Outcome α'} (h : OutcomesAlike R x x') :
    k.Works R (Work.ofOutcome x) (Work.ofOutcome x') :=
  ⟨.done h⟩

theorem works_ofHttp {x : Except Http.Error α} {x' : Except Http.Error α'} (h : OutcomesAlike R x x') :
    k.Works R (Work.ofHttp x) (Work.ofHttp x') := by
  cases h with
  | ok h => exact works_ofOutcome (.ok h)
  | error e => exact works_ofOutcome (.error _)

theorem conceals_ofOutcome (x : Outcome α) : k.Conceals (Work.ofOutcome x) := works_ofOutcome (.of_eq rfl)

theorem conceals_ofHttp (x : Except Http.Error α) : k.Conceals (Work.ofHttp x) := works_ofHttp (.of_eq rfl)

theorem conceals_pure (a : α) : k.Conceals (pure a : Work α) := conceals_ofOutcome (.ok a)

theorem Works.map {w : Work α} (h : k.Conceals w) (f : α → β) : k.Conceals (f <$> w) := by
  constructor
  rw [run_map]
  exact h.run.bind fun x x' hx => .done (.of_eq (congrArg (Except.map f) hx.eq))

end

/-! ## Requests to the server -/

/-- The value of an answer has nothing of the tokens. -/
theorem valueOf_eq {r r' : Http.Request} (h : k.Requests r r') : valueOf r' = valueOf r := by
  funext answer
  unfold valueOf
  rw [h.method_eq, h.address_eq]

theorem fetch_works {r r' : Http.Request} (h : k.Requests r r') :
    k.Works (· = ·) (fetch r) (fetch r') := by
  refine ⟨.ask h ?_⟩
  rintro answer _ rfl
  exact .done (.of_eq (congrFun (valueOf_eq h).symm answer))

theorem request_conceals (api : Api) (method : Http.Method) (segments : List String) (query : Api.Query) :
    k.Conceals (api.request method segments query) := by
  have hnewId : k.Conceals (liftM newId : Work String) :=
    ⟨.act (fun c c' h => ⟨h.session, h.users_eq, h.groups_eq, h.plans_eq, congrArg (· + 1) h.made_eq⟩)
      fun c c' h => .done (.ok (congrArg requestId h.made_eq.symm))⟩
  exact (conceals_ofOutcome _).next fun _ => hnewId.next fun _ => conceals_ofHttp _

theorem requestWith_conceals (api : Api) (method : Http.Method) (segments : List String) (body : Json) :
    k.Conceals (api.requestWith method segments body) :=
  (request_conceals api method segments []).next fun _ => conceals_ofHttp _

/-! ## Requests that carry tokens -/

/-- A token that fits into a request is not refused. -/
theorem bearer_accepted {token : String} (h : TokenFits token) (name : String) :
    Http.Headers.valueRefusal? name ("Bearer " ++ token) = none := by
  have hsize : ("Bearer " ++ token).utf8ByteSize ≤ Http.Headers.maxValueBytes := by
    have hle := h.size_le
    have hbearer : "Bearer ".utf8ByteSize = 7 := by decide
    rw [String.utf8ByteSize_append, hbearer, Http.Headers.maxValueBytes]
    omega
  have hplain : ("Bearer " ++ token).toList.any Http.Headers.endsValue = false := by
    have hscheme : "Bearer ".toList.any Http.Headers.endsValue = false := by decide
    have htoken : token.toList.any Http.Headers.endsValue = false := by
      rw [List.any_eq_false]
      intro c hc
      simpa [Http.Headers.endsValue, and_assoc] using h.plain c hc
    rw [String.toList_append, List.any_append, hscheme, htoken]
    rfl
  rw [Http.Headers.valueRefusal?, if_neg (Nat.not_lt.2 hsize), hplain, if_neg Bool.false_ne_true]

/-- Whether a header is put in does not depend on its value, unless the value is refused. -/
theorem with?_alike {name v v' : String} {h h' : Http.Headers}
    (hv : Http.Headers.valueRefusal? name v' = Http.Headers.valueRefusal? name v)
    (hothers : h'.without name = h.without name) :
    (∃ e, h.with? name v = .error e ∧ h'.with? name v' = .error e) ∨
      ∃ g g', h.with? name v = .ok g ∧ h'.with? name v' = .ok g' := by
  unfold Http.Headers.with? Http.Headers.insert
  rw [hv, hothers]
  cases (Http.Headers.nameRefusal? name).or (Http.Headers.valueRefusal? name v) with
  | some e => exact .inl ⟨e, rfl, rfl⟩
  | none =>
    by_cases hfull : Http.Headers.maxCount ≤ (h.without name).entries.length
    · simp only [if_pos hfull]
      exact .inl ⟨_, rfl, rfl⟩
    · simp only [if_neg hfull]
      exact .inr ⟨_, _, rfl, rfl⟩

/-- A token is put in either request, or refused in either. -/
theorem withBearer_alike {r r' : Http.Request} (h : k.Requests r r') {t t' : String}
    (ht : k.Access t t') : OutcomesAlike k.Requests (r.withBearer t) (r'.withBearer t') := by
  have hrefusal : Http.Headers.valueRefusal? "Authorization" ("Bearer " ++ t') =
      Http.Headers.valueRefusal? "Authorization" ("Bearer " ++ t) := by
    -- Tokens that differ are those of the sessions, which fit.
    obtain rfl | ⟨rfl, rfl⟩ := ht
    · rfl
    · rw [bearer_accepted k.first_fits.access, bearer_accepted k.second_fits.access]
  have hvalues : k.Bearers ("Bearer " ++ t) ("Bearer " ++ t') := by
    obtain rfl | ⟨rfl, rfl⟩ := ht
    · exact .inl rfl
    · exact .inr ⟨rfl, rfl⟩
  unfold Http.Request.withBearer Http.Request.withHeader
  obtain ⟨e, hnone, hnone'⟩ | ⟨g, g', hput, hput'⟩ := with?_alike hrefusal h.headers_eq
  · rw [hnone, hnone']
    exact .error e
  · rw [hput, hput']
    refine .ok ⟨h.method_eq, h.address_eq, ?_, ?_, h.body, h.timeout_eq, h.id_eq⟩
    · exact (Http.Headers.without_with? hput').trans
        (h.headers_eq.trans (Http.Headers.without_with? hput).symm)
    · rw [Http.Headers.get?_with? hput, Http.Headers.get?_with? hput']
      exact .some hvalues

/-- The body that says which token to exchange or to revoke is not too large. -/
theorem refreshBody_accepted {token : String} (h : TokenFits token) :
    Http.Request.checkSize (Api.refreshBody token).render.utf8ByteSize = .ok () := by
  have hle := h.size_le
  have htext := Json.utf8ByteSize_stringText_le token
  have hrender : (Api.refreshBody token).render =
      "\x7b" ++ (Json.stringText "refresh" ++ ":" ++ Json.stringText token) ++ "\x7d" := by
    simp only [Api.refreshBody, Json.render, Json.renderMembers]
  have hname : ("\x7b" ++ (Json.stringText "refresh" ++ ":")).utf8ByteSize = 11 := by decide +kernel
  refine if_neg (Nat.not_lt.2 ?_)
  rw [hrender, Http.Request.maxBodyBytes]
  simp only [String.utf8ByteSize_append] at hname ⊢
  have hclose : "\x7d".utf8ByteSize = 1 := by decide
  omega

/-- The body that says which token to exchange or to revoke is put in a request, whatever the token. -/
theorem withJson_alike (r : Http.Request) {t t' : String} (ht : k.Renewal t t') :
    OutcomesAlike k.Requests (r.withJson (Api.refreshBody t)) (r.withJson (Api.refreshBody t')) := by
  obtain rfl | ⟨rfl, rfl⟩ := ht
  · cases r.withJson (Api.refreshBody t) with
    | error e => exact .error e
    | ok r' => exact .ok (.refl r')
  · unfold Http.Request.withJson Http.Request.withWritten
    cases r.checkMethod with
    | error e => exact .error e
    | ok _ =>
      simp only [refreshBody_accepted k.first_fits.refresh, refreshBody_accepted k.second_fits.refresh]
      cases r.headers.with? "Content-Type" "application/json" with
      | error e => exact .error e
      | ok headers => exact .ok { Requests.refl { r with headers } with body := .inr ⟨rfl, rfl⟩ }

/-- A request that says which token to exchange or to revoke. -/
theorem refreshRequest_works (api : Api) (segments : List String) {t t' : String} (ht : k.Renewal t t') :
    k.Works k.Requests (api.requestWith .post segments (Api.refreshBody t))
      (api.requestWith .post segments (Api.refreshBody t')) :=
  (request_conceals api .post segments []).next fun r => works_ofHttp (withJson_alike r ht)

/-- The old token stays in either pair if there is no new one. -/
theorem newTokens_alike {t t' : String} (ht : k.Renewal t t') (v : Json) :
    OutcomesAlike k.Pairs (Api.newTokens t v) (Api.newTokens t' v) := by
  unfold Api.newTokens
  split
  · next access refresh _ =>
    refine .ok ⟨.inl rfl, ?_⟩
    cases refresh with
    | none => exact ht
    | some refresh => exact .inl rfl
  · exact .error _

theorem exchange_works (api : Api) {t t' : String} (ht : k.Renewal t t') :
    k.Works k.Pairs (api.exchange t) (api.exchange t') :=
  (refreshRequest_works api _ ht).bind fun _ _ hr =>
    (fetch_works hr).next fun v => works_ofOutcome (newTokens_alike ht v)

/-! ## Requests in the name of the session -/

section
variable {build : Work Http.Request} (hbuild : k.Works k.Requests build build)
include hbuild

theorem attempt_works {t t' : Option String} (ht : Option.Rel k.Access t t') :
    k.Works (· = ·) (Api.attempt build t) (Api.attempt build t') := by
  cases ht with
  | none => exact hbuild.bind fun _ _ hr => fetch_works hr
  | some ht =>
    exact hbuild.bind fun _ _ hr => (works_ofHttp (withBearer_alike hr ht)).bind fun _ _ => fetch_works

/-- What a session asks for is answered alike. -/
theorem answer_twin (api : Api) (q q' : Session.Question Json) (hq : k.Questions q q') :
    Task.Twin k.onClients (k.Answers q q') (api.answer build q) (api.answer build q') := by
  cases hq with
  | attempt ht => exact (attempt_works hbuild ht).run
  | exchange ht => exact (exchange_works api ht).run

/-- What cannot be told apart on the session cannot be told apart on the client. -/
theorem within_twin (api : Api) {R : α → α' → Prop} {t : Session.Work Json α} {t' : Session.Work Json α'}
    (ht : Task.Twin (k.onSessions Json) R t t') :
    Task.Twin k.onClients R (t.within Client.session Client.withSession (api.answer build))
      (t'.within Client.session Client.withSession (api.answer build)) := by
  refine ht.zoom ?_ ?_ (answer_twin hbuild api)
  · exact fun _ _ h => Clients.session h
  · exact fun _ _ _ _ hs h => Clients.withSession h hs

/-- A request in the name of the session shows nothing of its tokens. -/
theorem authorizedWith_conceals (api : Api) : k.Conceals (api.authorizedWith build) :=
  ⟨within_twin hbuild api authorized_twin⟩

end

theorem authorized_conceals (api : Api) (r : Http.Request) : k.Conceals (api.authorized r) :=
  authorizedWith_conceals (works_ofOutcome (.ok (.refl r))) api

/-! ## Operations -/

section
variable (api : Api)

theorem page_conceals (d : Json.Decoder α) (segments : List String) (query : Api.Query) (name : String) :
    k.Conceals (api.page d segments query name) :=
  (request_conceals api .get segments query).next fun r =>
    (authorized_conceals api r).next fun _ => conceals_ofOutcome _

theorem list_conceals (d : Json.Decoder α) (segments : List String) (query : Api.Query) (name : String) :
    k.Conceals (api.list d segments query name) :=
  (page_conceals api d segments query name).next fun _ => conceals_pure _

theorem item_conceals (d : Json.Decoder α) (segments : List String) (name : String) :
    k.Conceals (api.item d segments name) :=
  (request_conceals api .get segments []).next fun r =>
    (authorized_conceals api r).next fun _ => conceals_ofOutcome _

theorem send_conceals (d : Json.Decoder α) (method : Http.Method) (segments : List String) (body : Json)
    (name : String) : k.Conceals (api.send d method segments body name) :=
  (requestWith_conceals api method segments body).next fun r =>
    (authorized_conceals api r).next fun _ => conceals_ofOutcome _

theorem order_conceals (method : Http.Method) (segments : List String) (body : Option Json) :
    k.Conceals (api.order method segments body) := by
  cases body with
  | some v =>
    exact (requestWith_conceals api method segments v).next fun r =>
      (authorized_conceals api r).next fun _ => conceals_pure _
  | none =>
    exact (request_conceals api method segments []).next fun r =>
      (authorized_conceals api r).next fun _ => conceals_pure _

theorem upload_conceals (d : Json.Decoder α) (method : Http.Method) (segments : List String)
    (form : Http.Form) (name : String) : k.Conceals (api.upload d method segments form name) :=
  (request_conceals api method segments []).next fun _ => (conceals_ofHttp _).next fun _ =>
    (conceals_ofHttp _).next fun r => (authorized_conceals api r).next fun _ => conceals_ofOutcome _

end

/-- The state may be changed afterwards, if nothing of the tokens is looked at. -/
theorem andThen_conceals {w : Work α} (hw : k.Conceals w) {change : Client → Client}
    (hchange : ∀ c c', k.Clients c c' → k.Clients (change c) (change c')) :
    k.Conceals (w.andThen change) :=
  ⟨hw.run.bind fun _ _ hx => .act hchange fun _ _ _ => .done hx⟩

theorem forgetGroup_alike (id : GroupId) (c c' : Client) (h : k.Clients c c') :
    k.Clients (forgetGroup id c) (forgetGroup id c') := by
  unfold forgetGroup
  rw [h.groups_eq]
  exact h.withGroups _

theorem forgetPlan_alike (id : PlanId) (c c' : Client) (h : k.Clients c c') :
    k.Clients (forgetPlan id c) (forgetPlan id c') := by
  unfold forgetPlan
  rw [h.plans_eq]
  exact h.withPlans _

theorem forgetUser_alike (id : UserId) (c c' : Client) (h : k.Clients c c') :
    k.Clients (forgetUser id c) (forgetUser id c') := by
  unfold forgetUser
  rw [h.users_eq]
  exact h.withUsers _

/-- What is remembered may be looked up before, and kept afterwards. -/
theorem getOrFetch_conceals {κ ν : Type} [BEq κ] {get : Client → Cache κ ν}
    {set : Cache κ ν → Client → Client} (hget : ∀ c c', k.Clients c c' → get c' = get c)
    (hset : ∀ cache c c', k.Clients c c' → k.Clients (set cache c) (set cache c')) (key : κ)
    (force : Bool) {fetch : Work ν} (hfetch : k.Conceals fetch) :
    k.Conceals (.ofStep (Cache.getOrFetch get set key force fetch.run)) := by
  constructor
  have hkeep : Task.Twin k.onClients (OutcomesAlike (· = ·)) (fetch.run.bind (Cache.keep get set key))
      (fetch.run.bind (Cache.keep get set key)) := by
    refine hfetch.run.bind fun _ _ hx => ?_
    cases hx with
    | error f => exact .done (.error f)
    | ok hv =>
      subst hv
      refine .act (fun c c' h => ?_) fun _ _ _ => .done (.ok rfl)
      rw [hget c c' h]
      exact hset _ c c' h
  cases force with
  | true =>
    have heq := Cache.getOrFetch_true get set key fetch.run
    exact heq ▸ hkeep
  | false =>
    have heq := Cache.getOrFetch_false get set key fetch.run
    refine heq ▸ .act (fun c c' h => ?_) fun c c' h => ?_
    · rw [hget c c' h]
      exact hset _ c c' h
    · rw [hget c c' h]
      cases ((get c).get key).2 with
      | some v => exact .done (.ok rfl)
      | none => exact hkeep

theorem user_conceals (api : Api) (id : UserId) (force : Bool) : k.Conceals (api.user id force) :=
  getOrFetch_conceals (fun _ _ h => h.users_eq) (fun users _ _ h => h.withUsers users) id force
    (item_conceals api _ _ _)

theorem group_conceals (api : Api) (id : GroupId) (force : Bool) : k.Conceals (api.group id force) :=
  getOrFetch_conceals (fun _ _ h => h.groups_eq) (fun groups _ _ h => h.withGroups groups) id force
    (item_conceals api _ _ _)

theorem plan_conceals (api : Api) (id : PlanId) (force : Bool) : k.Conceals (api.plan id force) :=
  getOrFetch_conceals (fun _ _ h => h.plans_eq) (fun plans _ _ h => h.withPlans plans) id force
    (item_conceals api _ _ _)

theorem onSession_alike {f : Session → Session} (hf : ∀ s s', k.Sessions s s' → k.Sessions (f s) (f s'))
    (c c' : Client) (h : k.Clients c c') : k.Clients (onSession f c) (onSession f c') :=
  h.withSession (hf _ _ h.session)

/-- Who is signed in is the same in both sessions, so the same profile is dropped. -/
theorem changedProfile_conceals {w : Work Profile} (hw : k.Conceals w) :
    k.Conceals (Api.changedProfile w) := by
  have hstore (outcome : Outcome Profile) : Task.Twin k.onClients (OutcomesAlike (· = ·))
      (Api.storeProfile outcome) (Api.storeProfile outcome) := by
    cases outcome with
    | ok profile =>
      exact .act (onSession_alike fun _ _ hs => hs.setUser profile) fun _ _ _ => .done (.ok rfl)
    | error f => exact .done (.error f)
  constructor
  rw [Api.changedProfile_eq]
  refine hw.run.bind fun outcome _ hx => ?_
  obtain rfl := hx.eq
  refine .act (fun _ _ h => h) fun c c' h => ?_
  rw [h.session.user_eq]
  cases c.session.user with
  | none => exact hstore outcome
  | some me => exact .act (forgetUser_alike me.id) fun _ _ _ => hstore outcome

theorem currentUser_conceals (api : Api) : k.Conceals api.currentUser :=
  (item_conceals api Profile.decoder ["auth", "me"] "user").next fun user =>
    ⟨.act (onSession_alike fun _ _ hs => hs.setUser user) fun _ _ _ => .done (.ok rfl)⟩

theorem searchUsers_conceals (api : Api) (text : String) : k.Conceals (api.searchUsers text) := by
  unfold Api.searchUsers
  split
  · exact conceals_pure []
  · exact list_conceals api _ _ _ _

theorem searchLocations_conceals (api : Api) (text : String) :
    k.Conceals (api.searchLocations text) := by
  unfold Api.searchLocations
  split
  · exact conceals_pure []
  · exact list_conceals api _ _ _ _

/-! ## Signing in and out -/

/-- Who signs in brings new tokens, which are the same for both. -/
theorem signIn_conceals (api : Api) (way : Api.SignIn) : k.Conceals (way.perform api) := by
  have hidentify (v : Json) (tokens : TokenPair) : k.Conceals (api.identify v tokens) := by
    unfold Api.identify
    split
    · exact conceals_ofOutcome _
    · exact (request_conceals api _ _ _).next fun _ => (conceals_ofHttp _).next fun r =>
        (fetch_works (.refl r)).next fun _ => conceals_ofOutcome _
  rw [Api.perform_eq]
  refine Works.next ?_ fun (tokens, user) =>
    ⟨.act (onSession_alike fun _ _ hs => hs.signIn tokens user) fun _ _ _ => .done (.ok rfl)⟩
  exact (conceals_ofOutcome _).next fun _ => (requestWith_conceals api _ _ _).next fun r =>
    (fetch_works (.refl r)).next fun v => (conceals_ofOutcome _).next fun tokens =>
      (hidentify v tokens).next fun _ => conceals_pure _

/-- The request that revokes the tokens of the session says the token of either. -/
theorem revocation_works (api : Api) : k.Works k.Requests api.revocation api.revocation :=
  Works.bind ⟨.act (fun _ _ h => h) fun _ _ h =>
    .done (.of_rel h.session.refreshToken Session.notSignedIn)⟩ fun _ _ ht => refreshRequest_works api _ ht

theorem endSession_twin (api : Api) :
    Task.Twin k.onClients (· = ·) api.endSession api.endSession := by
  have hsignOut : Task.Twin k.onClients (· = ·)
      (.act (onSession Session.signOut) fun _ => .done () : Step Unit)
      (.act (onSession Session.signOut) fun _ => .done ()) :=
    .act (onSession_alike fun _ _ hs => hs.finish .signedOut) fun _ _ _ => .done rfl
  rw [Api.endSession_eq]
  refine .act (fun _ _ h => h) fun c c' h => ?_
  rw [h.session.isSignedIn_eq]
  split
  · exact (authorizedWith_conceals (revocation_works api) api).run.bind fun _ _ _ => hsignOut
  · exact hsignOut

theorem clearCaches_twin : Task.Twin k.onClients (· = ·) Api.clearCaches Api.clearCaches := by
  refine .act (fun c c' h => ?_) fun _ _ _ => .act (fun c c' h => ?_) fun _ _ _ =>
    .act (fun c c' h => ?_) fun _ _ _ => .done rfl
  · rw [h.users_eq]
    exact h.withUsers _
  · rw [h.groups_eq]
    exact h.withGroups _
  · rw [h.plans_eq]
    exact h.withPlans _

theorem ofStep_conceals {t : Step Unit} (ht : Task.Twin k.onClients (· = ·) t t) :
    k.Conceals (Operation.ofStep t) :=
  ⟨ht.bind fun _ _ _ => .done (.ok rfl)⟩

/-- No operation shows anything of the tokens. -/
theorem perform_conceals (api : Api) (op : Operation) : k.Conceals (op.perform api) := by
  cases op with
  | login username password => exact (signIn_conceals api (.login username password)).map _
  | register registration => exact (signIn_conceals api (.register registration)).map _
  | endSession => exact ofStep_conceals (endSession_twin api)
  | logout => exact ofStep_conceals ((endSession_twin api).bind fun _ _ _ => clearCaches_twin)
  | clearCaches => exact ofStep_conceals clearCaches_twin
  | currentUser => exact (currentUser_conceals api).map _
  | user id force => exact (user_conceals api id force).map _
  | group id force => exact (group_conceals api id force).map _
  | plan id force => exact (plan_conceals api id force).map _
  | updateProfile change => exact (changedProfile_conceals (send_conceals api _ _ _ _ _)).map _
  | uploadAvatar image => exact (changedProfile_conceals (upload_conceals api _ _ _ _ _)).map _
  | updateGroup id draft =>
    exact (andThen_conceals (send_conceals api _ _ _ _ _) (forgetGroup_alike id)).map _
  | uploadCover id image =>
    exact (andThen_conceals (upload_conceals api _ _ _ _ _) (forgetGroup_alike id)).map _
  | deleteGroup id | joinGroup id | leaveGroup id =>
    exact (andThen_conceals (order_conceals api _ _ _) (forgetGroup_alike id)).map _
  | updatePlan id draft | addActivity id draft =>
    exact (andThen_conceals (send_conceals api _ _ _ _ _) (forgetPlan_alike id)).map _
  | updateActivity plan id draft =>
    exact (andThen_conceals (send_conceals api _ _ _ _ _) (forgetPlan_alike plan)).map _
  | deletePlan plan | deleteActivity plan _ =>
    exact (andThen_conceals (order_conceals api _ _ _) (forgetPlan_alike plan)).map _
  | groups | members _ | plans _ | activities _ | friends | friendRequests | conversations =>
    exact (list_conceals api _ _ _ _).map _
  | createGroup _ | createPlan _ _ | befriend _ | directConversation _ =>
    exact (send_conceals api _ _ _ _ _).map _
  | acceptFriend _ | rejectFriend _ | removeFriend _ | markRead _ =>
    exact (order_conceals api _ _ _).map _
  | location id => exact (item_conceals api _ _ _).map _
  | messages id page => exact (page_conceals api _ _ _ _).map _
  | sendAttachment id file caption => exact (upload_conceals api _ _ _ _ _).map _
  | sendMessage id text =>
    exact ((conceals_ofOutcome _).next fun _ => send_conceals api _ _ _ _ _).map _
  | createConversation title participants =>
    exact ((conceals_ofOutcome _).next fun _ => send_conceals api _ _ _ _ _).map _
  | nearby center radius =>
    exact ((conceals_ofOutcome _).next fun _ => list_conceals api _ _ _ _).map _
  | searchUsers text => exact (searchUsers_conceals api text).map _
  | searchLocations text => exact (searchLocations_conceals api text).map _

end TripClient.Secrets
