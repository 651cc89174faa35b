import TripClient.Client.Exchange
import TripClient.Proofs.Http.Building
import TripClient.Proofs.Session.Order
import TripClient.Proofs.Solo

/-!
# Requests on their own

The parts of an operation are followed on their own, whatever is answered and whatever others do to the
session until then (`Client.Outside`). Building a request asks nothing and leaves the session as it is
(`request_made`, `requestWith_made`); there is one with a body where `Takes` says so. A request that is
sent is one question (`fetch_bind_alone`), with a token or without (`attempt_alone`), and so is an
exchange of tokens, if there is a request for it (`exchange_alone`, `Takes.exchange`). While requests are
under way only others change the session (`ByOthers`).

Only a response can say that a token is not accepted (`response_of_unauthorized`), and only a response
that is a success has a value (`response_of_value`).
-/

namespace TripClient

namespace Client

variable {α β E : Type}

/-! ## What is outside -/

/-- Who answers requests, and what others do to the session until then. -/
abbrev Outside (E : Type) : Type := Http.Request → E → E × Session.Meanwhile Http.Answer

/-- What comes from outside, for a task. -/
def Outside.respond (o : Outside E) : Responder Client Http.Request (fun _ => Http.Answer) E :=
  fun r e => ((o r e).1,
    ⟨(o r e).2.delay, onSession (Session.applyAll (o r e).2.changes), (o r e).2.answer⟩)

/-- A request that was sent, and the reply to it. -/
abbrev Sent : Type := Said Client Http.Request fun _ => Http.Answer

/-! ## Who changes the session -/

/-- The session has not been touched. -/
def SameSession (c c' : Client) : Prop := c'.session = c.session

/-- Nobody has changed the session but others. -/
def ByOthers (c c' : Client) : Prop :=
  ∃ changes, c'.session = Session.applyAll changes c.session

theorem SameSession.refl (c : Client) : SameSession c c := rfl

theorem SameSession.made (c : Client) (n : Nat) : SameSession c { c with made := n } := rfl

theorem SameSession.trans (c c' c'' : Client) (h : SameSession c c') (k : SameSession c' c'') :
    SameSession c c'' :=
  Eq.trans k h

theorem SameSession.byOthers {c c' : Client} (h : SameSession c c') : ByOthers c c' := ⟨[], h⟩

theorem ByOthers.refl (c : Client) : ByOthers c c := ⟨[], rfl⟩

theorem ByOthers.trans (c c' c'' : Client) (h : ByOthers c c') (k : ByOthers c' c'') :
    ByOthers c c'' := by
  obtain ⟨changes, h⟩ := h
  obtain ⟨more, k⟩ := k
  exact ⟨changes ++ more, by rw [k, h, Session.applyAll, Session.applyAll, Session.applyAll,
    List.foldl_append]⟩

theorem ByOthers.leads {c c' : Client} (h : ByOthers c c') : Session.Leads c.session c'.session := by
  obtain ⟨changes, h⟩ := h
  exact h ▸ Session.leads_applyAll changes c.session

/-- Within an epoch others do not exchange tokens. -/
theorem ByOthers.generation_eq {c c' : Client} (h : ByOthers c c')
    (he : c'.session.epoch = c.session.epoch) : c'.session.generation = c.session.generation := by
  obtain ⟨changes, h⟩ := h
  rw [h] at he ⊢
  exact Session.generation_applyAll he

theorem Outside.byOthers (o : Outside E) (r : Http.Request) (e : E) (c : Client) :
    ByOthers c ((o.respond r e).2.meanwhile c) :=
  ⟨(o r e).2.changes, rfl⟩

/-! ## Tasks that may fail -/

/-- What is done with an outcome: a failure stands. -/
def andThen (k : α → Work β) : Outcome α → Step (Outcome β)
  | .ok a => (k a).run
  | .error f => .done (.error f)

theorem run_bind (w : Work α) (k : α → Work β) : (w >>= k).run = w.run.bind (andThen k) := by
  refine congrArg (Task.bind w.run) (funext fun outcome => ?_)
  cases outcome <;> rfl

theorem ofOutcome_bind (outcome : Outcome α) (k : α → Work β) :
    (Work.ofOutcome outcome >>= k).run = andThen k outcome :=
  run_bind _ k

theorem run_map (f : α → β) (w : Work α) :
    (f <$> w).run = w.run.bind fun outcome => .done (outcome.map f) := by
  refine congrArg (Task.bind w.run) (funext fun outcome => ?_)
  cases outcome <;> rfl

/-- Work whose first part gives a value goes on with it. -/
theorem bind_alone_of_ok {respond : Responder Client Http.Request (fun _ => Http.Answer) E} {w : Work α}
    {c : Client} {e : E} {a : α} (h : (w.run.alone respond c e).result = .ok a) (k : α → Work β) :
    (w >>= k).run.alone respond c e =
      let first := w.run.alone respond c e
      let rest := (k a).run.alone respond first.state first.responder
      { rest with said := first.said ++ rest.said } := by
  rw [run_bind, Task.alone_bind]
  dsimp only
  rw [h]
  rfl

/-- Work that begins with what asks nothing and gives a value goes on where that left off. -/
theorem bind_alone_of_silent {respond : Responder Client Http.Request (fun _ => Http.Answer) E}
    {w : Work α} {c c' : Client} {e e' : E} {a : α} (h : w.run.alone respond c e = ⟨[], c', e', .ok a⟩)
    (k : α → Work β) : (w >>= k).run.alone respond c e = (k a).run.alone respond c' e' := by
  rw [bind_alone_of_ok (congrArg Solo.result h), h]
  rfl

/-- The outcome is a failure or one of `P`. -/
def Gives (P : α → Prop) (outcome : Outcome α) : Prop := ∀ a, outcome = .ok a → P a

theorem gives_error (P : α → Prop) (f : Failure) : Gives P (.error f) := nofun

/-- The work asks nothing, changes the state as `R` allows, and gives a failure or one of `P`. -/
def Silent (R : Client → Client → Prop) (P : α → Prop) (w : Work α) : Prop := w.run.Local R (Gives P)

section
variable {R : Client → Client → Prop} {P : α → Prop} {P' : β → Prop}

theorem Silent.bind {w : Work α} {k : α → Work β} (hw : Silent R P w)
    (hk : ∀ a, P a → Silent R P' (k a)) : Silent R P' (w >>= k) := by
  rw [Silent, run_bind]
  refine Task.Local.bind hw fun outcome h => ?_
  cases outcome with
  | ok a => exact hk a (h a rfl)
  | error f => exact gives_error P' f

theorem silent_ofOutcome {outcome : Outcome α} (h : Gives P outcome) :
    Silent R P (Work.ofOutcome outcome) := h

theorem silent_ofHttp {r : Except Http.Error α} (h : ∀ a, r = .ok a → P a) :
    Silent R P (Work.ofHttp r) := by
  intro a ha
  cases r with
  | ok b => exact h a (congrArg Except.ok (Except.ok.inj ha))
  | error e => cases ha

theorem silent_pure {a : α} (h : P a) : Silent R P (pure a) := by
  rintro b ⟨⟩
  exact h

end

/-- Work that begins with what asks nothing fails there, or goes on with the same session. -/
theorem Silent.bind_alone {P : α → Prop} {w : Work α} (hw : Silent SameSession P w) (k : α → Work β)
    (o : Outside E) (c : Client) (e : E) : ∃ c', SameSession c c' ∧
      ((∃ f, (w >>= k).run.alone o.respond c e = ⟨[], c', e, .error f⟩) ∨
        ∃ a, P a ∧ (w >>= k).run.alone o.respond c e = (k a).run.alone o.respond c' e) := by
  obtain ⟨c', outcome, halone, hsame, hgives⟩ :=
    Task.Local.alone SameSession.refl SameSession.trans hw o.respond c e
  refine ⟨c', hsame, ?_⟩
  rw [run_bind, Task.alone_bind, halone]
  cases outcome with
  | error f => exact .inl ⟨f, rfl⟩
  | ok a => exact .inr ⟨a, hgives a rfl, rfl⟩

/-! ## Values of answers -/

/-- Nothing but a status says that a token is not accepted. -/
theorem ofHttp_isUnauthorized (e : Http.Error) : (Failure.ofHttp e).isUnauthorized = false := by
  cases e <;> rfl

theorem ofStatus_isUnauthorized {status : Nat} {body : ByteArray} :
    (Failure.ofStatus status body).isUnauthorized ↔ status = 401 := by
  have hkind : (Failure.ofStatus status body).kind = .ofStatus status := by
    unfold Failure.ofStatus
    split <;> rfl
  rw [Failure.isUnauthorized, hkind, Failure.Kind.ofStatus]
  grind

theorem mapError_isUnauthorized {r : Except Http.Error α} {f : Failure}
    (h : r.mapError .ofHttp = .error f) : f.isUnauthorized = false := by
  cases r with
  | ok a => cases h
  | error e =>
    cases h
    exact ofHttp_isUnauthorized e

/-- A response without success is a failure; otherwise its body is read. -/
theorem valueOf_ok (r : Http.Request) (response : Http.Response) :
    valueOf r (.ok response) =
      if response.isSuccess then
        if response.hasBody then (response.read .any).mapError .ofHttp else .ok .null
      else .error (((Failure.ofStatus response.status response.body).withInternal
        (r.method.name ++ " " ++ r.address.path)).withContext "request_id" response.requestId) := by
  cases hs : response.isSuccess <;> cases hb : response.hasBody <;>
    simp [valueOf, Except.mapError, bind, Except.bind, pure, Except.pure, hs, hb] <;> rfl

/-- The response is a success, and its body is a value. -/
structure Brings (response : Http.Response) (v : Json) : Prop where
  success : response.isSuccess
  hasBody : response.hasBody
  read_eq : response.read .any = .ok v

theorem Brings.valueOf {response : Http.Response} {v : Json} (h : Brings response v) (r : Http.Request) :
    valueOf r (.ok response) = .ok v := by
  rw [valueOf_ok, if_pos h.success, if_pos h.hasBody, h.read_eq]
  rfl

/-- Only a response can say that a token is not accepted, and it does so by its status. -/
theorem response_of_unauthorized {r : Http.Request} {answer : Http.Answer} {f : Failure}
    (h : valueOf r answer = .error f) (hf : f.isUnauthorized) :
    ∃ response, answer = .ok response ∧ response.status = 401 := by
  cases answer with
  | error e =>
    cases h
    exact nomatch (ofHttp_isUnauthorized e).symm.trans hf
  | ok response =>
    refine ⟨response, rfl, ?_⟩
    rw [valueOf_ok] at h
    split at h
    · split at h
      · exact nomatch (mapError_isUnauthorized h).symm.trans hf
      · cases h
    · cases h
      exact ofStatus_isUnauthorized.1 hf

/-- Only a response that is a success has a value. -/
theorem response_of_value {r : Http.Request} {answer : Http.Answer} {v : Json}
    (h : valueOf r answer = .ok v) : ∃ response, answer = .ok response ∧ response.isSuccess := by
  cases answer with
  | error e => cases h
  | ok response =>
    refine ⟨response, rfl, ?_⟩
    rw [valueOf_ok] at h
    split at h
    · assumption
    · cases h

end Client

namespace Api

open Client

variable {E : Type}

/-! ## Building requests -/

/-- A new request for an endpoint. -/
structure Made (api : Api) (method : Http.Method) (segments : List String) (query : Query)
    (r : Http.Request) : Prop where
  method_eq : r.method = method
  address_eq : api.endpoint segments query = .ok r.address
  headers_eq : r.headers = .empty
  body_eq : r.body = .empty
  timeout_eq : r.timeout = api.requestTimeout

/-- A new request with a JSON body. -/
structure MadeWith (api : Api) (method : Http.Method) (segments : List String) (body : Json)
    (r : Http.Request) : Prop where
  method_eq : r.method = method
  address_eq : api.endpoint segments [] = .ok r.address
  headers_eq : r.headers = ⟨[("Content-Type", "application/json")]⟩
  body_eq : r.body = .json body.render
  timeout_eq : r.timeout = api.requestTimeout

theorem headers_of_json :
    Http.Headers.empty.with? "Content-Type" "application/json" =
      .ok ⟨[("Content-Type", "application/json")]⟩ := by
  decide +kernel

section
variable {R : Client → Client → Prop} (hR : ∀ c n, R c { c with made := n })
include hR

theorem silent_newId : Silent R (fun _ => True) (liftM newId : Work String) :=
  ⟨fun c => hR c _, fun _ _ _ => trivial⟩

/-- Making a request asks nothing, and changes nothing but the number of requests. -/
theorem request_made (api : Api) (method : Http.Method) (segments : List String) (query : Query) :
    Silent R (Api.Made api method segments query) (api.request method segments query) := by
  refine Silent.bind (silent_ofOutcome (P := fun address => api.endpoint segments query = .ok address)
    fun _ => id) fun address haddress => ?_
  refine Silent.bind (silent_newId hR) fun id _ => ?_
  refine silent_ofHttp fun r hr => ?_
  obtain ⟨-, rfl⟩ := Http.Request.withTimeout_eq_ok.1 hr
  exact ⟨rfl, haddress, rfl, rfl, rfl⟩

/-- Making a request with a JSON body asks nothing, and changes nothing but the number of requests. -/
theorem requestWith_made (api : Api) (method : Http.Method) (segments : List String) (body : Json) :
    Silent R (Api.MadeWith api method segments body)
      (api.requestWith method segments body) := by
  refine Silent.bind (request_made hR api method segments []) fun r hr => ?_
  refine silent_ofHttp fun r' hr' => ?_
  obtain ⟨-, v, hv, -, headers, hput, rfl⟩ := Http.Request.withWritten_eq_ok.1 hr'
  cases hv
  rw [hr.headers_eq, headers_of_json] at hput
  exact ⟨hr.method_eq, hr.address_eq, (Except.ok.inj hput).symm, rfl, hr.timeout_eq⟩

end

section
variable (respond : Responder Client Http.Request (fun _ => Http.Answer) E) (c : Client) (e : E)

/-- The request for an address, if the waiting time is accepted. -/
theorem request_alone {api : Api} {segments : List String} {query : Query} {a : Http.Address}
    (h : api.endpoint segments query = .ok a) (hpos : 0 < api.requestTimeout)
    (hmax : api.requestTimeout ≤ Http.Request.maxTimeout) (method : Http.Method) :
    (api.request method segments query).run.alone respond c e =
      ⟨[], { c with made := c.made + 1 }, e,
        .ok ⟨method, a, .empty, .empty, api.requestTimeout, requestId c.made⟩⟩ := by
  have hrun : (api.request method segments query).run =
      .act (fun c => { c with made := c.made + 1 }) fun c =>
        (Work.ofHttp
          ((Http.Request.plain method a (requestId c.made)).withTimeout api.requestTimeout)).run := by
    rw [request, ofOutcome_bind, h]
    rfl
  rw [hrun, Task.alone, Http.Request.withTimeout_eq_ok.2 ⟨⟨hpos, hmax⟩, rfl⟩]
  rfl

/-- What there has to be for a request with a body: the endpoint has an address, the waiting time is
within bounds, and the body is not too large. -/
structure Takes (api : Api) (segments : List String) (body : Json) : Prop where
  address : ∃ a, api.endpoint segments [] = .ok a
  patient : 0 < api.requestTimeout ∧ api.requestTimeout ≤ Http.Request.maxTimeout
  fits : body.render.utf8ByteSize ≤ Http.Request.maxBodyBytes

/-- Then there is one. -/
theorem Takes.requestWith {api : Api} {segments : List String} {body : Json}
    (h : Takes api segments body) (method : Http.Method) (hallows : method.allowsBody) :
    ∃ r, MadeWith api method segments body r ∧
      (api.requestWith method segments body).run.alone respond c e =
        ⟨[], { c with made := c.made + 1 }, e, .ok r⟩ := by
  obtain ⟨a, ha⟩ := h.address
  let r : Http.Request := ⟨method, a, ⟨[("Content-Type", "application/json")]⟩, .json body.render,
    api.requestTimeout, requestId c.made⟩
  have hjson : (Http.Request.mk method a .empty .empty api.requestTimeout (requestId c.made)).withJson
      body = .ok r :=
    Http.Request.withWritten_eq_ok.2 ⟨hallows, body, rfl, h.fits, _, headers_of_json, rfl⟩
  refine ⟨r, ⟨rfl, ha, rfl, rfl, rfl⟩, ?_⟩
  have hplain := request_alone respond c e ha h.patient.1 h.patient.2 method
  rw [Api.requestWith, bind_alone_of_silent hplain, hjson]
  rfl

end

/-! ## Sending requests -/

theorem fetch_bind_run {α : Type} (r : Http.Request) (k : Json → Work α) :
    (fetch r >>= k).run = .ask r fun answer => andThen k (valueOf r answer) := by
  rw [run_bind]
  rfl

/-- Work that begins with a request goes on with what it is answered. -/
theorem fetch_bind_alone {α : Type} (o : Outside E) (r : Http.Request) (k : Json → Work α) (c : Client)
    (e : E) :
    (fetch r >>= k).run.alone o.respond c e =
      let rest := (andThen k (valueOf r (o r e).2.answer)).alone o.respond
        ((o.respond r e).2.meanwhile c) (o r e).1
      { rest with said := ⟨r, (o.respond r e).2⟩ :: rest.said } := by
  rw [fetch_bind_run]
  rfl

/-- The request in the name of the owner of a token, if there is one. -/
def bearing (token : Option String) (r : Http.Request) : Outcome Http.Request :=
  match token with
  | some t => (r.withBearer t).mapError .ofHttp
  | none => .ok r

/-- A token that may stand in a header is put in, if there is room for it. -/
theorem exists_bearing {token : String} {r : Http.Request}
    (htoken : Http.Headers.IsValue ("Bearer " ++ token))
    (hroom : (r.headers.without "Authorization").size < 100) : ∃ r', bearing (some token) r = .ok r' := by
  obtain ⟨r', hput⟩ := Http.Request.exists_withBearer_iff.2 ⟨htoken, hroom⟩
  exact ⟨r', by rw [bearing, hput]; rfl⟩

theorem attempt_eq (build : Work Http.Request) (token : Option String) :
    attempt build token = build >>= fun r => Work.ofOutcome (bearing token r) >>= fetch := by
  cases token with
  | some t => rfl
  | none => exact congrArg (build >>= ·) (funext fun r => rfl)

/-- A request that is there already is sent, unless the token cannot be written down. -/
theorem attempt_alone (o : Outside E) (r : Http.Request) (token : Option String) (c : Client) (e : E) :
    (attempt (pure r) token).run.alone o.respond c e =
      match bearing token r with
      | .ok r' => (fetch r').run.alone o.respond c e
      | .error f => ⟨[], c, e, .error f⟩ := by
  have hrun : (attempt (pure r) token).run = andThen fetch (bearing token r) := by
    rw [attempt_eq, pure_bind, ofOutcome_bind]
  rw [hrun]
  cases bearing token r <;> rfl

/-- Nothing is changed to send a request but to build it. -/
theorem attempt_within {R : Client → Client → Prop} {build : Work Http.Request}
    (hbuild : build.run.Within R) (token : Option String) : (attempt build token).run.Within R := by
  rw [attempt_eq, run_bind]
  refine hbuild.bind fun outcome => ?_
  cases outcome with
  | error f => trivial
  | ok r =>
    rw [andThen, ofOutcome_bind]
    cases bearing token r with
    | error f => trivial
    | ok r' => exact fun _ => trivial

theorem attempt_orderly {build : Work Http.Request} {held : Bool} (hbuild : build.run.Orderly held held)
    (token : Option String) : (attempt build token).run.Orderly held held := by
  rw [attempt_eq, run_bind]
  refine hbuild.bind fun outcome => ?_
  cases outcome with
  | error f => rfl
  | ok r =>
    rw [andThen, ofOutcome_bind]
    cases bearing token r with
    | error f => rfl
    | ok r' => exact fun _ => rfl

/-! ## Exchanging tokens -/

/-- What comes of the exchange of a token: there is no request for it, or it is sent. -/
theorem exchange_alone (api : Api) (o : Outside E) (token : String) (c : Client) (e : E) :
    ∃ c', SameSession c c' ∧
      ((∃ f, (api.exchange token).run.alone o.respond c e = ⟨[], c', e, .error f⟩) ∨
        ∃ r, Api.MadeWith api .post ["auth", "token", "refresh"] (refreshBody token) r ∧
          (api.exchange token).run.alone o.respond c e =
            ⟨[⟨r, (o.respond r e).2⟩], (o.respond r e).2.meanwhile c', (o r e).1,
              valueOf r (o r e).2.answer >>= newTokens token⟩) := by
  obtain ⟨c', hsame, ⟨f, hnone⟩ | ⟨r, hmade, halone⟩⟩ :=
    (requestWith_made SameSession.made api .post ["auth", "token", "refresh"] (refreshBody token)).bind_alone
      (fun r => fetch r >>= fun v => .ofOutcome (newTokens token v)) o c e
  · exact ⟨c', hsame, .inl ⟨f, hnone⟩⟩
  · refine ⟨c', hsame, .inr ⟨r, hmade, halone.trans ?_⟩⟩
    rw [fetch_bind_alone]
    cases valueOf r (o r e).2.answer <;> rfl

/-- A token is exchanged by asking for it, if there is a request for that. -/
theorem Takes.exchange {api : Api} {token : String}
    (h : Takes api ["auth", "token", "refresh"] (refreshBody token)) (o : Outside E) (c : Client) (e : E) :
    ∃ r, MadeWith api .post ["auth", "token", "refresh"] (refreshBody token) r ∧
      (api.exchange token).run.alone o.respond c e =
        ⟨[⟨r, (o.respond r e).2⟩], (o.respond r e).2.meanwhile { c with made := c.made + 1 }, (o r e).1,
          valueOf r (o r e).2.answer >>= newTokens token⟩ := by
  obtain ⟨r, hr, hmade⟩ := h.requestWith o.respond c e .post rfl
  refine ⟨r, hr, ?_⟩
  rw [Api.exchange, bind_alone_of_silent hmade, fetch_bind_alone]
  cases valueOf r (o r e).2.answer <;> rfl

/-- Nothing but the number of requests is changed to exchange a token; the session is changed with what
comes of it. -/
theorem exchange_within {R : Client → Client → Prop} (hR : ∀ c n, R c { c with made := n }) (api : Api)
    (token : String) : (api.exchange token).run.Within R := by
  rw [exchange, run_bind]
  refine (requestWith_made hR api .post _ (refreshBody token)).within.bind fun outcome => ?_
  cases outcome with
  | error f => trivial
  | ok r =>
    rw [andThen, run_bind]
    refine Task.Within.bind (fun _ => trivial) fun outcome => ?_
    cases outcome <;> trivial

theorem exchange_orderly (api : Api) (token : String) (held : Bool) :
    (api.exchange token).run.Orderly held held := by
  rw [exchange, run_bind]
  have hmade := requestWith_made SameSession.made api .post ["auth", "token", "refresh"] (refreshBody token)
  refine (hmade.orderly held).bind fun outcome => ?_
  cases outcome with
  | error f => rfl
  | ok r =>
    rw [andThen, run_bind]
    refine Task.Orderly.bind (t := (fetch r).run) (fun _ => rfl) fun outcome => ?_
    cases outcome <;> rfl

end Api

end TripClient
