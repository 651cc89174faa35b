import TripClient.Client.SignIn
import TripClient.Proofs.Client.Exchange
import TripClient.Proofs.Url.Endpoint

/-!
# Signing in

Who signs in and who registers do the same (`perform_eq`): everything that can fail is done first
(`prepare`), and takes no heed of the session and leaves it as it is (`Public`, `prepare_public`); what
is done then is one change of the session. So either the session is that of who signed in, or it is as
others left it. What is sent until then is said by `Prepared`: one request without a token, and perhaps
one for the profile, with the token from the answer to the first. None of them is for an exchange of
tokens. What follows for signing in is `signIn_all_or_nothing`; that one is signed in with an answer that
has both tokens is said by `signIn_of_told` and `signIn_of_asked`, as the profile comes with them or not.
-/

namespace TripClient

namespace Client

variable {α β E : Type}

/-! ## Work that has nothing to do with the session -/

/-- The clients differ in their sessions at most. -/
def SameButSession (c c' : Client) : Prop := c' = c.withSession c'.session

theorem SameButSession.onSession {c c' : Client} (h : SameButSession c c') (f g : Session → Session) :
    SameButSession (onSession f c) (onSession g c') := by
  rw [SameButSession] at h ⊢
  rw [h]
  rfl

/-- The work takes no heed of the session, leaves the gate as it is, and changes the state as `R`
allows. -/
structure Public (R : Client → Client → Prop) (w : Work α) : Prop where
  orderly : w.run.Orderly false false
  within : w.run.Within R
  blind : w.run.Blind SameButSession

section
variable {R : Client → Client → Prop}

theorem Public.bind {w : Work α} {k : α → Work β} (hw : Public R w) (hk : ∀ a, Public R (k a)) :
    Public R (w >>= k) := by
  constructor <;> rw [run_bind]
  · refine hw.orderly.bind fun outcome => ?_
    cases outcome with
    | ok a => exact (hk a).orderly
    | error f => rfl
  · refine hw.within.bind fun outcome => ?_
    cases outcome with
    | ok a => exact (hk a).within
    | error f => trivial
  · refine hw.blind.bind fun outcome => ?_
    cases outcome with
    | ok a => exact (hk a).blind
    | error f => trivial

theorem public_ofOutcome (outcome : Outcome α) : Public R (Work.ofOutcome outcome) :=
  ⟨rfl, trivial, trivial⟩

theorem public_ofHttp (r : Except Http.Error α) : Public R (Work.ofHttp r) := public_ofOutcome _

theorem public_pure (a : α) : Public R (pure a) := public_ofOutcome (.ok a)

theorem public_fetch (r : Http.Request) : Public R (fetch r) :=
  ⟨fun _ => rfl, fun _ => trivial, fun _ => trivial⟩

theorem public_newId (hR : ∀ c n, R c { c with made := n }) : Public R (liftM newId : Work String) where
  orderly _ := rfl
  within := ⟨fun c => hR c _, fun _ => trivial⟩
  blind := by
    refine ⟨fun c c' h => ?_, fun _ => trivial⟩
    rw [SameButSession] at h
    rw [h]
    exact ⟨rfl, rfl⟩

end

/-- What others leave of a session while requests are under way. -/
def Outside.leave (o : Outside E) : List Http.Request → E → Session → Session
  | [], _, s => s
  | r :: rest, e, s => o.leave rest (o r e).1 (Session.applyAll (o r e).2.changes s)

/-- A task that leaves the session as it is leaves it as others do. -/
theorem session_alone {t : Step α} (ht : t.Within SameSession) (o : Outside E) (c : Client) (e : E) :
    (t.alone o.respond c e).state.session =
      o.leave ((t.alone o.respond c e).said.map (·.question)) e c.session := by
  induction t generalizing c e with
  | done a => rfl
  | act change next ih => rw [← ht.1 c]; exact ih c (ht.2 c) (change c) e
  | ask r next ih => exact ih _ (ht _) _ _
  | acquire next ih => exact ih ht c e
  | release next ih => exact ih ht c e

end Client

namespace Api

open Client

variable {E : Type}

section
variable {R : Client → Client → Prop} (hR : ∀ c n, R c { c with made := n })
include hR

theorem public_request (api : Api) (method : Http.Method) (segments : List String) (query : Query) :
    Public R (api.request method segments query) :=
  (public_ofOutcome _).bind fun _ => (public_newId hR).bind fun _ => public_ofHttp _

theorem public_requestWith (api : Api) (method : Http.Method) (segments : List String) (body : Json) :
    Public R (api.requestWith method segments body) :=
  (public_request hR api method segments []).bind fun _ => public_ofHttp _

end

/-! ## The two ways to sign in -/

/-- A way to sign in. -/
inductive SignIn where
  | login (username password : String)
  | register (registration : Registration)

namespace SignIn

/-- Signs in. -/
def perform (api : Api) : SignIn → Work Profile
  | login username password => api.login username password
  | register registration => api.register registration

/-- What is looked at before anything is sent. -/
def check : SignIn → Outcome Unit
  | login username password => checkSignIn username password
  | register registration => checkSignIn registration.username registration.password

/-- Where the first request goes. -/
def segments : SignIn → List String
  | login _ _ => ["auth", "login"]
  | register _ => ["auth", "register"]

/-- What the first request carries. -/
def body : SignIn → Json
  | login username password => loginBody username password
  | register registration => registration.toJson

end SignIn

/-- Finds out who signs in: the answer says so, or else the owner of the token is asked for. -/
def identify (api : Api) (v : Json) (tokens : TokenPair) : Work Profile :=
  match profileIn? v with
  | some u => Work.ofOutcome (Answer.item Profile.decoder none u)
  | none => api.profileOf tokens.access

/-- All of signing in that may fail. -/
def prepare (api : Api) (way : SignIn) : Work (TokenPair × Profile) := do
  Work.ofOutcome way.check
  let r ← api.requestWith .post way.segments way.body
  let v ← fetch r
  let tokens ← Work.ofOutcome (signInTokens v)
  let user ← api.identify v tokens
  return (tokens, user)

/-- The rest of it. -/
def enter (tokens : TokenPair) (user : Profile) : Work Profile :=
  .ofStep (.act (onSession (Session.signIn tokens user)) fun _ => .done (.ok user))

theorem establish_eq (api : Api) (v : Json) :
    api.establish v = Work.ofOutcome (signInTokens v) >>= fun tokens =>
      api.identify v tokens >>= fun user => enter tokens user := by
  unfold establish identify
  cases profileIn? v <;> rfl

/-- Who signs in prepares it, and enters. -/
theorem perform_eq (api : Api) (way : SignIn) :
    way.perform api = api.prepare way >>= fun (tokens, user) => enter tokens user := by
  cases way <;>
    simp only [SignIn.perform, login, register, prepare, bind_assoc, pure_bind, establish_eq] <;> rfl

/-- Signing in is prepared without the session; no more than the number of requests is changed. -/
theorem prepare_public {R : Client → Client → Prop} (hR : ∀ c n, R c { c with made := n }) (api : Api)
    (way : SignIn) : Public R (api.prepare way) := by
  have hidentify (v : Json) (tokens : TokenPair) : Public R (api.identify v tokens) := by
    unfold identify
    split
    · exact public_ofOutcome _
    · exact (public_request hR api _ _ _).bind fun _ => (public_ofHttp _).bind fun r =>
        (public_fetch r).bind fun _ => public_ofOutcome _
  exact (public_ofOutcome _).bind fun _ => (public_requestWith hR api _ _ _).bind fun r =>
    (public_fetch r).bind fun v => (public_ofOutcome _).bind fun tokens =>
      (hidentify v tokens).bind fun _ => public_pure _

/-! ## What is sent -/

/-- A request for the profile of the owner of a token. -/
structure AsksFor (api : Api) (access : String) (r : Http.Request) : Prop where
  method_eq : r.method = .get
  address_eq : api.endpoint ["auth", "me"] [] = .ok r.address
  bearer : r.headers.get? "Authorization" = some ("Bearer " ++ access)

/-- What is sent to sign in, and what has come of it when the session is to be changed. -/
inductive Prepared (api : Api) (way : SignIn) (o : Outside E) (e : E) :
    List Sent → Outcome (TokenPair × Profile) → Prop
  /-- Nothing may be sent, or there is no request. -/
  | unsent (f : Failure) : Prepared api way o e [] (.error f)
  /-- The first request is not answered as it should be. -/
  | refused {r : Http.Request} (f : Failure) : MadeWith api .post way.segments way.body r →
      Prepared api way o e [⟨r, (o.respond r e).2⟩] (.error f)
  /-- No more is asked. -/
  | told {r : Http.Request} {v : Json} {tokens : TokenPair} (user : Profile) :
      MadeWith api .post way.segments way.body r → valueOf r (o r e).2.answer = .ok v →
      signInTokens v = .ok tokens →
      Prepared api way o e [⟨r, (o.respond r e).2⟩] (.ok (tokens, user))
  /-- The owner of the token is asked for. -/
  | asked {r m : Http.Request} {v : Json} {tokens : TokenPair} (outcome : Outcome Profile) :
      MadeWith api .post way.segments way.body r → valueOf r (o r e).2.answer = .ok v →
      signInTokens v = .ok tokens → AsksFor api tokens.access m →
      Prepared api way o e [⟨r, (o.respond r e).2⟩, ⟨m, (o.respond m (o r e).1).2⟩]
        (outcome.map fun user => (tokens, user))

/-- The owner of a token is asked for by one request, unless there is none. -/
theorem profileOf_said (api : Api) (access : String) (o : Outside E) (c : Client) (e : E) :
    ((api.profileOf access).run.alone o.respond c e).said = [] ∨
      ∃ m, AsksFor api access m ∧
        ((api.profileOf access).run.alone o.respond c e).said = [⟨m, (o.respond m e).2⟩] := by
  obtain ⟨c', -, ⟨f, hnone⟩ | ⟨r, hr, halone⟩⟩ :=
    (request_made SameSession.made api .get ["auth", "me"] []).bind_alone
      (fun r => Work.ofHttp (r.withBearer access) >>= fun r => fetch r >>= fun v =>
        .ofOutcome (Answer.item Profile.decoder (some "user") v)) o c e
  · exact .inl (congrArg Solo.said hnone)
  · rw [profileOf, halone, Work.ofHttp, ofOutcome_bind]
    cases hm : r.withBearer access with
    | error g => exact .inl rfl
    | ok m =>
      obtain ⟨hheaders, heq⟩ := Http.Request.withHeader_eq hm
      refine .inr ⟨m, ⟨?_, ?_, Http.Headers.get?_with? hheaders⟩, ?_⟩
      · rw [heq]; exact hr.method_eq
      · rw [heq]; exact hr.address_eq
      · simp only [Except.mapError, andThen, fetch_bind_alone]
        cases valueOf m (o m e).2.answer <;> rfl

theorem identify_said (api : Api) (v : Json) (tokens : TokenPair) (o : Outside E) (c : Client) (e : E) :
    ((api.identify v tokens).run.alone o.respond c e).said = [] ∨
      ∃ m, AsksFor api tokens.access m ∧
        ((api.identify v tokens).run.alone o.respond c e).said = [⟨m, (o.respond m e).2⟩] := by
  unfold identify
  split
  · exact .inl rfl
  · exact profileOf_said api tokens.access o c e

/-- Signing in is prepared like this. -/
theorem prepare_alone (api : Api) (way : SignIn) (o : Outside E) (c : Client) (e : E) :
    Prepared api way o e ((api.prepare way).run.alone o.respond c e).said
      ((api.prepare way).run.alone o.respond c e).result := by
  rw [prepare, ofOutcome_bind]
  cases way.check with
  | error f => exact .unsent f
  | ok _ =>
    obtain ⟨c', -, ⟨f, hnone⟩ | ⟨r, hr, halone⟩⟩ :=
      (requestWith_made SameSession.made api .post way.segments way.body).bind_alone
        (fun r => fetch r >>= fun v => Work.ofOutcome (signInTokens v) >>= fun tokens =>
          api.identify v tokens >>= fun user => pure (tokens, user)) o c e
    · simp only [andThen, hnone]
      exact .unsent f
    · simp only [andThen, halone, fetch_bind_alone]
      cases hv : valueOf r (o r e).2.answer with
      | error f => exact .refused f hr
      | ok v =>
        simp only [ofOutcome_bind]
        cases ht : signInTokens v with
        | error f => exact .refused f hr
        | ok tokens =>
          simp only [andThen, run_bind, Task.alone_bind]
          have hsaid := identify_said api v tokens o ((o.respond r e).2.meanwhile c') (o r e).1
          generalize (api.identify v tokens).run.alone o.respond ((o.respond r e).2.meanwhile c')
            (o r e).1 = asked at hsaid ⊢
          obtain ⟨said, c'', e', outcome⟩ := asked
          obtain rfl | ⟨m, hm, rfl⟩ := hsaid
          · cases outcome with
            | error f => exact .refused f hr
            | ok user => exact .told user hr hv ht
          · cases outcome with
            | error f => exact .asked (.error f) hr hv ht hm
            | ok user => exact .asked (.ok user) hr hv ht hm

/-- What goes to the endpoints of signing in does not go to that of an exchange. -/
theorem not_exchange_of_endpoint (api : Api) {segments : List String} {a a' : Http.Address}
    (hsegments : segments ∈ [["auth", "login"], ["auth", "register"], ["auth", "me"]])
    (h : api.endpoint segments [] = .ok a) (h' : api.endpoint ["auth", "token", "refresh"] [] = .ok a') :
    a ≠ a' := by
  have hall : ∀ segments ∈ [["auth", "login"], ["auth", "register"], ["auth", "me"]],
      segments ≠ [] ∧ (∀ s ∈ segments, Url.Path.leadsOn s) ∧
        (Url.Path.segments (segments.map Url.Path.written)).toChars.length ≠
          (Url.Path.segments (["auth", "token", "refresh"].map Url.Path.written)).toChars.length := by
    decide +kernel
  obtain ⟨hne, hon, hlength⟩ := hall segments hsegments
  exact api.endpoint_ne hne (List.cons_ne_nil _ _) hon (by decide +kernel) hlength h h'

section
variable {api : Api} {way : SignIn} {o : Outside E} {e : E} {said : List Sent}
  {outcome : Outcome (TokenPair × Profile)}

/-- Nothing that is sent to sign in goes to the endpoint of an exchange. -/
theorem Prepared.not_exchange (h : Prepared api way o e said outcome) {x : Sent} (hx : x ∈ said)
    {a : Http.Address} (ha : api.endpoint ["auth", "token", "refresh"] [] = .ok a) :
    x.question.address ≠ a := by
  have hfirst {r : Http.Request} (hr : MadeWith api .post way.segments way.body r) : r.address ≠ a :=
    not_exchange_of_endpoint api (by cases way <;> simp [SignIn.segments]) hr.address_eq ha
  cases h with
  | unsent => cases hx
  | refused f hr | told user hr =>
    obtain rfl := List.mem_singleton.1 hx
    exact hfirst hr
  | asked outcome hr hv ht hm =>
    rcases List.mem_cons.1 hx with rfl | hx
    · exact hfirst hr
    · obtain rfl := List.mem_singleton.1 hx
      exact not_exchange_of_endpoint api (by simp) hm.address_eq ha

/-- The first request has no token. -/
theorem Prepared.anonymous (h : Prepared api way o e said outcome) {x : Sent} {rest : List Sent}
    (hx : said = x :: rest) : x.question.headers.get? "Authorization" = none := by
  have hfirst {r : Http.Request} (hr : MadeWith api .post way.segments way.body r) :
      r.headers.get? "Authorization" = none := by
    rw [hr.headers_eq]
    decide +kernel
  cases h with
  | unsent => cases hx
  | refused f hr | told user hr | asked outcome hr =>
    obtain ⟨rfl, -⟩ := List.cons.inj hx
    exact hfirst hr

/-- The second request is the last one, and has the token from the answer to the first. -/
theorem Prepared.bearer (h : Prepared api way o e said outcome) {x y : Sent} {rest : List Sent}
    (hx : said = x :: y :: rest) : rest = [] ∧ ∃ v tokens,
      valueOf x.question x.reply.answer = .ok v ∧ signInTokens v = .ok tokens ∧
        y.question.headers.get? "Authorization" = some ("Bearer " ++ tokens.access) := by
  cases h with
  | unsent | refused | told => cases hx
  | asked outcome hr hv ht hm =>
    cases hx
    exact ⟨rfl, _, _, hv, ht, hm.bearer⟩

/-- Who signs in has the tokens that are found in the answer, if both are. -/
theorem signInTokens_eq_ok {v : Json} {tokens : TokenPair} :
    signInTokens v = .ok tokens ↔ Tokens.find? v = some (tokens.access, some tokens.refresh) := by
  unfold signInTokens
  constructor
  · intro h
    split at h
    · cases h
    · cases h
    · next hfind => cases h; exact hfind
  · intro hfind
    rw [hfind]

/-- The tokens were found in the answer to the first request. -/
theorem Prepared.tokens (h : Prepared api way o e said outcome) {tokens : TokenPair} {user : Profile}
    (hok : outcome = .ok (tokens, user)) : ∃ x rest v, said = x :: rest ∧
      valueOf x.question x.reply.answer = .ok v ∧
        Tokens.find? v = some (tokens.access, some tokens.refresh) := by
  cases h with
  | unsent | refused => cases hok
  | told user' hr hv ht =>
    cases hok
    exact ⟨_, _, _, rfl, hv, signInTokens_eq_ok.1 ht⟩
  | asked user? hr hv ht hm =>
    cases user? with
    | error f => cases hok
    | ok user' =>
      cases hok
      exact ⟨_, _, _, rfl, hv, signInTokens_eq_ok.1 ht⟩

end

/-! ## All or nothing -/

/-- What is promised of signing in, on its own. -/
structure AllOrNothing (api : Api) (way : SignIn) (o : Outside E) (c : Client) (e : E)
    (solo : Solo Client Http.Request (fun _ => Http.Answer) E (Outcome Profile)) : Prop where
  /-- It finishes when it is run. -/
  finished : ∀ visits, ∃ k, ∀ limit, k ≤ limit →
    runAll o.respond limit [(visits, (way.perform api).run)] c e =
      (solo.state, solo.responder, [some solo.result])
  /-- Either the session is that of who signed in, with the tokens from the answer, or it is as others
  left it. -/
  outcome : let left := o.leave (solo.said.map (·.question)) e c.session
    (∃ user x rest v access refresh, solo.result = .ok user ∧ solo.said = x :: rest ∧
        valueOf x.question x.reply.answer = .ok v ∧ Tokens.find? v = some (access, some refresh) ∧
        solo.state.session =
          { credential := some ⟨⟨access, refresh⟩, user⟩
            epoch := left.epoch + 1
            generation := left.generation + 1
            status := .signedIn user.id
            notices := left.notices + 1 }) ∨
      ∃ f, solo.result = .error f ∧ solo.state.session = left
  /-- No tokens are exchanged. -/
  not_exchanged : ∀ x ∈ solo.said, ∀ a, api.endpoint ["auth", "token", "refresh"] [] = .ok a →
    x.question.address ≠ a
  /-- The first request has no token. -/
  anonymous : ∀ x rest, solo.said = x :: rest → x.question.headers.get? "Authorization" = none
  /-- A second request is the last one, and has the token from the answer to the first. -/
  bearer : ∀ x y rest, solo.said = x :: y :: rest → rest = [] ∧ ∃ v tokens,
    valueOf x.question x.reply.answer = .ok v ∧ signInTokens v = .ok tokens ∧
      y.question.headers.get? "Authorization" = some ("Bearer " ++ tokens.access)
  /-- The session from before has no bearing on what is sent, nor on what comes of it. -/
  independent : ∀ s,
    ((way.perform api).run.alone o.respond (c.withSession s) e).said = solo.said ∧
      ((way.perform api).run.alone o.respond (c.withSession s) e).result = solo.result

theorem perform_orderly (api : Api) (way : SignIn) : (way.perform api).run.Orderly false false := by
  rw [perform_eq, run_bind]
  refine (prepare_public SameSession.made api way).orderly.bind fun outcome => ?_
  cases outcome with
  | ok found => exact fun _ => rfl
  | error f => rfl

theorem perform_blind (api : Api) (way : SignIn) : (way.perform api).run.Blind SameButSession := by
  rw [perform_eq, run_bind]
  refine (prepare_public SameSession.made api way).blind.bind fun outcome => ?_
  cases outcome with
  | ok found => exact ⟨fun c c' h => ⟨h.onSession _ _, rfl⟩, fun _ => trivial⟩
  | error f => trivial

/-- Who signs in says no more than to prepare it, and changes the session at the end. -/
theorem perform_alone (api : Api) (way : SignIn) (o : Outside E) (c : Client) (e : E) :
    (way.perform api).run.alone o.respond c e =
      let prepared := (api.prepare way).run.alone o.respond c e
      match prepared.result with
      | .ok (tokens, user) =>
        ⟨prepared.said, onSession (Session.signIn tokens user) prepared.state, prepared.responder, .ok user⟩
      | .error f => ⟨prepared.said, prepared.state, prepared.responder, .error f⟩ := by
  rw [perform_eq, run_bind, Task.alone_bind]
  dsimp only
  cases ((api.prepare way).run.alone o.respond c e).result with
  | ok found => exact congrArg (Solo.mk · _ _ _) (List.append_nil _)
  | error f => exact congrArg (Solo.mk · _ _ _) (List.append_nil _)

/-- Whatever the session, whatever is answered, and however others change the session meanwhile, who
signs in or registers is signed in, or nothing is done. -/
theorem signIn_all_or_nothing (api : Api) (way : SignIn) (o : Outside E) (c : Client) (e : E) :
    AllOrNothing api way o c e ((way.perform api).run.alone o.respond c e) := by
  have hprepared := prepare_alone api way o c e
  have hsession := session_alone (prepare_public SameSession.made api way).within o c e
  -- Nothing is said after it has been prepared.
  have hsaid : ((way.perform api).run.alone o.respond c e).said =
      ((api.prepare way).run.alone o.respond c e).said := by
    rw [perform_alone]
    dsimp only
    split <;> rfl
  refine ⟨fun visits => runAll_singleton o.respond (perform_orderly api way) visits c e, ?_, ?_, ?_, ?_,
    fun s => ?_⟩
  · dsimp only
    rw [hsaid, ← hsession, perform_alone]
    dsimp only
    split
    · next tokens user hok =>
      obtain ⟨x, rest, v, hx, hv, hfind⟩ := hprepared.tokens hok
      exact .inl ⟨user, x, rest, v, tokens.access, tokens.refresh, rfl, hx, hv, hfind, rfl⟩
    · next f _ => exact .inr ⟨f, rfl, rfl⟩
  · rw [hsaid]
    exact fun x hx a ha => hprepared.not_exchange hx ha
  · rw [hsaid]
    exact fun x rest hx => hprepared.anonymous hx
  · rw [hsaid]
    exact fun x y rest hx => hprepared.bearer hx
  · have hothers (r : Http.Request) (e : E) (c c' : Client) (h : SameButSession c c') :
        SameButSession ((o.respond r e).2.meanwhile c) ((o.respond r e).2.meanwhile c') :=
      h.onSession _ _
    obtain ⟨hsaid', hresult, -, -⟩ := (perform_blind api way).alone hothers
      (show SameButSession (c.withSession s) c from rfl) e
    exact ⟨hsaid', hresult⟩

/-! ## Who is signed in -/

/-- Who is told about in the answer signs in. -/
theorem identify_told (api : Api) {v u : Json} {user : Profile} (hu : profileIn? v = some u)
    (huser : Answer.item Profile.decoder none u = .ok user) (tokens : TokenPair) (o : Outside E)
    (c : Client) (e : E) :
    (api.identify v tokens).run.alone o.respond c e = ⟨[], c, e, .ok user⟩ := by
  rw [identify, hu]
  dsimp only
  rw [huser]
  rfl

/-- If nobody is, the owner of the token is asked for, where there is a request for that. -/
theorem identify_asked {api : Api} {a : Http.Address} (ha : api.endpoint ["auth", "me"] [] = .ok a)
    (hpos : 0 < api.requestTimeout) (hmax : api.requestTimeout ≤ Http.Request.maxTimeout) {v : Json}
    (hv : profileIn? v = none) {tokens : TokenPair}
    (htoken : Http.Headers.IsValue ("Bearer " ++ tokens.access)) (o : Outside E) (c : Client) (e : E) :
    ∃ m, AsksFor api tokens.access m ∧ (api.identify v tokens).run.alone o.respond c e =
      ⟨[⟨m, (o.respond m e).2⟩], (o.respond m e).2.meanwhile { c with made := c.made + 1 }, (o m e).1,
        valueOf m (o m e).2.answer >>= Answer.item Profile.decoder (some "user")⟩ := by
  have hplain := request_alone o.respond c e ha hpos hmax .get
  have hroom : (Http.Headers.empty.without "Authorization").size < 100 := by decide +kernel
  obtain ⟨m, hm⟩ : ∃ m, Http.Request.withBearer tokens.access
      ⟨.get, a, .empty, .empty, api.requestTimeout, requestId c.made⟩ = .ok m :=
    Http.Request.exists_withBearer_iff.2 ⟨htoken, hroom⟩
  obtain ⟨hheaders, heq⟩ := Http.Request.withHeader_eq hm
  refine ⟨m, ⟨by rw [heq], ?_, Http.Headers.get?_with? hheaders⟩, ?_⟩
  · rw [heq]
    exact ha
  · rw [identify, hv]
    dsimp only
    rw [profileOf, bind_alone_of_silent hplain, Work.ofHttp, ofOutcome_bind, hm, Except.mapError, andThen,
      fetch_bind_alone]
    cases valueOf m (o m e).2.answer <;> rfl

section
variable {api : Api} {way : SignIn} (hcheck : way.check = .ok ())
  (htakes : Takes api way.segments way.body) (o : Outside E) (c : Client) (e : E)
include hcheck htakes

/-- Who may sign in asks for it, where there is a request for that, and enters with the tokens from the
answer once it is known who it is. -/
theorem perform_entered : ∃ r, MadeWith api .post way.segments way.body r ∧
    ∀ response v tokens user, (o r e).2.answer = .ok response → Brings response v →
      Tokens.find? v = some (tokens.access, some tokens.refresh) →
      let identified := (api.identify v tokens).run.alone o.respond
        ((o.respond r e).2.meanwhile { c with made := c.made + 1 }) (o r e).1
      identified.result = .ok user →
      (way.perform api).run.alone o.respond c e =
        ⟨⟨r, (o.respond r e).2⟩ :: identified.said, onSession (Session.signIn tokens user) identified.state,
          identified.responder, .ok user⟩ := by
  obtain ⟨r, hr, hmade⟩ := htakes.requestWith o.respond c e .post rfl
  refine ⟨r, hr, fun response v tokens user hanswer hbrings hfind => ?_⟩
  intro identified hidentified
  have hprepared : (api.prepare way).run.alone o.respond c e =
      ⟨⟨r, (o.respond r e).2⟩ :: identified.said, identified.state, identified.responder,
        .ok (tokens, user)⟩ := by
    rw [prepare, ofOutcome_bind, hcheck, andThen, bind_alone_of_silent hmade, fetch_bind_alone, hanswer,
      hbrings.valueOf, andThen, ofOutcome_bind, signInTokens_eq_ok.2 hfind, andThen,
      bind_alone_of_ok hidentified]
    exact congrArg (fun said => Solo.mk (_ :: said) _ _ _) (List.append_nil identified.said)
  rw [perform_alone, hprepared]

/-- With a success that has both tokens and a profile one is signed in. -/
theorem signIn_of_told : ∃ r, MadeWith api .post way.segments way.body r ∧
    ∀ response v tokens u user, (o r e).2.answer = .ok response → Brings response v →
      Tokens.find? v = some (tokens.access, some tokens.refresh) → profileIn? v = some u →
      Answer.item Profile.decoder none u = .ok user →
      let solo := (way.perform api).run.alone o.respond c e
      solo.said = [⟨r, (o.respond r e).2⟩] ∧ solo.result = .ok user ∧
        solo.state.session =
          Session.signIn tokens user (Session.applyAll (o r e).2.changes c.session) := by
  obtain ⟨r, hr, hentered⟩ := perform_entered hcheck htakes o c e
  refine ⟨r, hr, fun response v tokens u user hanswer hbrings hfind hu huser => ?_⟩
  have htold := identify_told api hu huser tokens o
    ((o.respond r e).2.meanwhile { c with made := c.made + 1 }) (o r e).1
  have hsolo := hentered response v tokens user hanswer hbrings hfind (congrArg Solo.result htold)
  rw [htold] at hsolo
  dsimp only
  rw [hsolo]
  exact ⟨rfl, rfl, rfl⟩

/-- With a success that has both tokens, and another that has the profile, one is signed in too, where
there is a request for the profile. -/
theorem signIn_of_asked {a : Http.Address} (ha : api.endpoint ["auth", "me"] [] = .ok a) :
    ∃ r, MadeWith api .post way.segments way.body r ∧
      ∀ response v tokens, (o r e).2.answer = .ok response → Brings response v →
        Tokens.find? v = some (tokens.access, some tokens.refresh) → profileIn? v = none →
        Http.Headers.IsValue ("Bearer " ++ tokens.access) →
        ∃ m, AsksFor api tokens.access m ∧
          ∀ response' w user, (o m (o r e).1).2.answer = .ok response' → Brings response' w →
            Answer.item Profile.decoder (some "user") w = .ok user →
            let solo := (way.perform api).run.alone o.respond c e
            solo.said = [⟨r, (o.respond r e).2⟩, ⟨m, (o.respond m (o r e).1).2⟩] ∧
              solo.result = .ok user ∧
              solo.state.session = Session.signIn tokens user (Session.applyAll
                (o m (o r e).1).2.changes (Session.applyAll (o r e).2.changes c.session)) := by
  obtain ⟨r, hr, hentered⟩ := perform_entered hcheck htakes o c e
  refine ⟨r, hr, fun response v tokens hanswer hbrings hfind hv htoken => ?_⟩
  obtain ⟨m, hm, hasked⟩ := identify_asked ha htakes.patient.1 htakes.patient.2 hv htoken o
    ((o.respond r e).2.meanwhile { c with made := c.made + 1 }) (o r e).1
  refine ⟨m, hm, fun response' w user hanswer' hbrings' huser => ?_⟩
  rw [hanswer', hbrings'.valueOf] at hasked
  have hsolo := hentered response v tokens user hanswer hbrings hfind
    ((congrArg Solo.result hasked).trans huser)
  rw [hasked] at hsolo
  dsimp only
  rw [hsolo]
  exact ⟨rfl, rfl, rfl⟩

end

/-- The answer may say who signs in, or else a second one does. -/
example :
    let api : Api := ⟨⟨"https".toList, some ⟨[], none, .name "api.test".toList, none⟩, .segments [[]],
      none, none⟩, 30000, 120000⟩
    let lan := "\"user\": \x7b\"id\": 7, \"username\": \"lan\"\x7d"
    let server (first : String) : Outside Nat := fun r n =>
      let members := if n = 0 then first else lan
      (n + 1, ⟨0, [], .ok ⟨200, .empty, ("\x7b" ++ members ++ "\x7d").toUTF8, r.id, 1⟩⟩)
    let signedIn (first : String) :=
      let solo := ((SignIn.login "lan" "pw").perform api).run.alone (server first).respond
        (.start .usual) 0
      (solo.said.length, solo.state.session.tokens?, solo.state.session.status)
    let tokens := "\"access\": \"a\", \"refresh\": \"r\""
    signedIn (tokens ++ ", " ++ lan) = (1, some ⟨"a", "r"⟩, .signedIn ⟨"7"⟩) ∧
      signedIn tokens = (2, some ⟨"a", "r"⟩, .signedIn ⟨"7"⟩) := by
  decide +kernel

end Api

end TripClient
