import TripClient.Proofs.Client.Exchange
import TripClient.Proofs.Session.Request

/-!
# Requests in the name of a client's session

A request in the name of the session is built for each attempt, so what an attempt asks is up to who
builds it. Whatever that is, if the session is left alone then the request takes one of four courses
(`Course`, `authorizedWith_course`): its first outcome stands, nothing is exchanged, the exchange is of
no use, or there is a second attempt. The courses say what is asked in all, the state and the outcome.
-/

namespace TripClient.Api

open Client

variable {E : Type}

/-! ## The parts -/

/-- What is done to the session with what comes of an exchange. -/
def settled (epoch : Nat) : Outcome TokenPair → Session → Session
  | .ok tokens => Session.exchange epoch tokens
  | .error _ => Session.expire epoch

section
variable (api : Api) (build : Work Http.Request) (o : Outside E) (c : Client) (e : E)

/-- The first attempt. -/
def first : Solo Client Http.Request (fun _ => Http.Answer) E (Outcome Json) :=
  (attempt build c.session.snapshot.token).run.alone o.respond c e

/-- The exchange of a token after the first attempt. -/
def swap (token : String) : Solo Client Http.Request (fun _ => Http.Answer) E (Outcome TokenPair) :=
  (api.exchange token).run.alone o.respond (first build o c e).state (first build o c e).responder

/-- The state after the exchange of a token, when what came of it has been done to the session. -/
def swapped (token : String) : Client :=
  onSession (settled c.session.epoch (swap api build o c e token).result)
    (swap api build o c e token).state

/-- The second attempt, after the exchange of a token for another. -/
def second (token access : String) :
    Solo Client Http.Request (fun _ => Http.Answer) E (Outcome Json) :=
  (attempt build (some access)).run.alone o.respond (swapped api build o c e token)
    (swap api build o c e token).responder

end

/-- What is asked for in all, with what comes of a task. -/
def joined {α : Type} (said : List Sent) (solo : Solo Client Http.Request (fun _ => Http.Answer) E α) :
    Solo Client Http.Request (fun _ => Http.Answer) E α :=
  { solo with said := said ++ solo.said }

/-! ## The courses -/

/-- The courses that a request in the name of the session can take, with all that comes of them. -/
inductive Course (api : Api) (build : Work Http.Request) (o : Outside E) (c : Client) (e : E) :
    Solo Client Http.Request (fun _ => Http.Answer) E (Outcome Json) → Prop
  /-- The first outcome stands. -/
  | stood : (∀ f, (first build o c e).result = .error f → f.isUnauthorized = false) →
      Course api build o c e (first build o c e)
  /-- There is nothing to exchange, or not for this request. -/
  | refused {f : Failure} : (first build o c e).result = .error f → f.isUnauthorized →
      (first build o c e).state.session.epoch ≠ c.session.epoch ∨
        (first build o c e).state.session.refreshToken = none →
      Course api build o c e (first build o c e)
  /-- The exchange fails, or its tokens come too late. -/
  | failed {f : Failure} {token : String} : (first build o c e).result = .error f →
      f.isUnauthorized → (first build o c e).state.session.epoch = c.session.epoch →
      (first build o c e).state.session.refreshToken = some token →
      (∀ tokens, (swap api build o c e token).result = .ok tokens →
        (swap api build o c e token).state.session.epoch ≠ c.session.epoch) →
      Course api build o c e
        ⟨(first build o c e).said ++ (swap api build o c e token).said, swapped api build o c e token,
          (swap api build o c e token).responder, .error f⟩
  /-- The outcome of the second attempt stands. -/
  | retried {f : Failure} {token : String} {tokens : TokenPair} :
      (first build o c e).result = .error f → f.isUnauthorized →
      (first build o c e).state.session.epoch = c.session.epoch →
      (first build o c e).state.session.refreshToken = some token →
      (swap api build o c e token).result = .ok tokens →
      (swap api build o c e token).state.session.epoch = c.session.epoch →
      Course api build o c e
        (joined ((first build o c e).said ++ (swap api build o c e token).said)
          (second api build o c e token tokens.access))

/-- Only others change the session while requests are under way. -/
theorem byOthers_alone {α : Type} {t : Step α} (ht : t.Within SameSession) (o : Outside E) (c : Client)
    (e : E) : ByOthers c (t.alone o.respond c e).state :=
  (ht.mono fun _ _ => SameSession.byOthers).alone ByOthers.refl ByOthers.trans
    (fun r e c => o.byOthers r e c) c e

/-- What a task on the session does, as a task of the client. -/
abbrev onClient {α : Type} (api : Api) (build : Work Http.Request) (t : Session.Work Json α) : Step α :=
  t.within Client.session Client.withSession (api.answer build)

section
variable {api : Api} {build : Work Http.Request}

/-- A refresh does what is decided on by who holds the gate. -/
theorem refresh_onClient (o : Outside E) (observed : Snapshot) (c : Client) (e : E) :
    (onClient api build (Session.refresh observed)).alone o.respond c e =
      (onClient api build (Session.decideOn observed c.session)).alone o.respond c e := by
  have hbind : onClient api build (Session.refresh observed) =
      .acquire (.act id fun c => (onClient api build (Session.decideOn observed c.session)).bind
        fun r => .release (.done r)) := by
    simp only [onClient, Session.refresh_eq, Task.within, Task.within_bind]
    rfl
  simp [hbind, Task.alone, Task.alone_bind]

/-- A request makes its first attempt, and goes on with what comes of it. -/
theorem authorizedWith_alone (o : Outside E) (c : Client) (e : E) :
    (api.authorizedWith build).run.alone o.respond c e =
      joined (first build o c e).said
        ((onClient api build (Session.afterAttempt c.session.snapshot (first build o c e).result)).alone
          o.respond (first build o c e).state (first build o c e).responder) := by
  have hrun : (api.authorizedWith build).run = onClient api build Session.authorized := rfl
  rw [hrun, Session.authorized_eq]
  exact Task.alone_within_ask _ _ _ _ _

/-- A request that is not accepted refreshes, and goes on with what comes of it. -/
theorem afterAttempt_onClient {f : Failure} (hf : f.isUnauthorized) (o : Outside E) (observed : Snapshot)
    (c : Client) (e : E) :
    (onClient api build (Session.afterAttempt observed (.error f))).alone o.respond c e =
      let got := (onClient api build (Session.decideOn observed c.session)).alone o.respond c e
      joined got.said ((onClient api build (Session.again f got.result)).alone o.respond got.state
        got.responder) := by
  have hbind : onClient api build (Session.afterAttempt observed (.error f)) =
      (onClient api build (Session.refresh observed)).bind fun r =>
        onClient api build (Session.again f r) := by
    simp only [Session.afterAttempt, hf, if_true, onClient, Task.within_bind]
  rw [hbind, Task.alone_bind, refresh_onClient]
  rfl

/-- Who goes on with a token makes a second attempt. -/
theorem again_onClient (f : Failure) (access : String) (o : Outside E) (c : Client) (e : E) :
    (onClient api build (Session.again f (.ok access))).alone o.respond c e =
      (attempt build (some access)).run.alone o.respond c e := by
  rw [Session.again, onClient, Task.alone_within_ask]
  simp only [Task.within, Task.alone, List.append_nil]
  rfl

/-- Who gets no token gives up. -/
theorem again_onClient_error (f g : Failure) (o : Outside E) (c : Client) (e : E) :
    (onClient api build (Session.again f (.error g))).alone o.respond c e = ⟨[], c, e, .error f⟩ :=
  rfl

/-- Settling an exchange asks nothing. -/
theorem settle_onClient (api : Api) (build : Work Http.Request) (epoch : Nat)
    (answer : Outcome TokenPair) (o : Outside E) (c : Client) (e : E) :
    (onClient api build (Session.settle epoch answer)).alone o.respond c e =
      ⟨[], onSession (settled epoch answer) c, e,
        match answer with
        | .ok tokens => c.session.exchanged epoch tokens
        | .error f => .error f⟩ := by
  cases answer <;> rfl

/-- A request that finds its session as it was exchanges the tokens, and installs them or ends it. -/
theorem exchange_onClient (hbuild : build.run.Within SameSession) {o : Outside E} {c : Client} {e : E}
    {token : String} (he : (first build o c e).state.session.epoch = c.session.epoch)
    (ht : (first build o c e).state.session.refreshToken = some token) :
    (onClient api build (Session.decideOn c.session.snapshot (first build o c e).state.session)).alone
        o.respond (first build o c e).state (first build o c e).responder =
      ⟨(swap api build o c e token).said, swapped api build o c e token,
        (swap api build o c e token).responder,
        match (swap api build o c e token).result with
        | .ok tokens => (swap api build o c e token).state.session.exchanged c.session.epoch tokens
        | .error f => .error f⟩ := by
  have hothers : ByOthers c (first build o c e).state :=
    byOthers_alone (attempt_within hbuild _) o c e
  rw [Session.decideOn_of_some he (hothers.generation_eq he) ht, onClient, Task.alone_within_ask]
  refine (congrArg (joined (swap api build o c e token).said)
    (settle_onClient api build c.session.epoch _ o _ _)).trans ?_
  simp only [joined, List.append_nil]
  rfl

/-- Where no exchange is begun, nothing is said or done after the first attempt. -/
theorem not_exchanged_alone {o : Outside E} {c : Client} {e : E} {f g : Failure}
    (hfirst : (first build o c e).result = .error f) (hf : f.isUnauthorized)
    (hnone : Session.decideOn c.session.snapshot (first build o c e).state.session =
      (.done (.error g) : Session.Work Json _)) :
    (api.authorizedWith build).run.alone o.respond c e = first build o c e := by
  rw [authorizedWith_alone, hfirst, afterAttempt_onClient hf, hnone]
  simp only [joined, onClient, Task.within, Task.alone, Session.again, List.append_nil, ← hfirst]

/-- After the exchange the request goes on with what came of it. -/
theorem exchanged_alone (hbuild : build.run.Within SameSession) {o : Outside E} {c : Client} {e : E}
    {f : Failure} {token : String} (hfirst : (first build o c e).result = .error f)
    (hf : f.isUnauthorized) (he : (first build o c e).state.session.epoch = c.session.epoch)
    (ht : (first build o c e).state.session.refreshToken = some token) :
    (api.authorizedWith build).run.alone o.respond c e =
      joined ((first build o c e).said ++ (swap api build o c e token).said)
        ((onClient api build (Session.again f (match (swap api build o c e token).result with
          | .ok tokens => (swap api build o c e token).state.session.exchanged c.session.epoch tokens
          | .error f => .error f))).alone o.respond (swapped api build o c e token)
            (swap api build o c e token).responder) := by
  rw [authorizedWith_alone, hfirst, afterAttempt_onClient hf, exchange_onClient hbuild he ht]
  simp only [joined, List.append_assoc]

/-- A request in the name of the session takes one of the courses. -/
theorem authorizedWith_course (api : Api) (hbuild : build.run.Within SameSession) (o : Outside E)
    (c : Client) (e : E) :
    Course api build o c e ((api.authorizedWith build).run.alone o.respond c e) := by
  have hothers : ByOthers c (first build o c e).state :=
    byOthers_alone (attempt_within hbuild _) o c e
  by_cases hf : ∃ f, (first build o c e).result = .error f ∧ f.isUnauthorized
  · obtain ⟨f, hfirst, hf⟩ := hf
    by_cases he : (first build o c e).state.session.epoch = c.session.epoch
    · cases ht : (first build o c e).state.session.refreshToken with
      | none =>
        rw [not_exchanged_alone hfirst hf
          (Session.decideOn_of_none he (hothers.generation_eq he) ht)]
        exact .refused hfirst hf (.inr ht)
      | some token =>
        have hswap : ByOthers (first build o c e).state (swap api build o c e token).state :=
          byOthers_alone (exchange_within SameSession.made api token) o _ _
        rw [exchanged_alone hbuild hfirst hf he ht]
        cases hx : (swap api build o c e token).result with
        | error g =>
          simp only [again_onClient_error, joined, List.append_nil]
          exact .failed hfirst hf he ht fun _ h => nomatch hx.symm.trans h
        | ok tokens =>
          by_cases he' : (swap api build o c e token).state.session.epoch = c.session.epoch
          · have hin : (swap api build o c e token).state.session.isSignedIn :=
              hswap.leads.signedIn_eq (he.trans he'.symm) ▸ Session.isSignedIn_of_refreshToken ht
            simp only [Session.exchanged_of_eq he' hin, again_onClient]
            exact .retried hfirst hf he ht hx he'
          · simp only [Session.exchanged_of_ne he', again_onClient_error, joined, List.append_nil]
            exact .failed hfirst hf he ht fun _ _ => he'
    · rw [not_exchanged_alone hfirst hf (Session.decideOn_of_ne he)]
      exact .refused hfirst hf (.inl he)
  · have hstood : ∀ f, (first build o c e).result = .error f → f.isUnauthorized = false :=
      fun f h => Bool.eq_false_iff.2 fun hun => hf ⟨f, h, hun⟩
    rw [authorizedWith_alone, Session.afterAttempt_of_accepted hstood]
    simp only [joined, onClient, Task.within, Task.alone, List.append_nil]
    exact .stood hstood

/-- A request in the name of the session takes the gate only to refresh, and gives it back. -/
theorem authorizedWith_orderly (api : Api) (hbuild : ∀ held, build.run.Orderly held held) :
    (api.authorizedWith build).run.Orderly false false := by
  refine Session.authorized_orderly.zoom fun q held => ?_
  cases q with
  | attempt token => exact attempt_orderly (hbuild held) token
  | exchange token => exact exchange_orderly api token held

end

end TripClient.Api
