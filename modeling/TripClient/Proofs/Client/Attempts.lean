import TripClient.Proofs.Client.Wire

/-!
# In which session an attempt is made

Here whoever answers may do anything to the client meanwhile. What a request in the name of the session
asks is what its first attempt asks, and then what it asks to try again (`Retried`,
`authorizedWith_asked`): perhaps an exchange, and perhaps a second attempt, which has the token that is
stored in the session as it is then. A request that is built without a question is sent in the session in
which it was built (`attempt_asked`). So all that an operation asks is asked in the epoch in which it began
(`authorizedWith_epoch`, `Calling.asked_epoch`).
-/

namespace TripClient

namespace Client

/-- Who answers requests, and what is done to the client until then. -/
abbrev Anyone (E : Type) : Type := Responder Client Http.Request (fun _ => Http.Answer) E

/-- A request that was sent, with the client that sent it, and the reply. -/
abbrev Asked : Type := Task.Asked Client Http.Request fun _ => Http.Answer

variable {α β E : Type}

/-- Work that begins with what asks nothing asks nothing, or goes on with the same session. -/
theorem Silent.bind_asked {P : α → Prop} {w : Work α} (hw : Silent SameSession P w) (k : α → Work β)
    (respond : Anyone E) (c : Client) (e : E) :
    (w >>= k).run.asked respond c e = [] ∨ ∃ c' a, SameSession c c' ∧ P a ∧
      (w >>= k).run.asked respond c e = (k a).run.asked respond c' e := by
  obtain ⟨c', outcome, halone, hsame, hgives⟩ :=
    Task.Local.alone SameSession.refl SameSession.trans hw respond c e
  rw [run_bind, Task.asked_bind, Task.Local.asked hw, halone]
  cases outcome with
  | error f => exact .inl rfl
  | ok a => exact .inr ⟨c', a, hsame, hgives a rfl, rfl⟩

end Client

namespace Api

open Client

variable {E : Type}

/-! ## One attempt -/

/-- A request that is built without a question is sent in the session in which it was built, if it is
sent at all. -/
theorem attempt_asked {P : Http.Request → Prop} {build : Work Http.Request}
    (hbuild : Silent SameSession P build) (token : Option String) (respond : Anyone E) (c : Client)
    (e : E) :
    (attempt build token).run.asked respond c e = [] ∨ ∃ c' r r', SameSession c c' ∧ P r ∧
      bearing token r = .ok r' ∧
      (attempt build token).run.asked respond c e = [⟨c', r', (respond r' e).2⟩] := by
  rw [attempt_eq]
  obtain hnone | ⟨c', r, hsame, hr, hasked⟩ := hbuild.bind_asked
    (fun r => Work.ofOutcome (bearing token r) >>= fetch) respond c e
  · exact .inl hnone
  · rw [hasked, ofOutcome_bind]
    cases hb : bearing token r with
    | error f => exact .inl rfl
    | ok r' => exact .inr ⟨c', r, r', hsame, hr, hb, rfl⟩

/-- An attempt is made if there is a request for it, and the token may stand in a header. -/
theorem Takes.attempt_asked {api : Api} {segments : List String} {body : Json}
    (h : Takes api segments body) {token : String} (htoken : Http.Headers.IsValue ("Bearer " ++ token))
    (respond : Anyone E) (c : Client) (e : E) :
    (attempt (api.requestWith .post segments body) (some token)).run.asked respond c e ≠ [] := by
  obtain ⟨r, hr, hmade⟩ := h.requestWith respond c e .post rfl
  have hroom : (r.headers.without "Authorization").size < 100 := by
    rw [hr.headers_eq]
    decide +kernel
  obtain ⟨r', hb⟩ := exists_bearing htoken hroom
  have hbuild := requestWith_made SameSession.made api .post segments body
  rw [attempt_eq, run_bind, Task.asked_bind, Task.Local.asked hbuild, hmade, List.nil_append, andThen,
    ofOutcome_bind, hb]
  exact List.cons_ne_nil _ _

/-- An exchange is asked for in the session as it is, if it is asked for at all. -/
theorem exchange_asked (api : Api) (token : String) (respond : Anyone E) (c : Client) (e : E) :
    (api.exchange token).run.asked respond c e = [] ∨ ∃ c' x, SameSession c c' ∧
      MadeWith api .post ["auth", "token", "refresh"] (refreshBody token) x ∧
      (api.exchange token).run.asked respond c e = [⟨c', x, (respond x e).2⟩] ∧
      ((api.exchange token).run.alone respond c e).result =
        valueOf x (respond x e).2.answer >>= newTokens token := by
  have hmade := requestWith_made SameSession.made api .post ["auth", "token", "refresh"] (refreshBody token)
  obtain ⟨c', outcome, halone, hsame, hgives⟩ :=
    Task.Local.alone SameSession.refl SameSession.trans hmade respond c e
  rw [exchange, run_bind, Task.asked_bind, Task.Local.asked hmade, Task.alone_bind, halone]
  cases outcome with
  | error f => exact .inl rfl
  | ok x =>
    refine .inr ⟨c', x, hsame, hgives x rfl, ?_⟩
    simp only [andThen, fetch_bind_run, Task.asked, Task.alone]
    cases valueOf x (respond x e).2.answer <;> exact ⟨rfl, rfl⟩

/-! ## Trying again -/

section
variable (api : Api) (build : Work Http.Request) (respond : Anyone E) (epoch : Nat) (c : Client) (e : E)

/-- What may be asked to try again in an epoch. -/
inductive Retried : List Asked → Prop
  /-- It is not tried again. -/
  | givenUp : Retried []
  /-- An exchange is asked for, and is of no use. -/
  | exchanged (token : String) : c.session.epoch = epoch →
      Retried ((api.exchange token).run.asked respond c e)
  /-- Somebody else has exchanged the tokens. -/
  | reused {tokens : TokenPair} : c.session.epoch = epoch → c.session.tokens? = some tokens →
      Retried ((attempt build (some tokens.access)).run.asked respond c e)
  /-- The tokens from an exchange are stored, and used. -/
  | repeated {token : String} {tokens : TokenPair} {c' : Client} : c.session.epoch = epoch →
      ((api.exchange token).run.alone respond c e).result = .ok tokens →
      c'.session.epoch = epoch → c'.session.tokens? = some tokens →
      Retried ((api.exchange token).run.asked respond c e ++
        (attempt build (some tokens.access)).run.asked respond c'
          ((api.exchange token).run.alone respond c e).responder)

end

section
variable {api : Api} {build : Work Http.Request} {respond : Anyone E} {c : Client} {e : E}

/-- A request whose token is not accepted goes on with what is decided on. -/
theorem afterAttempt_asked {f : Failure} (hf : f.isUnauthorized) (observed : Snapshot) :
    (onClient api build (Session.afterAttempt observed (.error f))).asked respond c e =
      (onClient api build ((Session.decideOn observed c.session).bind fun r =>
        .release (Session.again f r))).asked respond c e := by
  rw [Session.afterAttempt, if_pos hf, Session.refresh_bind]
  rfl

/-- Who gets a token makes a second attempt. -/
theorem again_asked (f : Failure) (access : String) :
    (onClient api build (.release (Session.again f (.ok access)))).asked respond c e =
      (attempt build (some access)).run.asked respond c e :=
  (Task.asked_within_ask respond _ _ c e).trans (List.append_nil _)

/-- Who takes the token of the session makes a second attempt with it, if there is one. -/
theorem reused_asked (f : Failure) :
    (onClient api build ((Task.act id fun s => .done (s.accessToken.elim (.error Session.ended) .ok)).bind
        fun r => .release (Session.again f r))).asked respond c e =
      match c.session.tokens? with
      | some tokens => (attempt build (some tokens.access)).run.asked respond c e
      | none => [] := by
  have hlook : (onClient api build ((Task.act id fun s =>
        .done (s.accessToken.elim (.error Session.ended) .ok)).bind
          fun r => .release (Session.again f r))).asked respond c e =
      (onClient api build (.release (Session.again f
        (c.session.accessToken.elim (.error Session.ended) .ok)))).asked respond c e := rfl
  rw [hlook, Session.accessToken_eq]
  cases c.session.tokens? with
  | none => rfl
  | some tokens => exact again_asked f tokens.access

/-- What has come of an exchange is settled, and a second attempt is made with the tokens that are
stored, or none. -/
theorem settle_asked (api : Api) (build : Work Http.Request) (respond : Anyone E) (c : Client) (e : E)
    (f : Failure) (epoch : Nat) (outcome : Outcome TokenPair) :
    (onClient api build ((Session.settle epoch outcome).bind fun r =>
        .release (Session.again f r))).asked respond c e = [] ∨
      ∃ tokens c', outcome = .ok tokens ∧ c'.session.epoch = epoch ∧ c'.session.tokens? = some tokens ∧
        (onClient api build ((Session.settle epoch outcome).bind fun r =>
            .release (Session.again f r))).asked respond c e =
          (attempt build (some tokens.access)).run.asked respond c' e := by
  cases outcome with
  | error g => exact .inl rfl
  | ok tokens =>
    have hsettle : (onClient api build ((Session.settle epoch (.ok tokens)).bind fun r =>
          .release (Session.again f r))).asked respond c e =
        (onClient api build (.release (Session.again f (c.session.exchanged epoch tokens)))).asked
          respond (onSession (Session.exchange epoch tokens) c) e := rfl
    rw [hsettle]
    by_cases he : c.session.epoch = epoch
    · cases hc : c.session.credential with
      | none =>
        have hexchanged : c.session.exchanged epoch tokens = .error Session.notSignedIn := by
          simp [Session.exchanged, he, Session.isSignedIn, hc]
        rw [hexchanged]
        exact .inl rfl
      | some credential =>
        have hin : c.session.isSignedIn := by rw [Session.isSignedIn, hc, Option.isSome_some]
        rw [Session.exchanged_of_eq he hin, again_asked]
        refine .inr ⟨tokens, _, rfl, ?_, ?_, rfl⟩
        · simp only [onSession, withSession, Session.exchange_of_eq he hc, he]
        · simp only [onSession, withSession, Session.exchange_of_eq he hc, Session.tokens?,
            Option.map_some]
    · rw [Session.exchanged_of_ne he]
      exact .inl rfl

/-- Who exchanges a token asks for that, and may make a second attempt. -/
theorem exchange_retried (f : Failure) {epoch : Nat} (he : c.session.epoch = epoch) (token : String) :
    Retried api build respond epoch c e
      ((onClient api build ((Task.ask (.exchange token) (Session.settle epoch)).bind fun r =>
        .release (Session.again f r))).asked respond c e) := by
  let swap := (api.exchange token).run.alone respond c e
  rw [Task.bind, onClient, Task.asked_within_ask]
  dsimp only [answer]
  obtain hnone | ⟨tokens, c', hresult, he', htokens, hasked⟩ :=
    settle_asked api build respond swap.state swap.responder f epoch swap.result
  · rw [hnone, List.append_nil]
    exact .exchanged token he
  · rw [hasked]
    exact .repeated he hresult he' htokens

/-- After the first attempt a request is tried again like this. -/
theorem afterAttempt_retried (observed : Snapshot) (outcome : Outcome Json) :
    Retried api build respond observed.epoch c e
      ((onClient api build (Session.afterAttempt observed outcome)).asked respond c e) := by
  cases outcome with
  | ok v => exact .givenUp
  | error f =>
    cases hf : f.isUnauthorized with
    | false =>
      simp only [Session.afterAttempt, hf]
      exact .givenUp
    | true =>
      rw [afterAttempt_asked hf]
      by_cases he : c.session.epoch = observed.epoch
      · by_cases hg : c.session.generation = observed.generation
        · cases ht : c.session.refreshToken with
          | none =>
            rw [Session.decideOn_of_none he hg ht]
            exact .givenUp
          | some token =>
            rw [Session.decideOn_of_some he hg ht]
            exact exchange_retried f he token
        · rw [Session.decideOn_of_generation_ne he hg, reused_asked]
          cases htokens : c.session.tokens? with
          | none => exact .givenUp
          | some tokens => exact .reused he htokens
      · rw [Session.decideOn_of_ne he]
        exact .givenUp

/-- A request in the name of the session makes its first attempt, and is tried again in the epoch in
which it began. -/
theorem authorizedWith_asked (api : Api) (build : Work Http.Request) (respond : Anyone E) (c : Client)
    (e : E) :
    ∃ c' e' rest, (api.authorizedWith build).run.asked respond c e =
        (attempt build c.session.accessToken).run.asked respond c e ++ rest ∧
      Retried api build respond c.session.epoch c' e' rest := by
  have hrun : (api.authorizedWith build).run = onClient api build Session.authorized := rfl
  let first := (attempt build c.session.accessToken).run.alone respond c e
  refine ⟨first.state, first.responder, _, ?_, afterAttempt_retried c.session.snapshot first.result⟩
  rw [hrun, Session.authorized_eq]
  exact Task.asked_within_ask respond _ _ c e

/-! ## In one epoch -/

/-- An attempt is made in the epoch as it is. -/
theorem attempt_epoch {P : Http.Request → Prop} (hbuild : Silent SameSession P build)
    (token : Option String) :
    ∀ x ∈ (attempt build token).run.asked respond c e, x.state.session.epoch = c.session.epoch := by
  obtain hnone | ⟨c', r, r', hsame, -, -, hasked⟩ := attempt_asked hbuild token respond c e
  · simp [hnone]
  · rw [hasked]
    exact List.forall_mem_singleton.2 (congrArg Session.epoch hsame)

theorem exchange_epoch (token : String) :
    ∀ x ∈ (api.exchange token).run.asked respond c e, x.state.session.epoch = c.session.epoch := by
  obtain hnone | ⟨c', x, hsame, -, hasked, -⟩ := exchange_asked api token respond c e
  · simp [hnone]
  · rw [hasked]
    exact List.forall_mem_singleton.2 (congrArg Session.epoch hsame)

/-- All that is asked for a request is asked in the epoch in which it began. -/
theorem authorizedWith_epoch (api : Api) {P : Http.Request → Prop} (hbuild : Silent SameSession P build) :
    ∀ x ∈ (api.authorizedWith build).run.asked respond c e, x.state.session.epoch = c.session.epoch := by
  obtain ⟨c', e', rest, hasked, hretried⟩ := authorizedWith_asked api build respond c e
  rw [hasked]
  refine List.forall_mem_append.2 ⟨attempt_epoch hbuild _, ?_⟩
  cases hretried with
  | givenUp => exact fun _ hx => absurd hx List.not_mem_nil
  | exchanged token he => exact he ▸ exchange_epoch token
  | reused he _ => exact he ▸ attempt_epoch hbuild _
  | repeated he _ he' _ =>
    exact List.forall_mem_append.2 ⟨he ▸ exchange_epoch _, he' ▸ attempt_epoch hbuild _⟩

/-- All that an operation asks is asked in the epoch in which it began. -/
theorem Calling.asked_epoch {α : Type} {W : Client → Client → Prop} {t : Step α} (h : Calling api W t) :
    ∀ x ∈ t.asked respond c e, x.state.session.epoch = c.session.epoch := by
  induction h generalizing c e with
  | quiet ht => simp [Task.Local.asked ht]
  | authorized r => exact authorizedWith_epoch api (silent_pure (P := fun _ => True) trivial)
  | before ht _ ih =>
    have hlocal := ht.mono (fun _ _ h => Aside.same h) fun _ => id
    obtain ⟨c', a, halone, hsame, -⟩ :=
      Task.Local.alone SameSession.refl SameSession.trans hlocal respond c e
    rw [Task.asked_bind, Task.Local.asked ht, halone]
    exact congrArg Session.epoch hsame ▸ ih a
  | after _ hf ih =>
    simp only [Task.asked_bind, Task.Local.asked (hf _), List.append_nil]
    exact ih

end

end Api

end TripClient
