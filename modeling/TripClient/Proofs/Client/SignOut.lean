import TripClient.Proofs.Client.Attempts
import TripClient.Proofs.Client.Caching
import TripClient.Proofs.Url.Endpoint

/-!
# Signing out

Who signs out asks for the tokens to be revoked, and the request says twice which: it bears the one to
make requests with, and carries the other one. Both are of the session in which it is sent
(`revocation_asked`), whatever became of the session before, so this is so for the second attempt after
the tokens were exchanged too (`endSession_farewell`). There is such a request first, if one can be made
(`logout_sends`). Whatever comes of it, the session ends and nothing is remembered (`logout_completes`).
-/

namespace TripClient.Api

open Client

variable {E : Type}

/-! ## What is sent -/

/-- The request goes to an endpoint. -/
def GoesTo (api : Api) (segments : List String) (x : Asked) : Prop :=
  api.endpoint segments [] = .ok x.question.address

/-- The request revokes the tokens of the session in which it is sent: it bears one and carries the
other. -/
structure Revokes (api : Api) (x : Asked) : Prop where
  method_eq : x.question.method = .post
  goes : GoesTo api ["auth", "logout"] x
  tokens : ∃ tokens, x.state.session.tokens? = some tokens ∧
    x.question.headers.get? "Authorization" = some ("Bearer " ++ tokens.access) ∧
    x.question.body = .json (refreshBody tokens.refresh).render

/-- The request is for an exchange of tokens, and those in its answer are the ones of the session in
which the next request is sent. -/
def Rotates (x z : Asked) : Prop :=
  ∃ token tokens, x.question.body = .json (refreshBody token).render ∧
    (valueOf x.question x.reply.answer >>= newTokens token) = .ok tokens ∧
    z.state.session.tokens? = some tokens

/-- All that is sent to sign out: a request to revoke the tokens, one for an exchange and one to revoke
the new tokens, as far as they are sent. -/
structure Farewell (api : Api) (asked : List Asked) (first swap second : Option Asked) : Prop where
  asked_eq : asked = first.toList ++ swap.toList ++ second.toList
  first_revokes : ∀ x ∈ first, Revokes api x
  swap_goes : ∀ x ∈ swap, GoesTo api ["auth", "token", "refresh"] x
  second_revokes : ∀ x ∈ second, Revokes api x
  rotates : ∀ x ∈ swap, ∀ z ∈ second, Rotates x z

theorem forall_mem_none {α : Type} (P : α → Prop) : ∀ x ∈ (none : Option α), P x :=
  fun x h => absurd h (Option.not_mem_none x)

theorem Farewell.nothing (api : Api) : Farewell api [] none none none :=
  ⟨rfl, forall_mem_none _, forall_mem_none _, forall_mem_none _, forall_mem_none _⟩

section
variable (api : Api) (respond : Anyone E) (c : Client) (e : E)

/-- Who revokes the tokens of a session looks at the session for the one to say. -/
theorem revocation_attempt {tokens : TokenPair} (hc : c.session.tokens? = some tokens)
    (token : Option String) :
    (attempt api.revocation token).run.asked respond c e =
      (attempt (api.requestWith .post ["auth", "logout"] (refreshBody tokens.refresh)) token).run.asked
        respond c e := by
  have hlook (outcome : Outcome String)
      (hfound : c.session.refreshToken.elim (.error Session.notSignedIn) .ok = outcome) :
      (attempt api.revocation token).run.asked respond c e =
        (Work.ofOutcome outcome >>= fun refresh =>
          attempt (api.requestWith .post ["auth", "logout"] (refreshBody refresh)) token).run.asked
            respond c e := by
    simp only [attempt_eq, revocation, bind_assoc, ← hfound]
    rfl
  have hfound : c.session.refreshToken.elim (.error Session.notSignedIn) .ok =
      (.ok tokens.refresh : Outcome String) := by
    rw [Session.refreshToken_eq, hc, Option.map_some, Option.elim_some]
  rw [hlook _ hfound, ofOutcome_bind, andThen]

/-- An attempt to revoke the tokens of the session sends no more than a request to do so. -/
theorem revocation_asked {tokens : TokenPair} (hc : c.session.tokens? = some tokens) :
    ∃ x : Option Asked, (attempt api.revocation (some tokens.access)).run.asked respond c e = x.toList ∧
      ∀ y ∈ x, Revokes api y ∧ y.state.session = c.session := by
  rw [revocation_attempt api respond c e hc]
  obtain hnone | ⟨c', r, r', hsame, hr, hb, hasked⟩ :=
    attempt_asked (requestWith_made SameSession.made api .post ["auth", "logout"]
      (refreshBody tokens.refresh)) (some tokens.access) respond c e
  · exact ⟨none, hnone, forall_mem_none _⟩
  · refine ⟨some _, hasked, ?_⟩
    rintro _ ⟨⟩
    have halike := bearing_alike hb
    refine ⟨⟨halike.method_eq.trans hr.method_eq, ?_, tokens, ?_, bearer_of_bearing hb,
      halike.body_eq.trans hr.body_eq⟩, hsame⟩
    · exact hr.address_eq.trans (congrArg Except.ok halike.address_eq.symm)
    · exact (congrArg Session.tokens? hsame).trans hc

/-- An exchange sends no more than a request for it. -/
theorem swap_asked (token : String) :
    ∃ x : Option Asked, (api.exchange token).run.asked respond c e = x.toList ∧
      ∀ y ∈ x, GoesTo api ["auth", "token", "refresh"] y ∧
        y.question.body = .json (refreshBody token).render ∧
        ((api.exchange token).run.alone respond c e).result =
          valueOf y.question y.reply.answer >>= newTokens token := by
  obtain hnone | ⟨c', r, -, hr, hasked, hresult⟩ := exchange_asked api token respond c e
  · exact ⟨none, hnone, forall_mem_none _⟩
  · refine ⟨some _, hasked, ?_⟩
    rintro _ ⟨⟩
    exact ⟨hr.address_eq, hr.body_eq, hresult⟩

/-- What is sent to try again is a request for an exchange, and one to revoke the tokens as they are
then. -/
theorem farewell_of_retried {epoch : Nat} {rest : List Asked}
    (h : Retried api api.revocation respond epoch c e rest) :
    ∃ swap second, Farewell api rest none swap second := by
  cases h with
  | givenUp => exact ⟨none, none, .nothing api⟩
  | exchanged token he =>
    obtain ⟨x, hasked, hx⟩ := swap_asked api respond c e token
    refine ⟨x, none, ?_, forall_mem_none _, fun y hy => (hx y hy).1, forall_mem_none _,
      fun _ _ => forall_mem_none _⟩
    rw [hasked, Option.toList_none, List.nil_append, List.append_nil]
  | reused he htokens =>
    obtain ⟨z, hasked, hz⟩ := revocation_asked api respond c e htokens
    exact ⟨none, z, hasked, forall_mem_none _, forall_mem_none _, fun y hy => (hz y hy).1,
      forall_mem_none _⟩
  | repeated he hresult he' htokens =>
    obtain ⟨x, hasked, hx⟩ := swap_asked api respond c e _
    obtain ⟨z, hasked', hz⟩ := revocation_asked api respond _ _ htokens
    refine ⟨x, z, ?_, forall_mem_none _, fun y hy => (hx y hy).1, fun y hy => (hz y hy).1,
      fun y hy y' hy' => ?_⟩
    · rw [hasked, hasked', Option.toList_none, List.nil_append]
    · obtain ⟨-, hbody, hanswer⟩ := hx y hy
      exact ⟨_, _, hbody, hanswer.symm.trans hresult, (hz y' hy').2 ▸ htokens⟩

variable {api respond c e}

/-- What is sent to try again may follow an attempt to revoke the tokens. -/
theorem Farewell.begin {rest : List Asked} {swap second : Option Asked}
    (h : Farewell api rest none swap second) {x : Option Asked} (hx : ∀ y ∈ x, Revokes api y) :
    Farewell api (x.toList ++ rest) x swap second where
  asked_eq := by rw [h.asked_eq, Option.toList_none, List.nil_append, List.append_assoc]
  first_revokes := hx
  swap_goes := h.swap_goes
  second_revokes := h.second_revokes
  rotates := h.rotates

variable (api respond c e)

/-- Nobody but who is signed in sends anything to end the session. -/
theorem endSession_asked :
    api.endSession.asked respond c e =
      if c.session.isSignedIn then (api.authorizedWith api.revocation).run.asked respond c e else [] := by
  rw [endSession_eq]
  dsimp only [Task.asked, id]
  split
  · rw [Task.asked_bind]
    exact List.append_nil _
  · rfl

/-- What is sent to end a session. -/
theorem endSession_farewell :
    ∃ first swap second, Farewell api (api.endSession.asked respond c e) first swap second := by
  rw [endSession_asked, Session.isSignedIn]
  cases hc : c.session.credential with
  | none =>
    exact ⟨none, none, none, .nothing api⟩
  | some credential =>
    have htokens : c.session.tokens? = some credential.tokens := by
      rw [Session.tokens?, hc, Option.map_some]
    obtain ⟨c', e', rest, hasked, hretried⟩ := authorizedWith_asked api api.revocation respond c e
    obtain ⟨x, hx, hrevokes⟩ := revocation_asked api respond c e htokens
    obtain ⟨swap, second, hrest⟩ := farewell_of_retried api respond c' e' hretried
    rw [Session.accessToken_eq, htokens, Option.map_some, hx] at hasked
    rw [Option.isSome_some, if_pos rfl, hasked]
    exact ⟨x, swap, second, hrest.begin fun y hy => (hrevokes y hy).1⟩

/-- Whoever is signed in is signed out, whatever comes of it. -/
theorem endSession_state :
    ∃ s, (api.endSession.alone respond c e).state.session = Session.signOut s := by
  rw [endSession_eq]
  dsimp only [Task.alone, id]
  split
  · rw [Task.alone_bind]
    exact ⟨_, rfl⟩
  · exact ⟨_, rfl⟩

/-- Who signs out ends the session, and forgets everything. -/
theorem logout_alone :
    api.logout.alone respond c e =
      let ended := api.endSession.alone respond c e
      { ended with state := forgetAll ended.state } := by
  have hlogout : api.logout = api.endSession.bind fun _ => clearCaches := rfl
  rw [hlogout, Task.alone_bind]
  refine congrArg (Solo.mk · _ _ _) (List.append_nil _)

theorem logout_asked : api.logout.asked respond c e = api.endSession.asked respond c e := by
  have hlogout : api.logout = api.endSession.bind fun _ => clearCaches := rfl
  rw [hlogout, Task.asked_bind]
  exact List.append_nil _

/-- Who is signed in asks first for the tokens of the session to be revoked, if there is a request for
that and they may stand in it. -/
theorem logout_sends {tokens : TokenPair} (hc : c.session.tokens? = some tokens)
    (htakes : Takes api ["auth", "logout"] (refreshBody tokens.refresh))
    (htoken : Http.Headers.IsValue ("Bearer " ++ tokens.access)) :
    ∃ x rest, api.logout.asked respond c e = x :: rest ∧ Revokes api x ∧
      x.state.session = c.session := by
  have hin : c.session.isSignedIn := by
    rw [Session.isSignedIn, ← Option.isSome_map (f := Credential.tokens)]
    exact Option.isSome_of_eq_some hc
  obtain ⟨c', e', rest, hasked, -⟩ := authorizedWith_asked api api.revocation respond c e
  obtain ⟨x, hx, hrevokes⟩ := revocation_asked api respond c e hc
  rw [logout_asked, endSession_asked, if_pos hin, hasked, Session.accessToken_eq, hc, Option.map_some, hx]
  cases x with
  | none =>
    rw [revocation_attempt api respond c e hc] at hx
    exact absurd hx (htakes.attempt_asked htoken respond c e)
  | some x => exact ⟨x, rest, rfl, hrevokes x rfl⟩

end

/-! ## Signed out for good -/

/-- What is promised of signing out. -/
structure LoggedOut (api : Api) (respond : Anyone E) (c : Client) (e : E) : Prop where
  /-- It finishes when it is run. -/
  finished : ∀ visits, ∃ k, ∀ limit, k ≤ limit → runAll respond limit [(visits, api.logout)] c e =
    ((api.logout.alone respond c e).state, (api.logout.alone respond c e).responder, [some ()])
  /-- Nobody is signed in. -/
  credential_eq : (api.logout.alone respond c e).state.session.credential = none
  status_eq : (api.logout.alone respond c e).state.session.status = .signedOut
  /-- Nothing is remembered. -/
  users_eq : (api.logout.alone respond c e).state.users.entries = []
  groups_eq : (api.logout.alone respond c e).state.groups.entries = []
  plans_eq : (api.logout.alone respond c e).state.plans.entries = []
  /-- Nothing is sent for nobody. -/
  unsent : c.session.isSignedIn = false → (api.logout.alone respond c e).said = []
  /-- There are no more than two requests to sign out. -/
  few : ∀ l : List Asked, l.Sublist (api.logout.asked respond c e) →
    (∀ x ∈ l, GoesTo api ["auth", "logout"] x) → l.length ≤ 2
  /-- Each of them revokes the tokens of the session in which it is sent. -/
  revokes : ∀ x ∈ api.logout.asked respond c e, GoesTo api ["auth", "logout"] x → Revokes api x
  /-- What follows an exchange revokes the new tokens. -/
  rotates : ∀ x z : Asked, [x, z].Sublist (api.logout.asked respond c e) →
    GoesTo api ["auth", "token", "refresh"] x → Revokes api z ∧ Rotates x z

/-- A request for an exchange does not go where a request to sign out goes. -/
theorem not_logout_of_exchange {api : Api} {x : Asked} (h : GoesTo api ["auth", "token", "refresh"] x) :
    ¬ GoesTo api ["auth", "logout"] x := fun h' =>
  api.endpoint_ne (List.cons_ne_nil _ _) (List.cons_ne_nil _ _) (by decide +kernel) (by decide +kernel)
    (by decide +kernel) h h' rfl

section
variable {api : Api} {asked : List Asked} {first swap second : Option Asked}

theorem length_toList_le {α : Type} (x : Option α) : x.toList.length ≤ 1 := by
  cases x with
  | none => exact Nat.zero_le 1
  | some a => exact Nat.le_refl 1

/-- There are no more than two requests to sign out. -/
theorem Farewell.length_le (h : Farewell api asked first swap second) {l : List Asked}
    (hl : l.Sublist asked) (hgo : ∀ x ∈ l, GoesTo api ["auth", "logout"] x) : l.length ≤ 2 := by
  rw [h.asked_eq] at hl
  obtain ⟨l₁₂, l₃, rfl, h₁₂, h₃⟩ := List.sublist_append_iff.1 hl
  obtain ⟨l₁, l₂, rfl, h₁, h₂⟩ := List.sublist_append_iff.1 h₁₂
  have hnone : l₂ = [] := by
    refine List.eq_nil_iff_forall_not_mem.2 fun x hx => ?_
    exact not_logout_of_exchange (h.swap_goes x (Option.mem_toList.1 (h₂.subset hx)))
      (hgo x (List.mem_append_left _ (List.mem_append_right _ hx)))
  have hfirst : l₁.length ≤ 1 := Nat.le_trans h₁.length_le (length_toList_le first)
  have hsecond : l₃.length ≤ 1 := Nat.le_trans h₃.length_le (length_toList_le second)
  rw [hnone, List.append_nil, List.length_append]
  omega

/-- Each request to sign out revokes the tokens of the session in which it is sent. -/
theorem Farewell.revokes (h : Farewell api asked first swap second) {x : Asked} (hx : x ∈ asked)
    (hgo : GoesTo api ["auth", "logout"] x) : Revokes api x := by
  rw [h.asked_eq, List.append_assoc, List.mem_append, List.mem_append] at hx
  rcases hx with hx | hx | hx
  · exact h.first_revokes x (Option.mem_toList.1 hx)
  · exact absurd hgo (not_logout_of_exchange (h.swap_goes x (Option.mem_toList.1 hx)))
  · exact h.second_revokes x (Option.mem_toList.1 hx)

/-- What follows an exchange revokes the new tokens. -/
theorem Farewell.rotates_of_sublist (h : Farewell api asked first swap second) {x z : Asked}
    (hxz : [x, z].Sublist asked) (hgo : GoesTo api ["auth", "token", "refresh"] x) :
    Revokes api z ∧ Rotates x z := by
  have hx : ¬ Revokes api x := fun hr => not_logout_of_exchange hgo hr.goes
  rw [h.asked_eq, List.append_assoc] at hxz
  obtain ⟨l, l', heq, hl, hl'⟩ := List.sublist_append_iff.1 hxz
  cases l with
  | cons y l =>
    obtain ⟨rfl, -⟩ := List.cons.inj heq
    exact absurd (h.first_revokes _ (Option.mem_toList.1 (hl.subset List.mem_cons_self))) hx
  | nil =>
    obtain rfl : [x, z] = l' := heq
    obtain ⟨m, m', heq, hm, hm'⟩ := List.sublist_append_iff.1 hl'
    cases m with
    | nil =>
      obtain rfl : [x, z] = m' := heq
      exact absurd (h.second_revokes _ (Option.mem_toList.1 (hm'.subset List.mem_cons_self))) hx
    | cons y m =>
      have hlength := Nat.le_trans hm.length_le (length_toList_le swap)
      obtain rfl : m = [] := by simpa using hlength
      obtain ⟨rfl, rfl⟩ : x = y ∧ [z] = m' := List.cons.inj heq
      have hswap := Option.mem_toList.1 (hm.subset List.mem_cons_self)
      have hsecond := Option.mem_toList.1 (hm'.subset List.mem_cons_self)
      exact ⟨h.second_revokes z hsecond, h.rotates x hswap z hsecond⟩

end

/-- Signing out takes the gate only to refresh, and gives it back. -/
theorem logout_orderly (api : Api) : api.logout.Orderly false false := by
  have hrevocation (held : Bool) : api.revocation.run.Orderly held held := by
    rw [revocation, run_bind]
    refine Task.Orderly.bind (t := Task.look _) (fun _ => rfl) fun outcome => ?_
    cases outcome with
    | error f => rfl
    | ok token =>
      exact (requestWith_made SameSession.made api .post ["auth", "logout"] (refreshBody token)).orderly held
  have hend : api.endSession.Orderly false false := by
    rw [endSession_eq]
    intro c
    dsimp only
    split
    · exact (authorizedWith_orderly api hrevocation).bind fun _ _ => rfl
    · exact fun _ => rfl
  exact hend.bind fun _ _ _ _ => rfl

/-- Whatever the session is, whatever is answered and whatever is done to the client meanwhile, who signs
out is signed out, and each request to do so revokes the tokens that were stored when it was sent. -/
theorem logout_completes (api : Api) (respond : Anyone E) (c : Client) (e : E) :
    LoggedOut api respond c e := by
  obtain ⟨first, swap, second, hfarewell⟩ := endSession_farewell api respond c e
  obtain ⟨s, hs⟩ := endSession_state api respond c e
  rw [← logout_asked] at hfarewell
  have hsession : (api.logout.alone respond c e).state.session = Session.signOut s := by
    rw [logout_alone]
    exact hs
  exact {
    finished := fun visits => runAll_singleton respond (logout_orderly api) visits c e
    credential_eq := by rw [hsession]; rfl
    status_eq := by rw [hsession]; rfl
    users_eq := by rw [logout_alone]; rfl
    groups_eq := by rw [logout_alone]; rfl
    plans_eq := by rw [logout_alone]; rfl
    unsent := fun hout => by
      rw [Task.said_eq_asked, logout_asked, endSession_asked, hout]
      rfl
    few := fun l hl hgo => hfarewell.length_le hl hgo
    revokes := fun x hx hgo => hfarewell.revokes hx hgo
    rotates := fun x z hxz hgo => hfarewell.rotates_of_sublist hxz hgo }

/-- With a token that is no longer accepted the new tokens are revoked as well. -/
example :
    let server := Renewed.server "\x7b\"access\":\"new\",\"refresh\":\"next\"\x7d" ""
    ((Renewed.api.logout.asked server.respond Renewed.client 0).map fun x =>
        (x.question.address.text, x.question.headers.get? "Authorization",
          x.state.session.tokens?.map (·.refresh))) =
      [("https://api.test/auth/logout/", some "Bearer old", some "spare"),
        ("https://api.test/auth/token/refresh/", none, some "spare"),
        ("https://api.test/auth/logout/", some "Bearer new", some "next")] := by
  decide +kernel

end TripClient.Api
