import TripClient.Proofs.Answer.Tokens
import TripClient.Proofs.Client.Course
import TripClient.Proofs.Client.Shape

/-!
# What goes over the wire

An operation other than to sign in or out sends nothing, one request, or one request that is followed
by an exchange of tokens and then perhaps by itself with the new token (`Wire`). A request in the name
of the session does so by its courses (`authorized_calls`); what comes before it and what comes after
it sends nothing, so whatever has the shape of an operation does so too (`Calling.calls`,
`perform_calls`). What follows for whole operations is `perform_traced`.
-/

namespace TripClient

namespace Http.Request

/-- The requests differ in their tokens at most. -/
structure Alike (r r' : Request) : Prop where
  method_eq : r'.method = r.method
  address_eq : r'.address = r.address
  headers_eq : r'.headers.without "Authorization" = r.headers.without "Authorization"
  body_eq : r'.body = r.body
  timeout_eq : r'.timeout = r.timeout
  id_eq : r'.id = r.id

theorem Alike.refl (r : Request) : Alike r r := ⟨rfl, rfl, rfl, rfl, rfl, rfl⟩

/-- Requests that are like a third are like one another. -/
theorem Alike.of_common {r r' r'' : Request} (h : Alike r r') (k : Alike r r'') : Alike r' r'' where
  method_eq := k.method_eq.trans h.method_eq.symm
  address_eq := k.address_eq.trans h.address_eq.symm
  headers_eq := k.headers_eq.trans h.headers_eq.symm
  body_eq := k.body_eq.trans h.body_eq.symm
  timeout_eq := k.timeout_eq.trans h.timeout_eq.symm
  id_eq := k.id_eq.trans h.id_eq.symm

/-- A token changes nothing else of a request. -/
theorem alike_of_withBearer {token : String} {r r' : Request} (h : r.withBearer token = .ok r') :
    Alike r r' := by
  obtain ⟨hheaders, heq⟩ := withHeader_eq h
  rw [heq]
  exact ⟨rfl, rfl, Headers.without_with? hheaders, rfl, rfl, rfl⟩

theorem bearer_of_withBearer {token : String} {r r' : Request} (h : r.withBearer token = .ok r') :
    r'.headers.get? "Authorization" = some ("Bearer " ++ token) :=
  Headers.get?_with? (withHeader_eq h).1

end Http.Request

namespace Api

open Client

variable {E α β : Type}

/-! ## What is sent -/

/-- That a request for an exchange of tokens may be sent: the first attempt was made in the session `s`,
and came to this. -/
structure Prompted (api : Api) (s : Session) (m : Session.Meanwhile Http.Answer) (r : Http.Request) :
    Prop where
  refused : ∃ response, m.answer = .ok response ∧ response.status = 401
  same_epoch : (Session.applyAll m.changes s).epoch = s.epoch
  signed_in : (Session.applyAll m.changes s).isSignedIn
  method_eq : r.method = .post
  address_eq : api.endpoint ["auth", "token", "refresh"] [] = .ok r.address
  anonymous : r.headers.get? "Authorization" = none
  body_eq : ∃ token, (Session.applyAll m.changes s).refreshToken = some token ∧
    r.body = .json (refreshBody token).render

/-- That a request may be sent once more: the first attempt was made in that epoch, the exchange began
in the session `s`, and came to this. -/
structure Granted (epoch : Nat) (s : Session) (m : Session.Meanwhile Http.Answer)
    (first exchange second : Http.Request) : Prop where
  fulfilled : ∃ response, m.answer = .ok response ∧ response.isSuccess
  bearer : ∃ v access refresh, valueOf exchange m.answer = .ok v ∧
    Tokens.find? v = some (access, refresh) ∧
    second.headers.get? "Authorization" = some ("Bearer " ++ access)
  same_epoch : (Session.applyAll m.changes s).epoch = epoch
  alike : first.Alike second

/-- What may be sent in one operation that finds the session `s`, and what is replied. -/
inductive Wire (api : Api) (o : Outside E) (s : Session) (e : E) : List Sent → Prop
  | nothing : Wire api o s e []
  | once (r : Http.Request) : Wire api o s e [⟨r, (o.respond r e).2⟩]
  | exchanged {r x : Http.Request} : Prompted api s (o r e).2 x →
      Wire api o s e [⟨r, (o.respond r e).2⟩, ⟨x, (o.respond x (o r e).1).2⟩]
  | repeated {r x r' : Http.Request} : Prompted api s (o r e).2 x →
      Granted s.epoch (Session.applyAll (o r e).2.changes s) (o x (o r e).1).2 r x r' →
      Wire api o s e [⟨r, (o.respond r e).2⟩, ⟨x, (o.respond x (o r e).1).2⟩,
        ⟨r', (o.respond r' (o x (o r e).1).1).2⟩]

/-- A transport failure or another status ends it all: only a 401 of the first request is followed by
another, and only a success of the second. -/
theorem Wire.followed {api : Api} {o : Outside E} {s : Session} {e : E} {said before after : List Sent}
    {r : Http.Request} {reply : Reply Client Http.Answer} (h : Wire api o s e said)
    (hsaid : said = before ++ ⟨r, reply⟩ :: after) (hafter : after ≠ []) :
    ∃ response, reply.answer = .ok response ∧
      (before = [] ∧ response.status = 401 ∨ before.length = 1 ∧ response.isSuccess) := by
  cases h with
  | nothing => simp at hsaid
  | once r₁ => match before, hsaid with
    | [], heq => cases heq; exact absurd rfl hafter
    | _ :: _, heq => simp at heq
  | exchanged hp => match before, hsaid with
    | [], heq =>
      cases heq
      obtain ⟨response, hanswer, hs⟩ := hp.refused
      exact ⟨response, hanswer, .inl ⟨rfl, hs⟩⟩
    | [_], heq => cases heq; exact absurd rfl hafter
    | _ :: _ :: _, heq => simp at heq
  | repeated hp hg => match before, hsaid with
    | [], heq =>
      cases heq
      obtain ⟨response, hanswer, hs⟩ := hp.refused
      exact ⟨response, hanswer, .inl ⟨rfl, hs⟩⟩
    | [_], heq =>
      cases heq
      obtain ⟨response, hanswer, hs⟩ := hg.fulfilled
      exact ⟨response, hanswer, .inr ⟨rfl, hs⟩⟩
    | [_, _], heq => cases heq; exact absurd rfl hafter
    | _ :: _ :: _ :: _, heq => simp at heq

/-! ## A request in the name of the session -/

theorem bearing_alike {token : Option String} {r r' : Http.Request} (h : bearing token r = .ok r') :
    r.Alike r' := by
  cases token with
  | none => cases h; exact .refl r
  | some t =>
    cases hw : r.withBearer t with
    | error e => rw [bearing, hw] at h; cases h
    | ok r'' => rw [bearing, hw] at h; cases h; exact Http.Request.alike_of_withBearer hw

theorem bearer_of_bearing {token : String} {r r' : Http.Request} (h : bearing (some token) r = .ok r') :
    r'.headers.get? "Authorization" = some ("Bearer " ++ token) := by
  cases hw : r.withBearer token with
  | error e => rw [bearing, hw] at h; cases h
  | ok r'' => rw [bearing, hw] at h; cases h; exact Http.Request.bearer_of_withBearer hw

theorem bearing_isUnauthorized {token : Option String} {r : Http.Request} {f : Failure}
    (h : bearing token r = .error f) : f.isUnauthorized = false := by
  cases token with
  | none => cases h
  | some t => exact mapError_isUnauthorized h

/-- A first attempt that is not accepted was sent. -/
theorem first_of_unauthorized {o : Outside E} {r : Http.Request} {c : Client} {e : E} {f : Failure}
    (hfirst : (first (pure r) o c e).result = .error f) (hf : f.isUnauthorized) :
    ∃ r₁, r.Alike r₁ ∧ first (pure r) o c e = (fetch r₁).run.alone o.respond c e ∧
      ∃ response, (o r₁ e).2.answer = .ok response ∧ response.status = 401 := by
  rw [first, attempt_alone] at hfirst ⊢
  cases hb : bearing c.session.snapshot.token r with
  | error g =>
    rw [hb] at hfirst
    cases hfirst
    exact nomatch (bearing_isUnauthorized hb).symm.trans hf
  | ok r₁ =>
    rw [hb] at hfirst
    exact ⟨r₁, bearing_alike hb, rfl, response_of_unauthorized hfirst hf⟩

section
variable {o : Outside E} {r r₁ : Http.Request} {c : Client} {e : E} {token : String}

/-- Where tokens are exchanged, the exchange is asked for as it may be. -/
theorem swap_said (api : Api) (hfirst : first (pure r) o c e = (fetch r₁).run.alone o.respond c e)
    (h401 : ∃ response, (o r₁ e).2.answer = .ok response ∧ response.status = 401)
    (he : (first (pure r) o c e).state.session.epoch = c.session.epoch)
    (ht : (first (pure r) o c e).state.session.refreshToken = some token) :
    ((swap api (pure r) o c e token).said = [] ∧
        ∃ f, (swap api (pure r) o c e token).result = .error f) ∨
      ∃ x c', Prompted api c.session (o r₁ e).2 x ∧
        c'.session = Session.applyAll (o r₁ e).2.changes c.session ∧
        swap api (pure r) o c e token =
          ⟨[⟨x, (o.respond x (o r₁ e).1).2⟩], (o.respond x (o r₁ e).1).2.meanwhile c',
            (o x (o r₁ e).1).1, valueOf x (o x (o r₁ e).1).2.answer >>= newTokens token⟩ := by
  rw [hfirst] at he ht
  unfold swap
  rw [hfirst]
  obtain ⟨c', hsame, ⟨f, hnone⟩ | ⟨x, hmade, hswap⟩⟩ := exchange_alone api o token
    ((fetch r₁).run.alone o.respond c e).state ((fetch r₁).run.alone o.respond c e).responder
  · exact .inl ⟨by rw [hnone], f, by rw [hnone]⟩
  · refine .inr ⟨x, c', ⟨h401, he, Session.isSignedIn_of_refreshToken ht, hmade.method_eq,
      hmade.address_eq, ?_, token, ht, hmade.body_eq⟩, hsame, hswap⟩
    rw [hmade.headers_eq]
    decide +kernel

end

/-- A request in the name of the session sends no more than is allowed. -/
theorem authorized_wire (api : Api) (r : Http.Request) (o : Outside E) (c : Client) (e : E) :
    Wire api o c.session e ((api.authorized r).run.alone o.respond c e).said := by
  have hbuild : (pure r : Work Http.Request).run.Within SameSession := trivial
  have hcourse := authorizedWith_course api hbuild o c e
  rw [authorized]
  generalize (api.authorizedWith (pure r)).run.alone o.respond c e = solo at hcourse
  cases hcourse with
  | stood hacc =>
    rw [first, attempt_alone]
    cases bearing c.session.snapshot.token r with
    | error f => exact .nothing
    | ok r₁ => exact .once r₁
  | refused hfirst hf _ =>
    obtain ⟨r₁, _, hsent, _⟩ := first_of_unauthorized hfirst hf
    rw [hsent]
    exact .once r₁
  | failed hfirst hf he ht _ =>
    obtain ⟨r₁, _, hsent, h401⟩ := first_of_unauthorized hfirst hf
    obtain ⟨hnone, _⟩ | ⟨x, c', hprompted, _, hswap⟩ := swap_said api hsent h401 he ht
    · rw [hsent, hnone]
      exact .once r₁
    · rw [hsent, hswap]
      exact .exchanged hprompted
  | @retried f token tokens hfirst hf he ht hx he' =>
    obtain ⟨r₁, halike, hsent, h401⟩ := first_of_unauthorized hfirst hf
    obtain ⟨_, g, hg⟩ | ⟨x, c', hprompted, hc', hswap⟩ := swap_said api hsent h401 he ht
    · exact nomatch hg.symm.trans hx
    · rw [hswap] at hx he'
      cases hv : valueOf x (o x (o r₁ e).1).2.answer with
      | error g => rw [hv] at hx; cases hx
      | ok v =>
        rw [hv] at hx
        obtain ⟨refresh, hfind, -⟩ := Tokens.exists_find?_of_newTokens hx
        rw [joined, second, attempt_alone, hsent, hswap]
        cases hb : bearing (some tokens.access) r with
        | error g => exact .exchanged hprompted
        | ok r' =>
          refine .repeated hprompted ⟨response_of_value hv,
            ⟨v, tokens.access, refresh, hv, hfind, bearer_of_bearing hb⟩, ?_,
            halike.of_common (bearing_alike hb)⟩
          rw [← hc']
          exact he'

/-- What comes of a first attempt that was not sent is no value. -/
theorem first_said {o : Outside E} {r : Http.Request} {c : Client} {e : E} {v : Json}
    (h : (first (pure r) o c e).result = .ok v) : (first (pure r) o c e).said ≠ [] := by
  rw [first, attempt_alone] at h ⊢
  cases hb : bearing c.session.snapshot.token r with
  | error f => rw [hb] at h; cases h
  | ok r₁ => exact List.cons_ne_nil _ _

/-- A value is the answer to something that was sent. -/
theorem authorized_said {api : Api} {r : Http.Request} {o : Outside E} {c : Client} {e : E} {v : Json}
    (h : ((api.authorized r).run.alone o.respond c e).result = .ok v) :
    ((api.authorized r).run.alone o.respond c e).said ≠ [] := by
  have hbuild : (pure r : Work Http.Request).run.Within SameSession := trivial
  have hcourse := authorizedWith_course api hbuild o c e
  rw [authorized] at h ⊢
  generalize (api.authorizedWith (pure r)).run.alone o.respond c e = solo at hcourse h
  cases hcourse with
  | stood _ => exact first_said h
  | refused hfirst _ _ => exact nomatch hfirst.symm.trans h
  | failed _ _ _ _ _ => cases h
  | retried hfirst hf _ _ _ _ =>
    obtain ⟨r₁, _, hsent, _⟩ := first_of_unauthorized hfirst hf
    rw [hsent]
    exact List.cons_ne_nil _ _

/-- What is made of a value was asked for. -/
theorem said_of_ok {P : Http.Request → Prop} {api : Api} {build : Work Http.Request}
    (hbuild : Silent SameSession P build) {read : Json → Outcome α} {o : Outside E} {c : Client} {e : E}
    {a : α}
    (h : ((build >>= fun r => api.authorized r >>= fun v => .ofOutcome (read v)).run.alone o.respond c
      e).result = .ok a) :
    ((build >>= fun r => api.authorized r >>= fun v => .ofOutcome (read v)).run.alone o.respond c e).said
      ≠ [] := by
  obtain ⟨c', -, ⟨f, hnone⟩ | ⟨r, -, halone⟩⟩ :=
    hbuild.bind_alone (fun r => api.authorized r >>= fun v => .ofOutcome (read v)) o c e
  · rw [hnone] at h
    cases h
  · rw [halone, run_bind, Task.alone_bind] at h ⊢
    dsimp only at h ⊢
    cases hv : ((api.authorized r).run.alone o.respond c' e).result with
    | error f => rw [hv] at h; cases h
    | ok v => exact List.append_ne_nil_of_left_ne_nil (authorized_said hv) _

/-- A thing that was got was asked for. -/
theorem item_said {api : Api} {d : Json.Decoder α} {segments : List String} {name : String}
    {o : Outside E} {c : Client} {e : E} {a : α}
    (h : ((api.item d segments name).run.alone o.respond c e).result = .ok a) :
    ((api.item d segments name).run.alone o.respond c e).said ≠ [] :=
  said_of_ok (request_made SameSession.made api .get segments []) h

/-! ## Operations that are put together from parts -/

/-- The task makes at most one request in the name of the session, with what belongs to it. -/
structure Calls (api : Api) (t : Step α) : Prop where
  orderly : t.Orderly false false
  wire : ∀ {E : Type} (o : Outside E) (c : Client) (e : E),
    Wire api o c.session e (t.alone o.respond c e).said

section
variable {api : Api} {R : Client → Client → Prop}

theorem authorized_calls (r : Http.Request) : Calls api (api.authorized r).run :=
  ⟨authorizedWith_orderly api fun _ => rfl, authorized_wire api r⟩

/-- What asks nothing sends nothing. -/
theorem Calls.of_local {P : α → Prop} {t : Step α} (ht : t.Local R P) : Calls api t := by
  refine ⟨ht.orderly false, fun o c e => ?_⟩
  rw [(ht.said o.respond c e).1]
  exact .nothing

/-- What asks nothing and leaves the session as it is may come before. -/
theorem Calls.of_bind {P : α → Prop} {t : Step α} {f : α → Step β} (ht : t.Local SameSession P)
    (hf : ∀ a, Calls api (f a)) : Calls api (t.bind f) := by
  refine ⟨(ht.orderly false).bind fun a => (hf a).orderly, fun o c e => ?_⟩
  obtain ⟨c', a, heq, hsame, -⟩ := ht.alone SameSession.refl SameSession.trans o.respond c e
  rw [Task.alone_bind, heq, ← hsame]
  exact (hf a).wire o c' e

/-- What asks nothing may come after. -/
theorem Calls.bind {P : β → Prop} {t : Step α} {f : α → Step β} (ht : Calls api t)
    (hf : ∀ a, (f a).Local R P) : Calls api (t.bind f) := by
  refine ⟨ht.orderly.bind fun a => (hf a).orderly false, fun o c e => ?_⟩
  rw [Task.alone_bind]
  simp only [((hf _).said o.respond _ _).1, List.append_nil]
  exact ht.wire o c e

/-- What has the shape of an operation does no more. -/
theorem Calling.calls {W : Client → Client → Prop} {t : Step α} (h : Calling api W t) : Calls api t := by
  induction h with
  | quiet ht => exact .of_local ht
  | authorized r => exact authorized_calls r
  | before ht _ ih => exact .of_bind (ht.mono (fun _ _ h => h.same) fun _ => id) ih
  | after _ hf ih => exact ih.bind hf

end

end Api

namespace Operation

open Client

variable {E : Type}

/-- All operations but to sign in or out make at most one request in the name of the session. -/
theorem perform_calls (api : Api) {op : Operation} (h : op.signsInOrOut = false) :
    api.Calls (op.perform api).run := by
  have hreads : op.Reads fun _ _ => True := by cases op <;> first | exact trivial | exact fun _ _ => trivial
  exact (perform_calling allows_all api h hreads).calls

/-- What is promised of an operation on its own, as far as requests are concerned. -/
structure Traced (api : Api) (op : Operation) (o : Outside E) (c : Client) (e : E) : Prop where
  /-- It finishes when it is run. -/
  finished : ∀ visits, ∃ k, ∀ limit, k ≤ limit →
    runAll o.respond limit [(visits, (op.perform api).run)] c e =
      (((op.perform api).run.alone o.respond c e).state,
        ((op.perform api).run.alone o.respond c e).responder,
        [some ((op.perform api).run.alone o.respond c e).result])
  /-- It sends nothing, one request, or one request and what may follow it. -/
  wire : Api.Wire api o c.session e ((op.perform api).run.alone o.respond c e).said
  /-- Nothing is sent after a transport failure, or a status that does not call for it. -/
  followed : ∀ before r reply after,
    ((op.perform api).run.alone o.respond c e).said = before ++ ⟨r, reply⟩ :: after → after ≠ [] →
    ∃ response, reply.answer = .ok response ∧
      (before = [] ∧ response.status = 401 ∨ before.length = 1 ∧ response.isSuccess)

/-- Whatever the session, whatever is answered, and however others change the session meanwhile, an
operation that signs nobody in or out sends what it may. -/
theorem perform_traced (api : Api) {op : Operation} (h : op.signsInOrOut = false) (o : Outside E)
    (c : Client) (e : E) : Traced api op o c e where
  finished visits := runAll_singleton o.respond (perform_calls api h).orderly visits c e
  wire := (perform_calls api h).wire o c e
  followed _ _ _ _ := ((perform_calls api h).wire o c e).followed

end Operation

/-! ## A token that is no longer accepted -/

namespace Renewed

open Client

/-- Where the server is. -/
def api : Api :=
  ⟨⟨"https".toList, some ⟨[], none, .name "api.test".toList, none⟩, .segments [[]], none, none⟩,
    30000, 120000⟩

/-- Who is signed in. -/
def lan : Profile := ⟨⟨"1"⟩, "lan", none, none, none, none⟩

/-- The client, with tokens of which the first is no longer accepted. -/
def client : Client := onSession (Session.signIn ⟨"old", "spare"⟩ lan) (.start .usual)

/-- The server refuses the first request, answers the second with tokens, and the others with a value. -/
def server (tokens value : String) : Outside Nat := fun r n =>
  let body := if n = 1 then tokens else value
  (n + 1, ⟨0, [], .ok ⟨if n = 0 then 401 else 200, .empty, body.toUTF8, r.id, 1⟩⟩)

/-- What the server says to who lists groups. -/
def listing : Outside Nat := server "\x7b\"access\":\"new\"\x7d" "[]"

/-- Groups are listed: the request is refused, the token exchanged, and the request made once more. -/
theorem groups_traced :
    Operation.groups.signsInOrOut = false ∧ Operation.Traced api .groups listing client 0 ∧
      (((Operation.groups.perform api).run.alone listing.respond client 0).said.map fun x =>
          (x.question.method, x.question.address.text, x.question.headers.entries)) =
        [(.get, "https://api.test/groups/", [("Authorization", "Bearer old")]),
          (.post, "https://api.test/auth/token/refresh/", [("Content-Type", "application/json")]),
          (.get, "https://api.test/groups/", [("Authorization", "Bearer new")])] :=
  ⟨rfl, Operation.perform_traced api rfl listing client 0, by decide +kernel⟩

end Renewed

end TripClient
