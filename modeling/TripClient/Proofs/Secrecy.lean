import TripClient.Proofs.Client.Secrecy

/-!
# Tokens stay secret

Whoever uses a client calls operations and refreshes, changes its session, and sees what the calls give,
what observers are told, the counters, and what the client and its tokens are in messages
(`Client.View`). Two clients whose sessions differ only in their tokens may be used in the same way: with
the same calls and changes of the session, which take their steps in the same order, whatever it is, and
with the same answers to requests that are the same but for the tokens (`Secrets.Moves`). Then the same
is seen of both (`secrets_kept`).

There is one thing that is not the same. A refresh gives a token; who comes too late for the exchange is
handed out the token of the session as it is then, and if that is the one with which the session began,
it is another in each client (`Letters.own_token_handed_out`). No other token differs.
-/

namespace TripClient

open Interleaving

namespace Client

/-! ## What is seen of a client -/

/-- What can be seen of a client. -/
structure View where
  status : SessionStatus
  notices : Nat
  epoch : Nat
  generation : Nat
  user : Option Profile
  users : Cache UserId Profile
  groups : Cache GroupId Group
  plans : Cache PlanId Plan
  made : Nat
  /-- The session in messages. -/
  session : String
  /-- The token to make requests with, in messages. -/
  access : Option String
  /-- The token to get the next two with, in messages. -/
  refresh : Option String
  /-- Both tokens in messages. -/
  tokens : Option String
  /-- Who is signed in, in messages. -/
  credential : Option String

/-- What can be seen of the client. -/
def view (c : Client) : View where
  status := c.session.status
  notices := c.session.notices
  epoch := c.session.epoch
  generation := c.session.generation
  user := c.session.user
  users := c.users
  groups := c.groups
  plans := c.plans
  made := c.made
  session := c.session.summary
  access := c.session.accessToken.map fun _ => TokenPair.hiddenAccess
  refresh := c.session.refreshToken.map fun _ => TokenPair.hiddenRefresh
  tokens := c.session.tokens?.map TokenPair.summary
  credential := c.session.credential.map Credential.summary

/-- A call on a client. -/
inductive Call where
  | operation (op : Operation)
  | refresh (observed : Snapshot)

/-- What a call gives. -/
inductive Return where
  | value (outcome : Outcome Json)
  | token (outcome : Outcome String)

/-- Carries out a call. A refresh makes no request in the name of the session, so what such a request
would be does not matter. -/
def Call.task (api : Api) : Call → Step Return
  | operation op => (op.perform api).run.bind fun outcome => .done (.value outcome)
  | refresh observed =>
    ((Session.refresh observed).within Client.session withSession
      (api.answer (Work.ofOutcome (.error Session.ended)))).bind fun outcome => .done (.token outcome)

/-- A client that is used, and all that has happened to it. -/
abbrev Used : Type := World Call Session.Change Client Http.Request (fun _ => Http.Answer) Return

/-- What happens next to a client that is used. -/
abbrev Use : Type := Move Call Session.Change Http.Request fun _ => Http.Answer

/-- Uses a client. -/
def use (api : Api) (c : Client) (uses : List Use) : Used :=
  Interleaving.run (Call.task api) (fun change => onSession change.apply) c uses

/-- What the calls have given so far, in the order in which they were made. -/
def Used.returns (u : Used) : List (Option Return) := u.tasks.map fun p => p.2.result?

/-- What could be seen of the client from then to now, the latest first. -/
def Used.views (u : Used) : List View := u.seen.map view

end Client

namespace Secrets

open Client

/-- The clients are used in the same way, and answered in the same way where requests are the same but
for the tokens. -/
inductive Moves (k : Secrets) : Use → Use → Prop
  | operation (op : Operation) : Moves k (.join (.operation op)) (.join (.operation op))
  | refresh {observed observed' : Snapshot} : observed'.epoch = observed.epoch →
      observed'.generation = observed.generation →
      Moves k (.join (.refresh observed)) (.join (.refresh observed'))
  | change (change : Session.Change) : Moves k (.change change) (.change change)
  | go (n : Nat) : Moves k (.go n) (.go n)
  | answer (n : Nat) {answers answers' : Http.Request → Http.Answer} :
      (∀ r r', k.Requests r r' → answers r = answers' r') →
      Moves k (.answer n answers) (.answer n answers')

/-- Calls have given the same. The tokens of refreshes are the same, or they are those with which the
sessions began. -/
inductive Returns (k : Secrets) : Return → Return → Prop
  | value (outcome : Outcome Json) : Returns k (.value outcome) (.value outcome)
  | token {outcome outcome' : Outcome String} : OutcomesAlike k.Access outcome outcome' →
      Returns k (.token outcome) (.token outcome')

/-- What has come of two uses. -/
structure Kept (k : Secrets) (u u' : Used) : Prop where
  /-- The same calls have come to an end, with the same values and failures. -/
  returns : List.Forall₂ (Option.Rel k.Returns) u.returns u'.returns
  /-- At every moment the same could be seen. -/
  views_eq : u'.views = u.views

variable {k : Secrets}

/-- Clients that are the same but for their tokens look the same. -/
theorem Clients.view_eq {c c' : Client} (h : k.Clients c c') : c'.view = c.view := by
  have hs := h.session
  have haccess : c.session.accessToken.map (fun _ => TokenPair.hiddenAccess) =
      c'.session.accessToken.map fun _ => TokenPair.hiddenAccess :=
    eq_of_rel (rel_map hs.accessToken fun _ _ _ => rfl)
  have hrefresh : c.session.refreshToken.map (fun _ => TokenPair.hiddenRefresh) =
      c'.session.refreshToken.map fun _ => TokenPair.hiddenRefresh :=
    eq_of_rel (rel_map hs.refreshToken fun _ _ _ => rfl)
  have htokens : c.session.tokens?.map TokenPair.summary = c'.session.tokens?.map TokenPair.summary :=
    eq_of_rel (rel_map hs.tokens? fun _ _ _ => rfl)
  have hcredential : c.session.credential.map Credential.summary =
      c'.session.credential.map Credential.summary :=
    eq_of_rel (rel_map hs.credential fun _ _ hc => hc.summary_eq.symm)
  rw [view, view, hs.status_eq, hs.notices_eq, hs.epoch_eq, hs.generation_eq, hs.user_eq,
    h.users_eq, h.groups_eq, h.plans_eq, h.made_eq, hs.summary_eq, haccess, hrefresh, htokens, hcredential]

theorem call_twin (api : Api) {call call' : Call} (h : k.Moves (.join call) (.join call')) :
    Task.Twin k.onClients k.Returns (call.task api) (call'.task api) := by
  cases h with
  | operation op =>
    refine (perform_conceals api op).run.bind fun outcome _ hx => ?_
    obtain rfl := hx.eq
    exact .done (.value outcome)
  | refresh he hg =>
    exact (within_twin (works_ofOutcome (.error _)) api (refresh_twin _ _ he hg)).bind
      fun _ _ hx => .done (.token hx)

theorem Moves.twin (api : Api) {move move' : Use} (h : k.Moves move move') :
    Move.Twin k.onClients k.Returns (Call.task api) (Call.task api)
      (fun change => onSession change.apply) move move' := by
  cases h with
  | operation op => exact .join (call_twin api (.operation op))
  | refresh he hg => exact .join (call_twin api (.refresh he hg))
  | change c => exact .change (onSession_alike fun _ _ hs => hs.apply c)
  | go n => exact .go n
  | answer n ha => exact .answer n ha

/-- Clients that cannot be told apart have given the same, and have looked the same at every moment. -/
theorem kept_of_twin {u u' : Used} (h : u.Twin k.onClients k.Returns u') : k.Kept u u' where
  returns := List.forall₂_map_left_iff.2 (List.forall₂_map_right_iff.2
    (h.tasks.imp fun _ _ hp => hp.result?))
  views_eq := by
    have hseen : List.Forall₂ k.Clients u.seen u'.seen :=
      .cons h.state (List.forall₂_map_left_iff.2 (List.forall₂_map_right_iff.2 h.past))
    have hviews : List.Forall₂ (· = ·) u.views u'.views :=
      List.forall₂_map_left_iff.2 (List.forall₂_map_right_iff.2
        (hseen.imp fun _ _ hc => hc.view_eq.symm))
    rw [List.forall₂_eq_eq_eq] at hviews
    exact hviews.symm

/-- Two clients whose sessions differ only in their tokens, used and answered in the same way, give the
same values and the same failures, but for a token with which each session began and which a refresh
hands out, and the same can be seen of them at every moment. -/
theorem secrets_kept (k : Secrets) (api : Api) (c : Client) (user : Profile)
    (hc : c.session.credential = some ⟨k.first, user⟩) {uses uses' : List Use}
    (huses : List.Forall₂ k.Moves uses uses') :
    k.Kept (c.use api uses)
      ((c.withSession { c.session with credential := some ⟨k.second, user⟩ }).use api uses') := by
  have hclients : k.Clients c
      (c.withSession { c.session with credential := some ⟨k.second, user⟩ }) := by
    refine ⟨⟨?_, rfl, rfl, rfl, rfl⟩, rfl, rfl, rfl, rfl⟩
    rw [hc]
    exact .some ⟨⟨.inr ⟨rfl, rfl⟩, .inr ⟨rfl, rfl⟩⟩, rfl⟩
  exact kept_of_twin (run_twin hclients (huses.imp fun _ _ => Moves.twin api))

namespace Letters

/-- Where the server is. -/
def api : Api :=
  ⟨⟨"https".toList, some ⟨[], none, .name "api.test".toList, none⟩, .segments [[]], none, none⟩,
    30000, 120000⟩

/-- Who is signed in. -/
def user : Profile := ⟨⟨"1"⟩, "lan", none, none, none, none⟩

/-- A token of one letter fits into requests. -/
theorem fits_of_letter {token : String} {c : Char} (hc : c ≠ '\r' ∧ c ≠ '\n' ∧ c ≠ '\x00')
    (htoken : token.toList = [c]) (hsize : token.utf8ByteSize ≤ 8000) : TokenFits token := by
  refine ⟨hsize, ?_⟩
  rw [htoken]
  exact List.forall_mem_singleton.2 hc

/-- The tokens of two clients. -/
def tokens : Secrets where
  first := ⟨"a", "r"⟩
  second := ⟨"b", "s"⟩
  first_fits := ⟨fits_of_letter (by decide) rfl (by decide), fits_of_letter (by decide) rfl (by decide)⟩
  second_fits := ⟨fits_of_letter (by decide) rfl (by decide), fits_of_letter (by decide) rfl (by decide)⟩

/-- The one client; its tokens have been exchanged once. -/
def client : Client :=
  (Client.start .usual).withSession ⟨some ⟨tokens.first, user⟩, 1, 2, .signedIn user.id, 1⟩

/-- The other client. -/
def other : Client :=
  client.withSession { client.session with credential := some ⟨tokens.second, user⟩ }

/-- What the server says to the request of the first call. -/
def reply (status : Nat) (body : String) : Use :=
  .answer 0 fun r => .ok ⟨status, .empty, body.toUTF8, r.id, 1⟩

/-- Groups are listed. The token is not accepted any more; it is exchanged for another, which is. -/
def listing : List Use :=
  [.join (.operation .groups), .go 0, .go 0, .go 0, reply 401 "", .go 0, .go 0, .go 0, .go 0,
    reply 200 "\x7b\"access\":\"c\"\x7d", .go 0, .go 0, .go 0, reply 200 "[]"]

/-- The one client exchanges its tokens and lists the groups, and nothing else is seen of the other. -/
theorem listing_kept :
    client.session.credential = some ⟨tokens.first, user⟩ ∧ List.Forall₂ tokens.Moves listing listing ∧
      (client.use api listing).state.session.generation = 3 ∧
      tokens.Kept (client.use api listing) (other.use api listing) := by
  have hreply (status : Nat) (body : String) : tokens.Moves (reply status body) (reply status body) :=
    .answer 0 fun r r' h => by rw [h.id_eq]
  have huses : List.Forall₂ tokens.Moves listing listing := by
    have hlist : tokens.Moves (.join (.operation .groups)) (.join (.operation .groups)) :=
      .operation .groups
    have hgo : tokens.Moves (.go 0) (.go 0) := .go 0
    simp [listing, List.forall₂_same, hlist, hgo, hreply]
  exact ⟨rfl, huses, by decide +kernel, secrets_kept tokens api client user rfl huses⟩

/-- Somebody refreshes for whom the tokens are those from before their exchange. -/
def late : List Use := [.join (.refresh ⟨some "old", 1, 1⟩), .go 0, .go 0, .go 0, .go 0]

/-- Who refreshes too late gets the token of the session, and so not the same token from both clients. -/
theorem own_token_handed_out :
    client.session.credential = some ⟨tokens.first, user⟩ ∧ List.Forall₂ tokens.Moves late late ∧
      (client.use api late).returns = [some (.token (.ok "a"))] ∧
      (other.use api late).returns = [some (.token (.ok "b"))] := by
  refine ⟨rfl, ?_, rfl, rfl⟩
  exact .cons (.refresh rfl rfl) (.cons (.go 0) (.cons (.go 0) (.cons (.go 0) (.cons (.go 0) .nil))))

end Letters

end Secrets

end TripClient
