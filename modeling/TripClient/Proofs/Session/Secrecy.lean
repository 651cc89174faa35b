import TripClient.Proofs.Session.Refreshing
import TripClient.Proofs.Twin

/-!
# What a session shows of its tokens

Two sessions that differ only in the tokens they began with (`Secrets`) stay so whatever is done to both
of them (`Sessions.apply`, `Sessions.exchange`, `Sessions.expire`): a token that comes later is the same
in both. What a session shows of a token is whether there is one. So a refresh in the one and a refresh
in the other are twins (`refresh_twin`), and give tokens that are the same, or those that each session
began with; and a request in the name of the one gives what it gives in the name of the other
(`authorized_twin`).
-/

namespace TripClient

/-! ## Tokens -/

/-- A token that a request can carry. -/
structure TokenFits (token : String) : Prop where
  size_le : token.utf8ByteSize ≤ 8000
  plain : ∀ c ∈ token.toList, c ≠ '\r' ∧ c ≠ '\n' ∧ c ≠ '\x00'

/-- Tokens that requests can carry. -/
structure TokenPair.Fits (tokens : TokenPair) : Prop where
  access : TokenFits tokens.access
  refresh : TokenFits tokens.refresh

/-- The tokens that two sessions begin with. -/
structure Secrets where
  first : TokenPair
  second : TokenPair
  first_fits : first.Fits
  second_fits : second.Fits

namespace Secrets

variable (k : Secrets)

/-- One token to make requests with, or that of each session. -/
def Access (t t' : String) : Prop := t = t' ∨ t = k.first.access ∧ t' = k.second.access

/-- One token to get the next two with, or that of each session. -/
def Renewal (t t' : String) : Prop := t = t' ∨ t = k.first.refresh ∧ t' = k.second.refresh

/-- Tokens each of which is one, or that of each session. -/
structure Pairs (tokens tokens' : TokenPair) : Prop where
  access : k.Access tokens.access tokens'.access
  refresh : k.Renewal tokens.refresh tokens'.refresh

/-- One user is signed in, with tokens of which each is one, or that of each session. -/
structure Credentials (c c' : Credential) : Prop where
  tokens : k.Pairs c.tokens c'.tokens
  user_eq : c'.user = c.user

/-- The sessions are the same but for the tokens that they began with. -/
structure Sessions (s s' : Session) : Prop where
  credential : Option.Rel k.Credentials s.credential s'.credential
  epoch_eq : s'.epoch = s.epoch
  generation_eq : s'.generation = s.generation
  status_eq : s'.status = s.status
  notices_eq : s'.notices = s.notices

variable {k : Secrets}

theorem Pairs.refl (tokens : TokenPair) : k.Pairs tokens tokens := ⟨.inl rfl, .inl rfl⟩

theorem Credentials.summary_eq {c c' : Credential} (h : k.Credentials c c') : c'.summary = c.summary := by
  unfold Credential.summary
  rw [h.user_eq]

/-! ## Sessions -/

namespace Sessions

variable {s s' : Session}

theorem tokens? (h : k.Sessions s s') : Option.Rel k.Pairs s.tokens? s'.tokens? :=
  rel_map h.credential fun _ _ hc => hc.tokens

theorem accessToken (h : k.Sessions s s') : Option.Rel k.Access s.accessToken s'.accessToken :=
  rel_map h.credential fun _ _ hc => hc.tokens.access

theorem refreshToken (h : k.Sessions s s') : Option.Rel k.Renewal s.refreshToken s'.refreshToken :=
  rel_map h.credential fun _ _ hc => hc.tokens.refresh

theorem isSignedIn_eq (h : k.Sessions s s') : s'.isSignedIn = s.isSignedIn :=
  (isSome_eq_of_rel h.credential).symm

theorem user_eq (h : k.Sessions s s') : s'.user = s.user :=
  (eq_of_rel (rel_map h.credential fun _ _ hc => hc.user_eq.symm)).symm

theorem summary_eq (h : k.Sessions s s') : s'.summary = s.summary := by
  unfold Session.summary
  rw [h.isSignedIn_eq, h.epoch_eq, h.generation_eq]

theorem signIn (h : k.Sessions s s') (tokens : TokenPair) (user : Profile) :
    k.Sessions (s.signIn tokens user) (s'.signIn tokens user) where
  credential := .some ⟨.refl tokens, rfl⟩
  epoch_eq := congrArg (· + 1) h.epoch_eq
  generation_eq := congrArg (· + 1) h.generation_eq
  status_eq := rfl
  notices_eq := congrArg (· + 1) h.notices_eq

theorem finish (h : k.Sessions s s') (status : SessionStatus) :
    k.Sessions (s.finish status) (s'.finish status) where
  credential := .none
  epoch_eq := congrArg (· + 1) h.epoch_eq
  generation_eq := congrArg (· + 1) h.generation_eq
  status_eq := rfl
  notices_eq := congrArg (· + 1) h.notices_eq

theorem setUser (h : k.Sessions s s') (user : Profile) :
    k.Sessions (s.setUser user) (s'.setUser user) where
  credential := rel_map h.credential fun _ _ hc => ⟨hc.tokens, rfl⟩
  epoch_eq := h.epoch_eq
  generation_eq := h.generation_eq
  status_eq := h.status_eq
  notices_eq := h.notices_eq

theorem expire (h : k.Sessions s s') (epoch : Nat) : k.Sessions (s.expire epoch) (s'.expire epoch) := by
  unfold Session.expire
  rw [h.epoch_eq]
  split
  · exact h.finish .expired
  · exact h

/-- Tokens that replace those of both sessions are the same, but for what they keep. -/
theorem exchange (h : k.Sessions s s') (epoch : Nat) {tokens tokens' : TokenPair}
    (ht : k.Pairs tokens tokens') : k.Sessions (s.exchange epoch tokens) (s'.exchange epoch tokens') := by
  by_cases he : s.epoch = epoch
  · have hc := h.credential
    unfold Session.exchange
    generalize s.credential = credential at hc ⊢
    generalize s'.credential = credential' at hc ⊢
    cases hc with
    | none => exact h
    | some hc =>
      simp only [h.epoch_eq, he, if_true]
      exact ⟨.some ⟨ht, hc.user_eq⟩, rfl, congrArg (· + 1) h.generation_eq, h.status_eq, h.notices_eq⟩
  · rw [Session.exchange_of_ne he, Session.exchange_of_ne (h.epoch_eq ▸ he)]
    exact h

/-- Who comes back with tokens gets one, or fails, in both sessions alike. -/
theorem exchanged (h : k.Sessions s s') (epoch : Nat) {tokens tokens' : TokenPair}
    (ht : k.Pairs tokens tokens') :
    OutcomesAlike k.Access (s.exchanged epoch tokens) (s'.exchanged epoch tokens') := by
  unfold Session.exchanged
  rw [h.epoch_eq, h.isSignedIn_eq]
  split
  · exact .error _
  split
  · exact .ok ht.access
  · exact .error _

/-- Whatever others do is done to both. -/
theorem apply (h : k.Sessions s s') (c : Session.Change) : k.Sessions (c.apply s) (c.apply s') := by
  cases c with
  | signIn tokens user => exact h.signIn tokens user
  | signOut => exact h.finish .signedOut
  | setUser user => exact h.setUser user

end Sessions

/-! ## Requests -/

variable {β : Type}

/-- Questions that say the same but for the tokens. -/
inductive Questions (k : Secrets) : Session.Question β → Session.Question β → Prop
  | attempt {t t' : Option String} : Option.Rel k.Access t t' → Questions k (.attempt t) (.attempt t')
  | exchange {t t' : String} : k.Renewal t t' → Questions k (.exchange t) (.exchange t')

/-- Attempts are answered in the same way, and exchanges too, but for what is kept of the old tokens. -/
def Answers (k : Secrets) : (q q' : Session.Question β) → Session.Answer q → Session.Answer q' → Prop
  | .attempt _, .attempt _, a, a' => OutcomesAlike (· = ·) a a'
  | .exchange _, .exchange _, a, a' => OutcomesAlike k.Pairs a a'
  | _, _, _, _ => False

/-- What is not told apart of a session. -/
def onSessions (k : Secrets) (β : Type) : Likeness Session (Session.Question β) Session.Answer :=
  ⟨k.Sessions, k.Questions, k.Answers⟩

open Session

theorem settle_twin (epoch : Nat) {answer answer' : Outcome TokenPair}
    (h : OutcomesAlike k.Pairs answer answer') :
    Task.Twin (k.onSessions β) (OutcomesAlike k.Access) (settle epoch answer) (settle epoch answer') := by
  cases h with
  | ok ht =>
    exact .act (fun s s' hs => hs.exchange epoch ht) fun s s' hs => .done (hs.exchanged epoch ht)
  | error f => exact .act (fun s s' hs => hs.expire epoch) fun _ _ _ => .done (.error f)

theorem decideOn_twin {observed observed' : Snapshot} (he : observed'.epoch = observed.epoch)
    (hg : observed'.generation = observed.generation) {s s' : Session} (hs : k.Sessions s s') :
    Task.Twin (k.onSessions β) (OutcomesAlike k.Access) (decideOn observed s) (decideOn observed' s') := by
  unfold decideOn
  rw [he, hg, hs.epoch_eq, hs.generation_eq]
  split
  · exact .done (.error ended)
  split
  · exact .act (fun _ _ hs => hs) fun s s' hs => .done (.of_rel hs.accessToken ended)
  · have ht := hs.refreshToken
    generalize s.refreshToken = token at ht ⊢
    generalize s'.refreshToken = token' at ht ⊢
    cases ht with
    | none => exact .done (.error notSignedIn)
    | some ht => exact .ask (.exchange ht) fun _ _ ha => settle_twin _ ha

/-- Refreshes for what was observed at the same time give tokens alike, or fail in the same way. -/
theorem refresh_twin (observed observed' : Snapshot) (he : observed'.epoch = observed.epoch)
    (hg : observed'.generation = observed.generation) :
    Task.Twin (k.onSessions β) (OutcomesAlike k.Access) (refresh observed) (refresh observed') := by
  rw [refresh_eq, refresh_eq]
  exact .acquire (.act (fun _ _ hs => hs) fun s s' hs =>
    (decideOn_twin he hg hs).bind fun _ _ hr => .release (.done hr))

/-- A request in the name of the session gives the same in both. -/
theorem authorized_twin :
    Task.Twin (k.onSessions β) (OutcomesAlike (· = ·)) authorized authorized := by
  rw [authorized_eq]
  refine .act (fun _ _ hs => hs) fun s s' hs => .ask (.attempt hs.accessToken) fun _ _ ha => ?_
  cases ha with
  | ok hb => exact .done (.ok hb)
  | error f =>
    by_cases hf : f.isUnauthorized
    · simp only [afterAttempt, if_pos hf]
      -- The snapshots were taken at the same time; only their tokens may differ.
      refine (refresh_twin s.snapshot s'.snapshot hs.epoch_eq hs.generation_eq).bind fun _ _ hr => ?_
      cases hr with
      | ok ht => exact .ask (.attempt (.some ht)) fun _ _ ha => .done ha
      | error g => exact .done (.error f)
    · simp only [afterAttempt, if_neg hf]
      exact .done (.error f)

end Secrets

end TripClient
