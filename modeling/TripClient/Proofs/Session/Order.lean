import TripClient.Schedule
import TripClient.Session.Refresh

/-!
# The order of sessions

`Leads s t` says of two states of the session what `t` may have become if `s` came before it: neither
counter falls, the tokens stay within a generation, and nobody signs out or in within an epoch.
Whatever is done to a session leads on from it (`Change.leads`, `leads_exchange`, `leads_expire`).
Others can end a session or begin one only by moving the epoch on, so within an epoch they change the
profile at most (`applyAll_of_epoch_eq`). Whoever comes back from an exchange leaves the generation in
which it began behind, whatever has happened meanwhile (`generation_lt_exchange`,
`generation_lt_expire`).
-/

namespace TripClient.Session

variable {β E : Type}

/-! ## What others do -/

/-- What others do to the session while a request is under way. -/
inductive Change where
  | signIn (tokens : TokenPair) (user : Profile)
  | signOut
  | setUser (user : Profile)
  deriving DecidableEq

/-- The session after the change. -/
def Change.apply : Change → Session → Session
  | .signIn tokens user => Session.signIn tokens user
  | .signOut => Session.signOut
  | .setUser user => Session.setUser user

/-- The session after changes one after the other. -/
def applyAll (changes : List Change) (s : Session) : Session :=
  changes.foldl (fun s c => c.apply s) s

/-- What happens while a question is open: for how many visits it is, what others do to the session,
and the answer. -/
structure Meanwhile (R : Type) where
  delay : Nat
  changes : List Change
  answer : R

/-- Who answers the questions of a request, and what others do until then. -/
abbrev Outside (β E : Type) : Type := (q : Question β) → E → E × Meanwhile (Answer q)

/-- What comes from outside, for a task. -/
def Outside.respond (o : Outside β E) : Responder Session (Question β) Answer E := fun q e =>
  ((o q e).1, ⟨(o q e).2.delay, applyAll (o q e).2.changes, (o q e).2.answer⟩)

/-! ## What comes of an exchange -/

/-- Tokens are not installed in another epoch. -/
theorem exchange_of_ne {s : Session} {epoch : Nat} (h : s.epoch ≠ epoch) (tokens : TokenPair) :
    s.exchange epoch tokens = s := by
  unfold exchange
  split
  · exact if_neg h
  · rfl

/-- In their epoch tokens replace the old ones, and nothing else. -/
theorem exchange_of_eq {s : Session} {epoch : Nat} {c : Credential} (h : s.epoch = epoch)
    (hc : s.credential = some c) (tokens : TokenPair) :
    s.exchange epoch tokens =
      { s with credential := some { c with tokens }, generation := s.generation + 1 } := by
  simp [exchange, hc, h]

/-- Who comes back with tokens in another epoch gets none. -/
theorem exchanged_of_ne {s : Session} {epoch : Nat} (h : s.epoch ≠ epoch) (tokens : TokenPair) :
    s.exchanged epoch tokens = .error ended :=
  if_pos h

/-- Who comes back with tokens in their epoch gets the one to make requests with. -/
theorem exchanged_of_eq {s : Session} {epoch : Nat} (h : s.epoch = epoch) (hin : s.isSignedIn)
    (tokens : TokenPair) : s.exchanged epoch tokens = .ok tokens.access := by
  simp [exchanged, h, hin]

theorem ended_ne_notSignedIn : ended ≠ notSignedIn := by
  simp [ended, notSignedIn, Failure.unauthorized, Failure.ofKind]

/-- Another epoch is not ended. -/
theorem expire_of_ne {s : Session} {epoch : Nat} (h : s.epoch ≠ epoch) : s.expire epoch = s :=
  if_neg h

/-! ## The order -/

/-- The tokens of the session. -/
def tokens? (s : Session) : Option TokenPair := s.credential.map (·.tokens)

theorem accessToken_eq (s : Session) : s.accessToken = s.tokens?.map (·.access) := by
  simp [accessToken, tokens?, Function.comp_def]

theorem refreshToken_eq (s : Session) : s.refreshToken = s.tokens?.map (·.refresh) := by
  simp [refreshToken, tokens?, Function.comp_def]

/-- Who has a token to exchange is signed in. -/
theorem isSignedIn_of_refreshToken {s : Session} {token : String} (h : s.refreshToken = some token) :
    s.isSignedIn := by
  obtain ⟨c, hc, -⟩ := Option.map_eq_some_iff.1 h
  rw [isSignedIn, hc, Option.isSome_some]

/-- The second session may have come of the first. -/
structure Leads (s t : Session) : Prop where
  epoch_le : s.epoch ≤ t.epoch
  generation_le : s.generation ≤ t.generation
  epoch_eq : s.generation = t.generation → s.epoch = t.epoch
  tokens_eq : s.generation = t.generation → s.tokens? = t.tokens?
  signedIn_eq : s.epoch = t.epoch → s.isSignedIn = t.isSignedIn

theorem Leads.refl (s : Session) : Leads s s :=
  ⟨Nat.le_refl _, Nat.le_refl _, fun _ => rfl, fun _ => rfl, fun _ => rfl⟩

theorem Leads.trans {s t u : Session} (h : Leads s t) (k : Leads t u) : Leads s u where
  epoch_le := Nat.le_trans h.epoch_le k.epoch_le
  generation_le := Nat.le_trans h.generation_le k.generation_le
  epoch_eq hg := by
    have hst : s.generation = t.generation :=
      Nat.le_antisymm h.generation_le (hg ▸ k.generation_le)
    exact (h.epoch_eq hst).trans (k.epoch_eq (hst.symm.trans hg))
  tokens_eq hg := by
    have hst : s.generation = t.generation :=
      Nat.le_antisymm h.generation_le (hg ▸ k.generation_le)
    exact (h.tokens_eq hst).trans (k.tokens_eq (hst.symm.trans hg))
  signedIn_eq he := by
    have hst : s.epoch = t.epoch := Nat.le_antisymm h.epoch_le (he ▸ k.epoch_le)
    exact (h.signedIn_eq hst).trans (k.signedIn_eq (hst.symm.trans he))

/-- A session in which both counters have moved on may have come of the one before. -/
theorem Leads.of_lt {s t : Session} (he : s.epoch < t.epoch) (hg : s.generation < t.generation) :
    Leads s t :=
  ⟨Nat.le_of_lt he, Nat.le_of_lt hg, fun h => absurd h (Nat.ne_of_lt hg),
    fun h => absurd h (Nat.ne_of_lt hg), fun h => absurd h (Nat.ne_of_lt he)⟩

/-! ## What is done to a session leads on from it -/

theorem leads_finish (status : SessionStatus) (s : Session) : Leads s (s.finish status) :=
  .of_lt (Nat.lt_succ_self _) (Nat.lt_succ_self _)

theorem Change.leads (c : Change) (s : Session) : Leads s (c.apply s) := by
  cases c with
  | signIn tokens user => exact .of_lt (Nat.lt_succ_self _) (Nat.lt_succ_self _)
  | signOut => exact leads_finish _ s
  | setUser user =>
    refine ⟨Nat.le_refl _, Nat.le_refl _, fun _ => rfl, fun _ => ?_, fun _ => ?_⟩
    · simp [Change.apply, Session.setUser, tokens?, Function.comp_def]
    · simp [Change.apply, Session.setUser, isSignedIn]

theorem leads_applyAll (changes : List Change) (s : Session) : Leads s (applyAll changes s) := by
  induction changes generalizing s with
  | nil => exact .refl s
  | cons c changes ih => exact (c.leads s).trans (ih _)

theorem leads_expire (epoch : Nat) (s : Session) : Leads s (s.expire epoch) := by
  unfold expire
  split
  · exact leads_finish _ s
  · exact .refl s

theorem leads_exchange (epoch : Nat) (tokens : TokenPair) (s : Session) :
    Leads s (s.exchange epoch tokens) := by
  unfold exchange
  split
  · next c hc =>
    split
    · refine ⟨Nat.le_refl _, Nat.le_succ _, fun h => ?_, fun h => ?_, fun _ => ?_⟩
      · exact absurd h (Nat.ne_of_lt (Nat.lt_succ_self _))
      · exact absurd h (Nat.ne_of_lt (Nat.lt_succ_self _))
      · simp [isSignedIn, hc]
    · exact .refl s
  · exact .refl s

/-! ## Within an epoch -/

/-- The profile after changes that leave it to the same person. -/
def lastProfile (changes : List Change) (user : Profile) : Profile :=
  changes.foldl (fun user c => match c with | .setUser user' => user' | _ => user) user

/-- Within an epoch others change the profile at most. -/
theorem applyAll_of_epoch_eq {changes : List Change} {s : Session}
    (h : (applyAll changes s).epoch = s.epoch) :
    applyAll changes s =
      { s with credential := s.credential.map fun c => { c with user := lastProfile changes c.user } } := by
  induction changes generalizing s with
  | nil => simp [applyAll, lastProfile]
  | cons c changes ih =>
    -- The later changes do not bring the epoch back, so the first has not moved it on.
    have hle : (c.apply s).epoch ≤ s.epoch := h ▸ (leads_applyAll changes (c.apply s)).epoch_le
    cases c with
    | signIn tokens user => exact absurd hle (Nat.not_succ_le_self _)
    | signOut => exact absurd hle (Nat.not_succ_le_self _)
    | setUser user =>
      refine (ih (s := (Change.setUser user).apply s) h).trans ?_
      simp [Change.apply, Session.setUser, lastProfile, Function.comp_def]

/-- Within an epoch others do not exchange tokens. -/
theorem generation_applyAll {changes : List Change} {s : Session}
    (h : (applyAll changes s).epoch = s.epoch) : (applyAll changes s).generation = s.generation := by
  rw [applyAll_of_epoch_eq h]

/-! ## Who comes back moves the generation on -/

/-- A session that another led to is in a later generation, unless it is in the same epoch. -/
theorem Leads.generation_lt {s t : Session} (h : Leads s t) (he : t.epoch ≠ s.epoch) :
    s.generation < t.generation :=
  Nat.lt_of_le_of_ne h.generation_le fun hg => he (h.epoch_eq hg).symm

/-- When an exchange has failed, the generation in which it was begun is over: either the session ends
now, or it had ended before. -/
theorem generation_lt_expire {s t : Session} (h : Leads s t) :
    s.generation < (t.expire s.epoch).generation := by
  unfold expire
  split
  · exact Nat.lt_succ_of_le h.generation_le
  · next he => exact h.generation_lt he

/-- When an exchange has succeeded, the generation in which it was begun is over: either the tokens are
replaced now, or the session had ended before. -/
theorem generation_lt_exchange {s t : Session} (h : Leads s t) (hs : s.isSignedIn)
    (tokens : TokenPair) : s.generation < (t.exchange s.epoch tokens).generation := by
  unfold exchange
  split
  · split
    · exact Nat.lt_succ_of_le h.generation_le
    · next he => exact h.generation_lt he
  · next hc =>
    refine h.generation_lt fun he => ?_
    have ht : t.isSignedIn := (h.signedIn_eq he.symm) ▸ hs
    simp [isSignedIn, hc] at ht

end TripClient.Session
