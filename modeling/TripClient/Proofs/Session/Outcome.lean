import TripClient.Proofs.Session.Refreshing

/-!
# What comes of a refresh

A refresh is followed from a session in which it has got the gate to its result, whatever is answered
and whatever others do to the session while its exchange is under way (`Outside`). What comes of it
bears only on the session that it was made for (`refresh_outcome`): in an epoch that is over nothing is
changed, and in its own epoch either the tokens are replaced and nothing else, or the session ends.

Within an epoch others change the profile at most (`applyAll_of_epoch_eq`), so who comes back in it
still finds somebody signed in.
-/

namespace TripClient.Session

variable {β E : Type}

/-! ## Parts of a refresh -/

/-- A refresh on its own does what is decided on when it has the gate. -/
theorem refresh_alone (respond : Responder Session (Question β) Answer E) (observed : Snapshot)
    (s : Session) (e : E) :
    (refresh observed).alone respond s e = (decideOn observed s).alone respond s e := by
  simp [refresh_eq, Task.alone, Task.alone_bind]

/-- Nothing is asked to settle an exchange. -/
theorem settle_said (respond : Responder Session (Question β) Answer E) (epoch : Nat)
    (answer : Outcome TokenPair) (s : Session) (e : E) :
    ((settle epoch answer).alone respond s e).said = [] := by
  cases answer <;> rfl

/-! ## The outcome -/

/-- What an exchange makes of the session in which it was begun and of what others have changed in it
meanwhile. -/
structure Settled (observed : Snapshot) (s : Session) (changes : List Change)
    (answer : Outcome TokenPair) (after : Session) (result : Outcome String) : Prop where
  /-- Tokens that come too late are not installed. -/
  late_tokens : ∀ tokens, answer = .ok tokens → (applyAll changes s).epoch ≠ observed.epoch →
    result = .error ended ∧ after = applyAll changes s
  /-- A failure that comes too late signs nobody out. -/
  late_failure : ∀ f, answer = .error f → (applyAll changes s).epoch ≠ observed.epoch →
    result = .error f ∧ after = applyAll changes s
  /-- New tokens replace the old ones, and nothing else. -/
  swapped : ∀ tokens, answer = .ok tokens → (applyAll changes s).epoch = observed.epoch →
    result = .ok tokens.access ∧ ∃ user, (applyAll changes s).user = some user ∧
      after = { applyAll changes s with
        credential := some ⟨tokens, user⟩
        generation := (applyAll changes s).generation + 1 }
  /-- A failure ends the session. -/
  expired : ∀ f, answer = .error f → (applyAll changes s).epoch = observed.epoch →
    result = .error f ∧ after =
      { credential := none
        epoch := (applyAll changes s).epoch + 1
        generation := (applyAll changes s).generation + 1
        status := .expired
        notices := (applyAll changes s).notices + 1 }
  /-- In the same epoch others have changed the profile at most. -/
  kept : (applyAll changes s).epoch = observed.epoch → ∃ c, s.credential = some c ∧
    applyAll changes s =
      { s with credential := some { c with user := lastProfile changes c.user } }
  /-- Nobody who comes back with tokens finds the session signed out. -/
  found : ∀ tokens, answer = .ok tokens → result ≠ .error notSignedIn

/-- What a refresh does on its own, from a session in which it has got the gate. -/
structure Refreshed (o : Outside β E) (observed : Snapshot) (s : Session) (e : E)
    (solo : Solo Session (Question β) Answer E (Outcome String)) : Prop where
  /-- It finishes when it is run. -/
  finished : ∀ visits, ∃ k, ∀ limit, k ≤ limit →
    runAll o.respond limit [(visits, refresh observed)] s e =
      (solo.state, solo.responder, [some solo.result])
  /-- In another epoch nothing is done. -/
  late : s.epoch ≠ observed.epoch →
    solo.said = [] ∧ solo.state = s ∧ solo.result = .error ended
  /-- In another generation the token of the session is taken. -/
  reused : s.epoch = observed.epoch → s.generation ≠ observed.generation →
    solo.said = [] ∧ solo.state = s ∧ solo.result = s.accessToken.elim (.error ended) .ok
  signed_out : s.epoch = observed.epoch → s.generation = observed.generation →
    s.refreshToken = none → solo.said = [] ∧ solo.state = s ∧ solo.result = .error notSignedIn
  /-- Otherwise the tokens are exchanged once. -/
  exchanged : ∀ token, s.epoch = observed.epoch → s.generation = observed.generation →
    s.refreshToken = some token →
    solo.said = [⟨.exchange token, (o.respond (.exchange token) e).2⟩] ∧
      Settled observed s (o (.exchange token) e).2.changes (o (.exchange token) e).2.answer
        solo.state solo.result

/-- Whoever comes back from an exchange settles it. -/
theorem settled {observed : Snapshot} {s : Session} {c : Credential}
    (respond : Responder Session (Question β) Answer E) (he : s.epoch = observed.epoch)
    (hc : s.credential = some c) (changes : List Change) (answer : Outcome TokenPair) (e : E) :
    Settled observed s changes answer
      ((settle observed.epoch answer).alone respond (applyAll changes s) e).state
      ((settle observed.epoch answer).alone respond (applyAll changes s) e).result := by
  have hkept (h : (applyAll changes s).epoch = observed.epoch) : applyAll changes s =
      { s with credential := some { c with user := lastProfile changes c.user } } := by
    rw [applyAll_of_epoch_eq (h.trans he.symm), hc, Option.map_some]
  have hleft (h : (applyAll changes s).epoch = observed.epoch) : (applyAll changes s).credential =
      some { c with user := lastProfile changes c.user } := by rw [hkept h]
  have hin (h : (applyAll changes s).epoch = observed.epoch) : (applyAll changes s).isSignedIn := by
    rw [isSignedIn, hleft h, Option.isSome_some]
  constructor
  · rintro tokens rfl hne
    exact ⟨exchanged_of_ne hne tokens, exchange_of_ne hne tokens⟩
  · rintro f rfl hne
    exact ⟨rfl, expire_of_ne hne⟩
  · rintro tokens rfl heq
    refine ⟨exchanged_of_eq heq (hin heq) tokens, lastProfile changes c.user, ?_, ?_⟩
    · rw [user, hleft heq, Option.map_some]
    · exact exchange_of_eq heq (hleft heq) tokens
  · rintro f rfl heq
    exact ⟨rfl, if_pos heq⟩
  · exact fun heq => ⟨c, hc, hkept heq⟩
  · rintro tokens rfl hresult
    have hexchanged : (applyAll changes s).exchanged observed.epoch tokens = .error notSignedIn :=
      hresult
    by_cases heq : (applyAll changes s).epoch = observed.epoch
    · rw [exchanged_of_eq heq (hin heq) tokens] at hexchanged
      cases hexchanged
    · exact ended_ne_notSignedIn
        (Except.error.inj ((exchanged_of_ne heq tokens).symm.trans hexchanged))

/-- However others change the session while its exchange is under way, and whatever the exchange
answers, a refresh bears only on the session of the snapshot that it was made for. -/
theorem refresh_outcome (o : Outside β E) (observed : Snapshot) (s : Session) (e : E) :
    Refreshed o observed s e ((refresh observed).alone o.respond s e) := by
  refine ⟨fun visits => runAll_singleton o.respond (refresh_orderly observed) visits s e,
    ?_, ?_, ?_, ?_⟩ <;>
    rw [refresh_alone]
  · intro he
    rw [decideOn_of_ne he]
    exact ⟨rfl, rfl, rfl⟩
  · intro he hg
    rw [decideOn_of_generation_ne he hg]
    exact ⟨rfl, rfl, rfl⟩
  · intro he hg ht
    rw [decideOn_of_none he hg ht]
    exact ⟨rfl, rfl, rfl⟩
  · intro token he hg ht
    obtain ⟨c, hc, -⟩ := Option.map_eq_some_iff.1 ht
    rw [decideOn_of_some he hg ht]
    refine ⟨congrArg (List.cons _) ?_, ?_⟩
    · exact settle_said o.respond observed.epoch _ _ _
    · exact settled o.respond he hc _ _ _

end TripClient.Session
