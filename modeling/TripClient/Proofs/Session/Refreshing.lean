import TripClient.Proofs.Alone
import TripClient.Proofs.Interleaving
import TripClient.Proofs.Session.Order

/-!
# The steps of a refresh

`refresh` and `authorized` are the sequences of steps that `refresh_eq` and `authorized_eq` say. A task
that gets a token by `refresh` and goes on with it is, at every step, in one of a few phases (`Phase`).
`Phase.Next` says for each phase what comes next, with the session and the gate before and after, and
nothing else does (`Phase.turns`). So what is shown of the phases is shown of `refresh`.
-/

namespace TripClient.Session

open Interleaving

variable {β γ : Type}

/-! ## The parts of a refresh -/

/-- What is done with the answer of who was asked for new tokens. -/
def settle (epoch : Nat) : Outcome TokenPair → Work β (Outcome String)
  | .ok tokens => .act (exchange epoch tokens) fun s => .done (s.exchanged epoch tokens)
  | .error f => .act (expire epoch) fun _ => .done (.error f)

/-- What is done by who holds the gate and has found the session as it is. -/
def decideOn (observed : Snapshot) (s : Session) : Work β (Outcome String) :=
  if s.epoch ≠ observed.epoch then .done (.error ended)
  else if s.generation ≠ observed.generation then
    .act id fun s => .done (s.accessToken.elim (.error ended) .ok)
  else match s.refreshToken with
    | none => .done (.error notSignedIn)
    | some token => .ask (.exchange token) (settle observed.epoch)

section
variable {observed : Snapshot} {s : Session}

/-- In another epoch there is no token. -/
theorem decideOn_of_ne (h : s.epoch ≠ observed.epoch) :
    (decideOn observed s : Work β _) = .done (.error ended) :=
  if_pos h

/-- In another generation the token of the session is taken. -/
theorem decideOn_of_generation_ne (he : s.epoch = observed.epoch)
    (hg : s.generation ≠ observed.generation) : (decideOn observed s : Work β _) =
      .act id fun s => .done (s.accessToken.elim (.error ended) .ok) := by
  simp [decideOn, he, hg]

/-- Who is not signed in has no tokens to exchange. -/
theorem decideOn_of_none (he : s.epoch = observed.epoch) (hg : s.generation = observed.generation)
    (ht : s.refreshToken = none) :
    (decideOn observed s : Work β _) = .done (.error notSignedIn) := by
  simp [decideOn, he, hg, ht]

/-- Otherwise the tokens are exchanged. -/
theorem decideOn_of_some {token : String} (he : s.epoch = observed.epoch)
    (hg : s.generation = observed.generation) (ht : s.refreshToken = some token) :
    (decideOn observed s : Work β _) = .ask (.exchange token) (settle observed.epoch) := by
  simp [decideOn, he, hg, ht]

end

theorem exchangeTokens_eq (epoch : Nat) (token : String) :
    (exchangeTokens epoch token : Work β _) = .ask (.exchange token) (settle epoch) := by
  refine congrArg (Task.ask (Question.exchange token)) (funext fun answer => ?_)
  cases answer <;> rfl

theorem refresh_eq (observed : Snapshot) :
    (refresh observed : Work β _) =
      .acquire (.act id fun s => (decideOn observed s).bind fun r => .release (.done r)) := by
  unfold refresh
  simp only [exchangeTokens_eq]
  rfl

/-- A refresh, and what follows it. -/
theorem refresh_bind (observed : Snapshot) (k : Outcome String → Work β γ) :
    (refresh observed).bind k =
      .acquire (.act id fun s => (decideOn observed s).bind fun r => .release (k r)) := by
  simp only [refresh_eq, Task.bind, Task.bind_bind]

/-- A refresh leads on from the session at every step. -/
theorem refresh_within (observed : Snapshot) : (refresh observed : Work β _).Within Leads := by
  rw [refresh_eq]
  refine ⟨Leads.refl, fun s => Task.Within.bind ?_ fun r => trivial⟩
  unfold decideOn
  split
  · trivial
  split
  · exact ⟨Leads.refl, fun _ => trivial⟩
  split
  · trivial
  · rintro (f | tokens)
    · exact ⟨leads_expire _, fun _ => trivial⟩
    · exact ⟨leads_exchange _ _, fun _ => trivial⟩

/-- What is decided on by who holds the gate leaves it held. -/
theorem decideOn_orderly (observed : Snapshot) (s : Session) :
    (decideOn observed s : Work β _).Orderly true true := by
  unfold decideOn
  split
  · rfl
  split
  · exact fun _ => rfl
  split
  · rfl
  · rintro (f | tokens) <;> exact fun _ => rfl

/-- A refresh takes the gate once, and gives it back. -/
theorem refresh_orderly (observed : Snapshot) :
    (refresh observed : Work β _).Orderly false false := by
  rw [refresh_eq]
  exact fun s => (decideOn_orderly observed s).bind fun _ => rfl

/-! ## The parts of a request -/

/-- What is done with what came of the refresh, for a request that failed before. -/
def again (f : Failure) : Outcome String → Work β (Outcome β)
  | .ok token => .ask (.attempt (some token)) .done
  | .error _ => .done (.error f)

/-- What is done with what came of the first attempt. -/
def afterAttempt (observed : Snapshot) : Outcome β → Work β (Outcome β)
  | .ok b => .done (.ok b)
  | .error f =>
    if f.isUnauthorized then (refresh observed).bind (again f) else .done (.error f)

theorem authorized_eq :
    (authorized : Work β _) =
      .act id fun s => .ask (.attempt s.snapshot.token) (afterAttempt s.snapshot) := by
  refine congrArg (Task.act id) (funext fun s => congrArg (Task.ask _) (funext fun answer => ?_))
  cases answer with
  | ok b => rfl
  | error f =>
    refine ite_congr rfl (fun _ => congrArg (Task.bind (refresh s.snapshot)) ?_) fun _ => rfl
    funext r
    cases r <;> rfl

/-- A request leads on from the session at every step. -/
theorem authorized_within : (authorized : Work β _).Within Leads := by
  rw [authorized_eq]
  refine ⟨Leads.refl, fun s answer => ?_⟩
  cases answer with
  | ok b => trivial
  | error f =>
    rw [afterAttempt]
    split
    · refine (refresh_within s.snapshot).bind fun r => ?_
      cases r with
      | ok token => exact fun _ => trivial
      | error g => trivial
    · trivial

/-! ## Phases -/

/-- How far a task has come that gets a token and goes on with it. -/
inductive Phase where
  /-- It has not got the gate yet. -/
  | waiting
  /-- It has the gate, and has not looked at the session. -/
  | entered
  /-- Somebody else has exchanged the tokens. -/
  | reusing
  /-- It is about to exchange the tokens. -/
  | starting (token : String)
  /-- The exchange is under way. -/
  | exchanging (token : String)
  /-- The exchange is over. -/
  | settling (answer : Outcome TokenPair)
  /-- It is about to give the gate back. -/
  | leaving (result : Outcome String)
  /-- It goes on with what it got. -/
  | left (result : Outcome String)

namespace Phase

/-- Where the task is in a phase. -/
def place (observed : Snapshot) (k : Outcome String → Work β γ) :
    Phase → Place Session (Question β) Answer γ
  | waiting => .ready ((refresh observed).bind k)
  | entered => .ready (.act id fun s => (decideOn observed s).bind fun r => .release (k r))
  | reusing => .ready (.act id fun s => .release (k (s.accessToken.elim (.error ended) .ok)))
  | starting token => .ready (.ask (.exchange token) fun answer =>
      (settle observed.epoch answer).bind fun r => .release (k r))
  | exchanging token => .asking (.exchange token) fun answer =>
      (settle observed.epoch answer).bind fun r => .release (k r)
  | settling answer => .ready ((settle observed.epoch answer).bind fun r => .release (k r))
  | leaving result => .ready (.release (k result))
  | left result => .ready (k result)

/-- What the task with number `n` does in a phase: the gate before, the phase before, what it does, the
session and the gate after, and the phase after. -/
inductive Next (observed : Snapshot) (n : Nat) (s : Session) :
    Option Nat → Phase → Deed (Question β) Answer → Session → Option Nat → Phase → Prop
  | acquire : Next observed n s none waiting .acquired s (some n) entered
  | late {holder : Option Nat} : s.epoch ≠ observed.epoch →
      Next observed n s holder entered .acted s holder (leaving (.error ended))
  | reuse {holder : Option Nat} : s.epoch = observed.epoch → s.generation ≠ observed.generation →
      Next observed n s holder entered .acted s holder reusing
  | signedOut {holder : Option Nat} : s.epoch = observed.epoch →
      s.generation = observed.generation → s.refreshToken = none →
      Next observed n s holder entered .acted s holder (leaving (.error notSignedIn))
  | start {holder : Option Nat} {token : String} : s.epoch = observed.epoch →
      s.generation = observed.generation → s.refreshToken = some token →
      Next observed n s holder entered .acted s holder (starting token)
  | reused {holder : Option Nat} : Next observed n s holder reusing .acted s holder
      (leaving (s.accessToken.elim (.error ended) .ok))
  | ask {holder : Option Nat} {token : String} : Next observed n s holder (starting token)
      (.asked (.exchange token)) s holder (exchanging token)
  | answer {holder : Option Nat} {token : String} (answer : Outcome TokenPair) :
      Next observed n s holder (exchanging token) (.answered (.exchange token) answer) s holder
        (settling answer)
  | swap {holder : Option Nat} {tokens : TokenPair} :
      Next observed n s holder (settling (.ok tokens)) .acted (s.exchange observed.epoch tokens)
        holder (leaving (s.exchanged observed.epoch tokens))
  | expire {holder : Option Nat} {f : Failure} :
      Next observed n s holder (settling (.error f)) .acted (s.expire observed.epoch) holder
        (leaving (.error f))
  | leave {holder : Option Nat} {result : Outcome String} :
      Next observed n s holder (leaving result) .released s none (left result)

/-- Until it goes on with what it got, a task that gets a token does nothing but this. -/
theorem turns {observed : Snapshot} {k : Outcome String → Work β γ} {n : Nat} {s : Session}
    {holder : Option Nat} {phase : Phase} {t : Turn Session (Question β) Answer γ}
    (h : Turns n s holder (phase.place observed k) t) (hleft : ∀ r, phase ≠ left r) :
    ∃ phase', Next observed n s holder phase t.deed t.state t.holder phase' ∧
      t.place = phase'.place observed k := by
  cases phase with
  | waiting =>
    rw [place, refresh_bind] at h
    cases h
    exact ⟨entered, .acquire, rfl⟩
  | entered =>
    cases h
    have hplace {task : Work β (Outcome String)} (hd : decideOn observed s = task) :
        Place.ready ((decideOn observed s).bind fun r => .release (k r)) =
          .ready (task.bind fun r => .release (k r)) := by rw [hd]
    by_cases he : s.epoch = observed.epoch
    · by_cases hg : s.generation = observed.generation
      · cases ht : s.refreshToken with
        | none => exact ⟨_, .signedOut he hg ht, hplace (decideOn_of_none he hg ht)⟩
        | some token => exact ⟨_, .start he hg ht, hplace (decideOn_of_some he hg ht)⟩
      · exact ⟨_, .reuse he hg, hplace (decideOn_of_generation_ne he hg)⟩
    · exact ⟨_, .late he, hplace (decideOn_of_ne he)⟩
  | reusing =>
    cases h
    exact ⟨_, .reused, rfl⟩
  | starting token =>
    cases h
    exact ⟨_, .ask, rfl⟩
  | exchanging token =>
    cases h with
    | answer answer => exact ⟨_, .answer answer, rfl⟩
  | settling answer =>
    cases answer with
    | error f => cases h; exact ⟨_, .expire, rfl⟩
    | ok tokens => cases h; exact ⟨_, .swap, rfl⟩
  | leaving result =>
    cases h
    exact ⟨_, .leave, rfl⟩
  | left result => exact absurd rfl (hleft result)

end Phase

end TripClient.Session
