import TripClient.Proofs.Session.Outcome
import TripClient.Proofs.Solo

/-!
# The history of a session

Calls are made on a session one after the other, from the time before anybody has signed in, and what
each of them has done is written down (`History`). A call that exchanges tokens leaves time for others,
so what they have done meanwhile stands in the history before what came of the exchange; a state in the
middle of an exchange is that of a history in which the exchange has not been begun.

`Accounted` says what a session is by what has been done to it: whom observers were told of, and what
the two counters count. Each occurrence keeps it (`Accounted.changed`, `Accounted.exchanged`,
`Accounted.finish`), so each call does (`Accounted.call`), and it holds after any calls
(`calls_accounted`).
-/

namespace TripClient.Session

variable {β E : Type}

/-! ## What is done to a session -/

/-- Whether the session is another's after the change, or nobody's. -/
def Change.movesOn : Change → Bool
  | .signIn _ _ | .signOut => true
  | .setUser _ => false

/-- What has been done to a session. -/
inductive Occurrence where
  | changed (change : Change)
  /-- The tokens were exchanged for new ones. -/
  | exchanged
  /-- The session ended because its tokens could not be exchanged. -/
  | expired
  deriving DecidableEq

/-- Whether the session is another's after the occurrence, or nobody's. -/
def Occurrence.movesOn : Occurrence → Bool
  | .changed c => c.movesOn
  | .exchanged => false
  | .expired => true

/-- Who signed in. -/
def Occurrence.signedIn? : Occurrence → Option Profile
  | .changed (.signIn _ user) => some user
  | _ => none

/-- What has come of an exchange: nothing, if the session has become another's meanwhile. -/
def Meanwhile.settlement (m : Meanwhile (Outcome TokenPair)) : List Occurrence :=
  if m.changes.any Change.movesOn then []
  else match m.answer with
    | .ok _ => [.exchanged]
    | .error _ => [.expired]

/-- What has been done in the course of an exchange, the latest first. -/
def Meanwhile.occurrences (m : Meanwhile (Outcome TokenPair)) : List Occurrence :=
  m.settlement ++ (m.changes.map Occurrence.changed).reverse

/-- What has been done in the course of a refresh that has said so much, the latest first. -/
def Outside.occurrences (o : Outside β E) (e : E) :
    List (Said Session (Question β) Answer) → List Occurrence
  | ⟨.exchange token, _⟩ :: _ => (o (.exchange token) e).2.occurrences
  | _ => []

/-! ## Histories -/

/-- A call on a session. -/
inductive Call where
  | change (change : Change)
  | refresh (observed : Snapshot)

/-- A session, who answers its questions, and what has been done to it, the latest first. -/
structure History (E : Type) where
  session : Session
  responder : E
  past : List Occurrence

namespace History

/-- Nothing has been done yet. -/
def start (e : E) : History E := ⟨.initial, e, []⟩

/-- The history after one more call. -/
def call (o : Outside β E) (h : History E) : Call → History E
  | .change c => { h with session := c.apply h.session, past := .changed c :: h.past }
  | .refresh observed =>
    let solo := (Session.refresh observed).alone o.respond h.session h.responder
    ⟨solo.state, solo.responder, o.occurrences h.responder solo.said ++ h.past⟩

/-- The history after some more calls, one after the other. -/
def after (o : Outside β E) (h : History E) (cs : List Call) : History E := cs.foldl (call o) h

end History

/-! ## What a session is by its history -/

/-- What a session is by what has been done to it, the latest first. -/
structure Accounted (past : List Occurrence) (s : Session) : Prop where
  /-- Observers know that somebody is signed in, if somebody is. -/
  signed_in : (∃ id, s.status = .signedIn id) ↔ s.isSignedIn
  /-- They know who signed in last, whatever the profile has become since. -/
  owner : ∀ id, s.status = .signedIn id → ∃ user,
    past.findSome? Occurrence.signedIn? = some user ∧ user.id = id
  /-- They know that the session has ended for want of tokens, if that was its end. -/
  expired : s.isSignedIn = false → (s.status = .expired ↔ past.find? Occurrence.movesOn = some .expired)
  signed_out : s.isSignedIn = false →
    (s.status = .signedOut ↔ past.find? Occurrence.movesOn ≠ some .expired)
  epoch : s.epoch = past.countP Occurrence.movesOn
  generation : s.generation = s.epoch + past.count .exchanged

section
variable {past : List Occurrence} {s : Session}

theorem accounted_initial : Accounted [] .initial := by
  constructor <;> simp [initial, isSignedIn]

/-- Whoever signs in is accounted for. -/
theorem Accounted.signIn (h : Accounted past s) (tokens : TokenPair) (user : Profile) :
    Accounted (.changed (.signIn tokens user) :: past) (s.signIn tokens user) := by
  have hin : (s.signIn tokens user).isSignedIn = true := rfl
  refine ⟨iff_of_true ⟨_, rfl⟩ hin, ?_, nofun, nofun, ?_, ?_⟩
  · rintro id ⟨⟩
    exact ⟨user, rfl, rfl⟩
  · rw [List.countP_cons_of_pos rfl, ← h.epoch]
    rfl
  · rw [List.count_cons_of_ne (by rintro ⟨⟩)]
    exact (congrArg (· + 1) h.generation).trans (Nat.add_right_comm _ _ _)

/-- The end of a session is accounted for, if observers are told why it ended. -/
theorem Accounted.finish (h : Accounted past s) {d : Occurrence} {status : SessionStatus}
    (hd : d.movesOn) (hstatus : ∀ id, status ≠ .signedIn id)
    (hexpired : status = .expired ↔ d = .expired)
    (hsignedOut : status = .signedOut ↔ d ≠ .expired) : Accounted (d :: past) (s.finish status) := by
  have hlast : (d :: past).find? Occurrence.movesOn = some d := List.find?_cons_of_pos hd
  refine ⟨?_, fun id hid => absurd hid (hstatus id), fun _ => ?_, fun _ => ?_, ?_, ?_⟩
  · exact iff_of_false (fun ⟨id, hid⟩ => hstatus id hid) nofun
  · rw [hlast, Option.some_inj]
    exact hexpired
  · rw [hlast, ne_eq, Option.some_inj]
    exact hsignedOut
  · rw [List.countP_cons_of_pos hd, ← h.epoch]
    rfl
  · rw [List.count_cons_of_ne (by rintro rfl; cases hd)]
    exact (congrArg (· + 1) h.generation).trans (Nat.add_right_comm _ _ _)

/-- A new profile is accounted for: it bears neither on who has signed in nor on how a session ended. -/
theorem Accounted.setUser (h : Accounted past s) (user : Profile) :
    Accounted (.changed (.setUser user) :: past) (s.setUser user) := by
  have hin : (s.setUser user).isSignedIn = s.isSignedIn := by simp [Session.setUser, isSignedIn]
  refine ⟨?_, h.owner, fun hout => h.expired (hin ▸ hout), fun hout => h.signed_out (hin ▸ hout),
    h.epoch, h.generation⟩
  rw [hin]
  exact h.signed_in

/-- Whatever others do is accounted for. -/
theorem Accounted.changed (h : Accounted past s) (c : Change) :
    Accounted (.changed c :: past) (c.apply s) := by
  cases c with
  | signIn tokens user => exact h.signIn tokens user
  | signOut => exact h.finish rfl nofun (iff_of_false nofun nofun) (iff_of_true rfl nofun)
  | setUser user => exact h.setUser user

/-- What others do one after the other is accounted for. -/
theorem Accounted.applyAll (h : Accounted past s) (changes : List Change) :
    Accounted ((changes.map Occurrence.changed).reverse ++ past) (applyAll changes s) := by
  induction changes generalizing past s with
  | nil => exact h
  | cons c changes ih =>
    rw [List.map_cons, List.reverse_cons, List.append_assoc]
    exact ih (h.changed c)

/-- New tokens are accounted for. -/
theorem Accounted.exchanged (h : Accounted past s) {c : Credential} (hc : s.credential = some c)
    (tokens : TokenPair) : Accounted (.exchanged :: past)
      { s with credential := some { c with tokens }, generation := s.generation + 1 } := by
  have hin : s.isSignedIn = true := by rw [isSignedIn, hc, Option.isSome_some]
  refine ⟨?_, h.owner, fun hout => ?_, fun hout => ?_, h.epoch, ?_⟩
  · rw [h.signed_in, hin]
    rfl
  · cases hout
  · cases hout
  · rw [List.count_cons_self, ← Nat.add_assoc, ← h.generation]

end

/-! ## Refreshes are accounted for -/

/-- Others move the epoch on if one of their changes makes the session another's. -/
theorem epoch_applyAll_iff (changes : List Change) (s : Session) :
    (applyAll changes s).epoch = s.epoch ↔ changes.any Change.movesOn = false := by
  induction changes generalizing s with
  | nil => simp [applyAll]
  | cons c changes ih =>
    have hle := (leads_applyAll changes (c.apply s)).epoch_le
    have hcons : applyAll (c :: changes) s = applyAll changes (c.apply s) := rfl
    rw [hcons, List.any_cons]
    cases c with
    | setUser user => exact ih _
    | signIn tokens user | signOut =>
      refine iff_of_false (fun h => ?_) (by simp [Change.movesOn])
      exact Nat.not_succ_le_self _ (h ▸ hle)

/-- Settling an exchange installs its tokens, or ends the session. -/
theorem settle_state (respond : Responder Session (Question β) Answer E) (epoch : Nat)
    (answer : Outcome TokenPair) (s : Session) (e : E) :
    ((settle epoch answer).alone respond s e).state =
      match answer with
      | .ok tokens => s.exchange epoch tokens
      | .error _ => s.expire epoch := by
  cases answer <;> rfl

/-- What comes of an exchange is accounted for. -/
theorem Accounted.settle {past : List Occurrence} {s : Session} (h : Accounted past s) {token : String}
    (ht : s.refreshToken = some token) (m : Meanwhile (Outcome TokenPair))
    (respond : Responder Session (Question β) Answer E) (e : E) :
    Accounted (m.occurrences ++ past)
      ((Session.settle s.epoch m.answer).alone respond (Session.applyAll m.changes s) e).state := by
  have hleft := h.applyAll m.changes
  rw [Meanwhile.occurrences, List.append_assoc, settle_state]
  by_cases hmoved : m.changes.any Change.movesOn
  · -- The session has become another's, so nothing is done to it.
    have hne : (Session.applyAll m.changes s).epoch ≠ s.epoch :=
      fun he => nomatch hmoved.symm.trans ((epoch_applyAll_iff _ _).1 he)
    rw [Meanwhile.settlement, if_pos hmoved, List.nil_append]
    cases m.answer with
    | ok tokens => simpa only [exchange_of_ne hne] using hleft
    | error f => simpa only [expire_of_ne hne] using hleft
  · have he : (Session.applyAll m.changes s).epoch = s.epoch :=
      (epoch_applyAll_iff _ _).2 (Bool.eq_false_iff.2 hmoved)
    rw [Meanwhile.settlement, if_neg hmoved]
    cases m.answer with
    | ok tokens =>
      have hin : (Session.applyAll m.changes s).isSignedIn :=
        (leads_applyAll _ _).signedIn_eq he.symm ▸ isSignedIn_of_refreshToken ht
      obtain ⟨c, hc⟩ := Option.isSome_iff_exists.1 hin
      simp only [exchange_of_eq he hc]
      exact hleft.exchanged hc tokens
    | error f =>
      simp only [expire, if_pos he]
      exact hleft.finish rfl nofun (iff_of_true rfl rfl) (iff_of_false nofun (absurd rfl))

/-- Whatever a call does is accounted for. -/
theorem Accounted.call {h : History E} (hh : Accounted h.past h.session) (o : Outside β E) (c : Call) :
    Accounted (h.call o c).past (h.call o c).session := by
  cases c with
  | change c => exact hh.changed c
  | refresh observed =>
    rw [History.call, refresh_alone]
    by_cases he : h.session.epoch = observed.epoch
    · by_cases hg : h.session.generation = observed.generation
      · cases ht : h.session.refreshToken with
        | none => rwa [decideOn_of_none he hg ht]
        | some token =>
          rw [decideOn_of_some he hg ht, ← he]
          exact hh.settle ht _ _ _
      · rwa [decideOn_of_generation_ne he hg]
    · rwa [decideOn_of_ne he]

/-- A call leads on from the session. -/
theorem History.leads_call (o : Outside β E) (h : History E) (c : Call) :
    Leads h.session (h.call o c).session := by
  cases c with
  | change c => exact c.leads h.session
  | refresh observed =>
    exact (refresh_within observed).alone Leads.refl (fun _ _ _ => Leads.trans)
      (fun q e s => leads_applyAll (o q e).2.changes s) h.session h.responder

/-- Calls lead on from the session. -/
theorem History.leads_after (o : Outside β E) (h : History E) (cs : List Call) :
    Leads h.session (h.after o cs).session := by
  induction cs generalizing h with
  | nil => exact .refl _
  | cons c cs ih => exact (h.leads_call o c).trans (ih (h.call o c))

/-! ## Whole histories -/

/-- What is promised of a session with a history. -/
structure Lived (o : Outside β E) (h : History E) : Prop where
  accounted : Accounted h.past h.session
  /-- The counters never fall. -/
  epoch_le : ∀ cs, h.session.epoch ≤ (h.after o cs).session.epoch
  generation_le : ∀ cs, h.session.generation ≤ (h.after o cs).session.generation
  /-- A new profile changes nothing but the profile of whoever is signed in. -/
  setUser : ∀ user, (h.call o (.change (.setUser user))).session =
    { h.session with credential := h.session.tokens?.map fun tokens => ⟨tokens, user⟩ }
  setUser_signed_out : ∀ user, h.session.isSignedIn = false →
    (h.call o (.change (.setUser user))).session = h.session
  /-- A refresh finishes when it is run, and leaves what the history says. -/
  finished : ∀ observed visits, ∃ k, ∀ limit, k ≤ limit →
    runAll o.respond limit [(visits, refresh observed)] h.session h.responder =
      ((h.call o (.refresh observed)).session, (h.call o (.refresh observed)).responder,
        [some ((refresh observed).alone o.respond h.session h.responder).result])

/-- Whatever calls are made on a session, one after the other, from the time before anybody has signed
in, it is accounted for by what they have done to it. -/
theorem calls_accounted (o : Outside β E) (e : E) (cs : List Call) :
    Lived o ((History.start e).after o cs) := by
  have haccounted (h : History E) (hh : Accounted h.past h.session) :
      Accounted (h.after o cs).past (h.after o cs).session := by
    induction cs generalizing h with
    | nil => exact hh
    | cons c cs ih => exact ih (h.call o c) (hh.call o c)
  refine ⟨haccounted _ accounted_initial, fun more => (History.leads_after o _ more).epoch_le,
    fun more => (History.leads_after o _ more).generation_le, fun user => ?_, fun user hout => ?_,
    fun observed visits => runAll_singleton o.respond (refresh_orderly observed) visits _ _⟩
  · simp [History.call, Change.apply, Session.setUser, tokens?, Function.comp_def]
  · have hnone : ((History.start e).after o cs).session.credential = none :=
      Option.isSome_eq_false_iff.1 hout |> Option.isNone_iff_eq_none.1
    simp only [History.call, Change.apply, Session.setUser, hnone, Option.map_none]
    rw [← hnone]

end TripClient.Session
