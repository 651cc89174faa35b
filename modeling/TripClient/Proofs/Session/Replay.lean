import TripClient.Proofs.Session.Refreshing

/-!
# With whose token a request is made again

Requests and refreshes run side by side in any order, while others sign in and out (`requests`). A
request that is made a second time has its token from a refresh, which comes by it in one of two ways.
Who exchanges the tokens gets one that is stored in the epoch of the snapshot. Who finds that another
has exchanged them looks at the session twice, first at its counters and then at its token, and when
somebody else signs in between the two, the token is theirs (`not_same_login`). In no other way is a
request made again with a token of another epoch (`same_login_unless_replaced`).
-/

namespace TripClient.Session

open Interleaving

variable {β : Type}

/-! ## Requests side by side -/

/-- Who takes part. -/
inductive Caller where
  | request
  | refresh (observed : Snapshot)

/-- What they do. -/
def Caller.program : Caller → Work β Unit
  | request => authorized.bind fun _ => .done ()
  | refresh observed => (Session.refresh observed).bind fun _ => .done ()

/-- Requests and refreshes side by side. -/
abbrev Requests (β : Type) : Type :=
  World Caller Change Session (Question β) Answer Unit

/-- Callers take their steps, and others change the session, in the order of the moves. -/
def requests (s : Session) (moves : List (Move Caller Change (Question β) Answer)) : Requests β :=
  run Caller.program Change.apply s moves

/-- The token of an attempt. -/
def attempted? : Session × Deed (Question β) Answer → Option (Option String)
  | (_, .asked (.attempt token)) => some token
  | _ => none

/-- The tokens with which a caller has made its request, the latest first. -/
def attempts (n : Nat) (w : Requests β) : List (Option String) :=
  (w.deeds n).filterMap attempted?

/-- The session in which a caller began. -/
def begun (n : Nat) (w : Requests β) : Option Session := (w.deeds n).getLast?.map (·.1)

/-- The token was stored in the epoch. -/
def StoredIn (w : Requests β) (epoch : Nat) (token : String) : Prop :=
  ∃ s ∈ w.seen, s.epoch = epoch ∧ s.accessToken = some token

/-- The caller has looked at the session twice in a row, and in between another has begun, of which it
has got the token. -/
def Replaced (n : Nat) (w : Requests β) (epoch : Nat) (token : String) : Prop :=
  ∃ s t, [(t, .acted), (s, .acted)] <:+: w.deeds n ∧ s.epoch = epoch ∧ t.epoch ≠ epoch ∧
    t.accessToken = some token

/-- If the caller has made a second attempt, it has made it with a token that was stored in the epoch in
which the request was begun. -/
def SameLogin (n : Nat) (w : Requests β) : Prop :=
  ∀ first second earlier s, attempts n w = second :: first :: earlier → begun n w = some s →
    ∃ token, second = some token ∧ StoredIn w s.epoch token

/-- If the caller has made a second attempt, it has made it with a token that was stored in the epoch in
which the request was begun, or with that of a session that has begun while it looked. -/
def SameLoginUnlessReplaced (n : Nat) (w : Requests β) : Prop :=
  ∀ first second earlier s, attempts n w = second :: first :: earlier → begun n w = some s →
    ∃ token, second = some token ∧ (StoredIn w s.epoch token ∨ Replaced n w s.epoch token)

/-! ## How far a request has come -/

/-- How far a request has come. -/
inductive Progress where
  | joined
  /-- It has taken its snapshot. -/
  | trying (observed : Snapshot)
  /-- The first attempt is under way. -/
  | tried (observed : Snapshot)
  /-- It gets a token, or has just got one. -/
  | refreshing (observed : Snapshot) (f : Failure) (phase : Phase)
  /-- The second attempt is under way. -/
  | retrying (token : String)
  | finished

/-- Where the request is. -/
def Progress.place : Progress → Place Session (Question β) Answer Unit
  | joined => .ready (Caller.program .request)
  | trying observed => .ready (.ask (.attempt observed.token) fun answer =>
      (afterAttempt observed answer).bind fun _ => .done ())
  | tried observed => .asking (.attempt observed.token) fun answer =>
      (afterAttempt observed answer).bind fun _ => .done ()
  | refreshing observed f phase => phase.place observed fun r => (again f r).bind fun _ => .done ()
  | retrying token => .asking (.attempt (some token)) fun _ => .done ()
  | finished => .ready (.done ())

/-- The caller has begun in the epoch. -/
def BegunIn (n : Nat) (w : Requests β) (epoch : Nat) : Prop :=
  ∃ s, begun n w = some s ∧ s.epoch = epoch

/-- What is true while a caller gets a token, by its phase. -/
def Phase.Gets (observed : Snapshot) (n : Nat) (w : Requests β) : Phase → Prop
  | reusing => ∃ s rest, w.deeds n = (s, .acted) :: rest ∧ s.epoch = observed.epoch
  | leaving (.ok token) | left (.ok token) =>
    StoredIn w observed.epoch token ∨ Replaced n w observed.epoch token
  | _ => True

/-- What is true of a request, by how far it has come. -/
def Progress.Facts (n : Nat) (w : Requests β) : Progress → Prop
  | joined => w.deeds n = []
  | trying observed => attempts n w = [] ∧ BegunIn n w observed.epoch
  | tried observed => (attempts n w).length = 1 ∧ BegunIn n w observed.epoch
  | refreshing observed _ phase =>
    (attempts n w).length = 1 ∧ BegunIn n w observed.epoch ∧ phase.Gets observed n w
  | retrying _ | finished => SameLoginUnlessReplaced n w

/-- The invariant of a caller: a refresh makes no attempts, and a request has come somewhere. -/
def Caller.Facts (n : Nat) (w : Requests β) :
    Caller → Place Session (Question β) Answer Unit → Prop
  | request, place => ∃ progress : Progress, place = progress.place ∧ progress.Facts n w
  | refresh observed, place => attempts n w = [] ∧
    ∃ phase : Phase, place = phase.place observed fun _ => .done ()

/-! ## What stays true as the world goes on -/

section
variable {w w' : Requests β} {n : Nat} {observed : Snapshot}

theorem StoredIn.mono {epoch : Nat} {token : String} (hseen : ∀ s ∈ w.seen, s ∈ w'.seen)
    (h : StoredIn w epoch token) : StoredIn w' epoch token := by
  obtain ⟨s, hs, h⟩ := h
  exact ⟨s, hseen s hs, h⟩

theorem Replaced.mono {epoch : Nat} {token : String} (hdeeds : w.deeds n <:+ w'.deeds n)
    (h : Replaced n w epoch token) : Replaced n w' epoch token := by
  obtain ⟨s, t, hinfix, h⟩ := h
  exact ⟨s, t, hinfix.trans hdeeds.isInfix, h⟩

/-- What a caller has got stays what it is. -/
theorem got_mono {epoch : Nat} {token : String} (hdeeds : w.deeds n <:+ w'.deeds n)
    (hseen : ∀ s ∈ w.seen, s ∈ w'.seen)
    (h : StoredIn w epoch token ∨ Replaced n w epoch token) :
    StoredIn w' epoch token ∨ Replaced n w' epoch token :=
  h.imp (StoredIn.mono hseen) (Replaced.mono hdeeds)

/-- A caller stays begun where it has begun. -/
theorem begun_mono {s : Session} (hdeeds : w.deeds n <:+ w'.deeds n) (h : begun n w = some s) :
    begun n w' = some s := by
  obtain ⟨later, hlater⟩ := hdeeds
  obtain ⟨d, hd, rfl⟩ := Option.map_eq_some_iff.1 h
  rw [begun, ← hlater, List.getLast?_append, hd, Option.some_or, Option.map_some]

/-- Who has made no attempt since is still said to have kept to its login. -/
theorem SameLoginUnlessReplaced.mono (hdeeds : w.deeds n <:+ w'.deeds n)
    (hattempts : attempts n w' = attempts n w) (hseen : ∀ s ∈ w.seen, s ∈ w'.seen)
    (h : SameLoginUnlessReplaced n w) : SameLoginUnlessReplaced n w' := by
  intro first second earlier s hmade hbegun
  rw [hattempts] at hmade
  have hne : w.deeds n ≠ [] := by
    rintro hnil
    simp [attempts, hnil] at hmade
  have hbegun' : begun n w = some ((w.deeds n).getLast hne).1 := by
    rw [begun, List.getLast?_eq_some_getLast hne, Option.map_some]
  cases (begun_mono hdeeds hbegun').symm.trans hbegun
  obtain ⟨token, rfl, hgot⟩ := h first second earlier _ hmade hbegun'
  exact ⟨token, rfl, got_mono hdeeds hseen hgot⟩

/-- Nothing is said of who has made no second attempt. -/
theorem sameLogin_of_length_le (h : (attempts n w).length ≤ 1) : SameLoginUnlessReplaced n w := by
  intro first second earlier s hattempts _
  rw [hattempts] at h
  exact absurd h (by simp)

theorem Phase.Gets.mono {phase : Phase} (hdeeds : w'.deeds n = w.deeds n)
    (hseen : ∀ s ∈ w.seen, s ∈ w'.seen) (h : phase.Gets observed n w) :
    phase.Gets observed n w' := by
  cases phase with
  | reusing =>
    obtain ⟨s, rest, hs, he⟩ := h
    exact ⟨s, rest, hdeeds.trans hs, he⟩
  | leaving r | left r =>
    cases r with
    | ok token => exact got_mono (hdeeds ▸ List.suffix_rfl) hseen h
    | error f => trivial
  | waiting | entered | starting _ | exchanging _ | settling _ => trivial

/-- What is true of a caller stays true whatever others do. -/
theorem Caller.Facts.mono {caller : Caller} {place : Place Session (Question β) Answer Unit}
    (hdeeds : w'.deeds n = w.deeds n) (hseen : ∀ s ∈ w.seen, s ∈ w'.seen)
    (h : caller.Facts n w place) : caller.Facts n w' place := by
  have hattempts : attempts n w' = attempts n w := congrArg (List.filterMap _) hdeeds
  cases caller with
  | refresh observed => exact ⟨hattempts.trans h.1, h.2⟩
  | request =>
    obtain ⟨progress, hplace, h⟩ := h
    refine ⟨progress, hplace, ?_⟩
    have hbegun {epoch : Nat} (h : BegunIn n w epoch) : BegunIn n w' epoch := by
      rwa [BegunIn, begun, hdeeds]
    cases progress with
    | joined => exact hdeeds.trans h
    | trying observed => exact ⟨hattempts.trans h.1, hbegun h.2⟩
    | tried observed => exact ⟨hattempts ▸ h.1, hbegun h.2⟩
    | refreshing observed f phase => exact ⟨hattempts ▸ h.1, hbegun h.2.1, h.2.2.mono hdeeds hseen⟩
    | retrying token | finished =>
      exact SameLoginUnlessReplaced.mono (hdeeds ▸ List.suffix_rfl) hattempts hseen h

/-! ## What a turn does -/

variable {caller : Caller} {t : Turn Session (Question β) Answer Unit}

theorem attempts_after_of_none (h : attempted? (w.state, t.deed) = none) :
    attempts n (w.after n caller t) = attempts n w := by
  rw [attempts, World.deeds_after, List.filterMap_cons_none h, attempts]

theorem attempts_after_of_some {token : Option String}
    (h : attempted? (w.state, t.deed) = some token) :
    attempts n (w.after n caller t) = token :: attempts n w := by
  rw [attempts, World.deeds_after, List.filterMap_cons_some h, attempts]

theorem BegunIn.after {epoch : Nat} (h : BegunIn n w epoch) :
    BegunIn n (w.after n caller t) epoch := by
  obtain ⟨s, hs, he⟩ := h
  exact ⟨s, begun_mono (World.deeds_after t ▸ List.suffix_cons _ _) hs, he⟩

/-- Who comes back with tokens and gets one finds it stored in its epoch. -/
theorem storedIn_of_exchanged {epoch : Nat} {tokens : TokenPair} {s : Session} {token : String}
    (hs : s.exchange epoch tokens ∈ w.seen) (h : s.exchanged epoch tokens = .ok token) :
    StoredIn w epoch token := by
  by_cases he : s.epoch = epoch
  · cases hc : s.credential with
    | none => simp [exchanged, he, isSignedIn, hc] at h
    | some c =>
      rw [exchanged_of_eq he (by rw [isSignedIn, hc, Option.isSome_some])] at h
      rw [exchange_of_eq he hc] at hs
      cases h
      exact ⟨_, hs, he, rfl⟩
  · rw [exchanged_of_ne he] at h
    cases h

/-- Who gets a token makes no attempt meanwhile. -/
theorem Phase.Next.attempted?_eq_none {s s' : Session} {holder holder' : Option Nat}
    {phase phase' : Phase} {deed : Deed (Question β) Answer}
    (h : phase.Next observed n s holder deed s' holder' phase') : attempted? (s, deed) = none := by
  cases h <;> rfl

/-- What is true in the next phase of who gets a token holds. -/
theorem Phase.Gets.next {phase phase' : Phase}
    (hnext : phase.Next observed n w.state w.holder t.deed t.state t.holder phase')
    (h : phase.Gets observed n w) : phase'.Gets observed n (w.after n caller t) := by
  have hdeeds : (w.after n caller t).deeds n = (w.state, t.deed) :: w.deeds n :=
    World.deeds_after t
  have hseen : ∀ s ∈ w.seen, s ∈ (w.after n caller t).seen := fun s hs => List.mem_cons_of_mem _ hs
  have hstate : t.state ∈ (w.after n caller t).seen := List.mem_cons_self
  obtain ⟨deed, s, holder, place⟩ := t
  generalize w.holder = gate at hnext
  cases hnext with
  | reuse he hg => exact ⟨w.state, w.deeds n, hdeeds, he⟩
  | reused =>
    cases htoken : w.state.accessToken with
    | none => trivial
    | some token =>
      -- This is the second look: the token is that of whoever is signed in by now.
      by_cases he : w.state.epoch = observed.epoch
      · exact .inl ⟨w.state, hseen _ List.mem_cons_self, he, htoken⟩
      · obtain ⟨s, rest, hs, hse⟩ := h
        refine .inr ⟨s, w.state, ?_, hse, he, htoken⟩
        rw [hdeeds, hs]
        exact (List.prefix_append [_, _] rest).isInfix
  | @swap _ tokens =>
    cases htoken : w.state.exchanged observed.epoch tokens with
    | error f => trivial
    | ok token => exact .inl (storedIn_of_exchanged hstate htoken)
  | @leave _ r =>
    cases r with
    | error f => trivial
    | ok token => exact got_mono (hdeeds ▸ List.suffix_cons _ _) hseen h
  | _ => trivial

/-- What follows the first attempt is the end, or a refresh. -/
theorem afterAttempt_place (observed : Snapshot) (answer : Outcome β) :
    ∃ progress : Progress,
      Place.ready ((afterAttempt observed answer).bind fun _ => .done ()) = progress.place ∧
        (progress = .finished ∨ ∃ f, progress = .refreshing observed f .waiting) := by
  cases answer with
  | ok b => exact ⟨.finished, rfl, .inl rfl⟩
  | error f =>
    by_cases hf : f.isUnauthorized
    · refine ⟨.refreshing observed f .waiting, ?_, .inr ⟨f, rfl⟩⟩
      simp [afterAttempt, hf, Progress.place, Phase.place, Task.bind_bind]
    · refine ⟨.finished, ?_, .inl rfl⟩
      simp [afterAttempt, hf, Progress.place, Task.bind]

/-- After its turn a request has come further, and what is true there holds. -/
theorem Progress.Facts.turn {progress : Progress} (h : progress.Facts n w)
    (ht : Turns n w.state w.holder progress.place t) :
    ∃ progress' : Progress, t.place = progress'.place ∧ progress'.Facts n (w.after n .request t) := by
  have hdeeds : (w.after n .request t).deeds n = (w.state, t.deed) :: w.deeds n :=
    World.deeds_after t
  have hsuffix : w.deeds n <:+ (w.after n .request t).deeds n := hdeeds ▸ List.suffix_cons _ _
  have hseen : ∀ s ∈ w.seen, s ∈ (w.after n .request t).seen :=
    fun s hs => List.mem_cons_of_mem _ hs
  cases progress with
  | joined =>
    rw [place, Caller.program, authorized_eq] at ht
    generalize w.holder = gate at ht
    cases ht
    refine ⟨trying w.state.snapshot, rfl, ?_, w.state, ?_, rfl⟩
    · rw [attempts_after_of_none rfl, attempts, h, List.filterMap_nil]
    · rw [begun, hdeeds, h]
      rfl
  | trying observed =>
    generalize w.holder = gate at ht
    cases ht
    refine ⟨tried observed, rfl, ?_, h.2.after⟩
    rw [attempts_after_of_some rfl, h.1, List.length_singleton]
  | tried observed =>
    generalize w.holder = gate at ht
    cases ht with
    | answer answer =>
      obtain ⟨progress', hplace, rfl | ⟨f, rfl⟩⟩ := afterAttempt_place observed answer
      · refine ⟨finished, hplace, sameLogin_of_length_le (Nat.le_of_eq ?_)⟩
        rw [attempts_after_of_none rfl, h.1]
      · refine ⟨refreshing observed f .waiting, hplace, ?_, h.2.after, trivial⟩
        rw [attempts_after_of_none rfl, h.1]
  | refreshing observed f phase =>
    obtain ⟨hlength, hbegun, hgets⟩ := h
    by_cases hleft : ∃ r, phase = .left r
    · obtain ⟨r, rfl⟩ := hleft
      cases r with
      | error g => exact absurd ht not_turns_done
      | ok token =>
        generalize w.holder = gate at ht
        cases ht
        refine ⟨retrying token, rfl, ?_⟩
        intro first second earlier s hattempts hs
        rw [attempts_after_of_some rfl] at hattempts
        obtain ⟨s₀, hs₀, he⟩ := hbegun
        cases (begun_mono hsuffix hs₀).symm.trans hs
        exact ⟨token, (List.cons.inj hattempts).1.symm, he ▸ got_mono hsuffix hseen hgets⟩
    · obtain ⟨phase', hnext, hplace⟩ := Phase.turns ht fun r hr => hleft ⟨r, hr⟩
      refine ⟨refreshing observed f phase', hplace, ?_, hbegun.after, hgets.next hnext⟩
      rw [attempts_after_of_none hnext.attempted?_eq_none, hlength]
  | retrying token =>
    generalize w.holder = gate at ht
    cases ht
    exact ⟨finished, rfl, SameLoginUnlessReplaced.mono hsuffix (attempts_after_of_none rfl) hseen h⟩
  | finished => exact absurd ht not_turns_done

/-- What is true of a caller stays true when it takes a turn. -/
theorem Caller.Facts.turn {place : Place Session (Question β) Answer Unit}
    (h : caller.Facts n w place) (ht : Turns n w.state w.holder place t) :
    caller.Facts n (w.after n caller t) t.place := by
  cases caller with
  | request =>
    obtain ⟨progress, rfl, h⟩ := h
    exact h.turn ht
  | refresh observed =>
    obtain ⟨hattempts, phase, rfl⟩ := h
    by_cases hleft : ∃ r, phase = .left r
    · obtain ⟨r, rfl⟩ := hleft
      exact absurd ht not_turns_done
    · obtain ⟨phase', hnext, hplace⟩ := Phase.turns ht fun r hr => hleft ⟨r, hr⟩
      exact ⟨(attempts_after_of_none hnext.attempted?_eq_none).trans hattempts, phase', hplace⟩

/-- Whatever a caller has done by the end of a run, what is true of it holds. -/
theorem Reachable.facts {s : Session} (h : Reachable Caller.program Change.apply s w)
    {place : Place Session (Question β) Answer Unit} (hn : w.tasks[n]? = some (caller, place)) :
    caller.Facts n w place := by
  refine h.task_induction (P := fun w n caller place => caller.Facts n w place) ?_ ?_ ?_ hn
  · intro w n caller hnil
    have hattempts : attempts n w = [] := by rw [attempts, hnil, List.filterMap_nil]
    cases caller with
    | request => exact ⟨.joined, rfl, hnil⟩
    | refresh observed => exact ⟨hattempts, .waiting, rfl⟩
  · exact fun w w' n caller place hdeeds hseen h => h.mono hdeeds hseen
  · exact fun w n caller place t ht h => h.turn ht

/-- Whatever is true of a caller, it has kept to its login, unless that was replaced. -/
theorem Caller.Facts.sameLogin {place : Place Session (Question β) Answer Unit}
    (h : caller.Facts n w place) : SameLoginUnlessReplaced n w := by
  cases caller with
  | refresh observed => exact sameLogin_of_length_le (h.1 ▸ Nat.zero_le 1)
  | request =>
    obtain ⟨progress, -, h⟩ := h
    cases progress with
    | joined =>
      have hattempts : attempts n w = [] := congrArg (List.filterMap _) h
      exact sameLogin_of_length_le (hattempts ▸ Nat.zero_le 1)
    | trying observed => exact sameLogin_of_length_le (h.1 ▸ Nat.zero_le 1)
    | tried observed | refreshing observed f phase =>
      exact sameLogin_of_length_le (Nat.le_of_eq h.1)
    | retrying token | finished => exact h

end

/-! ## The login of a second attempt -/

/-- However requests and refreshes run side by side, whatever they are answered, and however others sign
in, sign out and change the profile meanwhile: a second attempt is made with a token that was stored in
the epoch in which the request was begun, unless another session has begun between the two looks of
who found the tokens exchanged already. -/
theorem same_login_unless_replaced (s : Session)
    (moves : List (Move Caller Change (Question β) Answer)) (n : Nat) :
    SameLoginUnlessReplaced n (requests s moves) := by
  have hr : Reachable Caller.program Change.apply s (requests (β := β) s moves) := ⟨moves, rfl⟩
  cases hn : (requests (β := β) s moves).tasks[n]? with
  | none =>
    have hattempts : attempts n (requests (β := β) s moves) = [] :=
      congrArg (List.filterMap _) (hr.deeds_eq_nil (List.getElem?_eq_none_iff.1 hn))
    exact sameLogin_of_length_le (hattempts ▸ Nat.zero_le 1)
  | some p => exact (Reachable.facts hr hn).sameLogin

/-- A session of somebody. -/
def someSession : Session :=
  .signIn ⟨"first access", "first refresh"⟩ ⟨⟨"1"⟩, "first", none, none, none, none⟩ .initial

/-- No request is accepted, and every exchange succeeds. -/
def renewing : (q : Question Unit) → Answer q
  | .attempt _ => .error (.unauthorized "Token is expired")
  | .exchange _ => .ok ⟨"second access", "second refresh"⟩

/-- A request is not accepted, finds that a refresh beside it has exchanged the tokens, and looks for
the new one just after somebody else has signed in. -/
def replacing : List (Move Caller Change (Question Unit) Answer) :=
  [.join .request, .join (.refresh someSession.snapshot), .go 0, .go 0, .answer 0 renewing,
    .go 1, .go 1, .go 1, .answer 1 renewing, .go 1, .go 1, .go 0, .go 0,
    .change (.signIn ⟨"other access", "other refresh"⟩ ⟨⟨"2"⟩, "other", none, none, none, none⟩),
    .go 0, .go 0, .go 0]

/-- Not every second attempt is made with a token of the login of the first. -/
theorem not_same_login : ¬ ∀ s moves n, SameLogin n (requests (β := Unit) s moves) := by
  intro h
  have hother : ∀ t ∈ (requests someSession replacing).seen, t.epoch = 1 →
      t.accessToken ≠ some "other access" := by decide
  obtain ⟨token, htoken, t, ht, he, ha⟩ :=
    h someSession replacing 0 (some "first access") (some "other access") [] _ rfl rfl
  cases htoken
  exact hother t ht he ha

end TripClient.Session
