import TripClient.Proofs.Session.Outcome

/-!
# What a request does

A request in the name of the session is followed on its own, whatever is answered and whatever others
do to the session while the first attempt, the exchange and the second attempt are under way. There are
four courses that it can take (`Course`, `authorized_course`): its first outcome stands, it gets no
exchange, its exchange is of no use, or it is made a second time. What is promised of a request is read
off them (`request_contract`).
-/

namespace TripClient.Session

variable {β E : Type}

/-! ## What is outside of a request -/

namespace Outside

variable (o : Outside β E) (s : Session) (e : E)

/-- What comes of the first attempt. -/
def first : E × Meanwhile (Outcome β) := o (.attempt s.snapshot.token) e

/-- The session after the first attempt. -/
def afterFirst : Session := applyAll (o.first s e).2.changes s

/-- What comes of the exchange of a token after the first attempt. -/
def exchange (token : String) : E × Meanwhile (Outcome TokenPair) :=
  o (.exchange token) (o.first s e).1

/-- The session in which the exchange comes back. -/
def afterExchange (token : String) : Session :=
  applyAll (o.exchange s e token).2.changes (o.afterFirst s e)

/-- What comes of the second attempt, after the exchange of a token for another. -/
def second (token access : String) : E × Meanwhile (Outcome β) :=
  o (.attempt (some access)) (o.exchange s e token).1

end Outside

/-- The token of an attempt, and its outcome. -/
def attempt? : Said Session (Question β) Answer → Option (Option String × Outcome β)
  | ⟨.attempt token, reply⟩ => some (token, reply.answer)
  | _ => none

/-- The token that is exchanged, and the outcome. -/
def exchange? : Said Session (Question β) Answer → Option (String × Outcome TokenPair)
  | ⟨.exchange token, reply⟩ => some (token, reply.answer)
  | _ => none

/-! ## The courses of a request -/

/-- The courses that a request can take: what it asks and what it is told, and its result. -/
inductive Course (o : Outside β E) (s : Session) (e : E) :
    List (Said Session (Question β) Answer) → Outcome β → Prop
  /-- The first outcome stands. -/
  | stood : (∀ f, (o.first s e).2.answer = .error f → f.isUnauthorized = false) →
      Course o s e [⟨.attempt s.snapshot.token, (o.respond (.attempt s.snapshot.token) e).2⟩]
        (o.first s e).2.answer
  /-- There is nothing to exchange, or not for this request. -/
  | refused {f : Failure} : (o.first s e).2.answer = .error f → f.isUnauthorized →
      (o.afterFirst s e).epoch ≠ s.epoch ∨ (o.afterFirst s e).refreshToken = none →
      Course o s e [⟨.attempt s.snapshot.token, (o.respond (.attempt s.snapshot.token) e).2⟩]
        (.error f)
  /-- The exchange fails, or its tokens come too late. -/
  | failed {f : Failure} {token : String} : (o.first s e).2.answer = .error f →
      f.isUnauthorized → (o.afterFirst s e).epoch = s.epoch →
      (o.afterFirst s e).refreshToken = some token →
      (∀ tokens, (o.exchange s e token).2.answer = .ok tokens →
        (o.afterExchange s e token).epoch ≠ s.epoch) →
      Course o s e
        [⟨.attempt s.snapshot.token, (o.respond (.attempt s.snapshot.token) e).2⟩,
          ⟨.exchange token, (o.respond (.exchange token) (o.first s e).1).2⟩]
        (.error f)
  /-- The outcome of the second attempt stands. -/
  | retried {f : Failure} {token : String} {tokens : TokenPair} :
      (o.first s e).2.answer = .error f → f.isUnauthorized →
      (o.afterFirst s e).epoch = s.epoch → (o.afterFirst s e).refreshToken = some token →
      (o.exchange s e token).2.answer = .ok tokens →
      (o.afterExchange s e token).epoch = s.epoch →
      Course o s e
        [⟨.attempt s.snapshot.token, (o.respond (.attempt s.snapshot.token) e).2⟩,
          ⟨.exchange token, (o.respond (.exchange token) (o.first s e).1).2⟩,
          ⟨.attempt (some tokens.access),
            (o.respond (.attempt (some tokens.access)) (o.exchange s e token).1).2⟩]
        (o.second s e token tokens.access).2.answer

/-- A request on its own makes its first attempt, and goes on with what comes of it. -/
theorem authorized_alone (o : Outside β E) (s : Session) (e : E) :
    authorized.alone o.respond s e =
      let rest := (afterAttempt s.snapshot (o.first s e).2.answer).alone o.respond
        (o.afterFirst s e) (o.first s e).1
      { rest with said :=
          ⟨.attempt s.snapshot.token, (o.respond (.attempt s.snapshot.token) e).2⟩ :: rest.said } := by
  rw [authorized_eq]
  rfl

/-- An outcome other than that the token is not accepted stands. -/
theorem afterAttempt_of_accepted {answer : Outcome β} {observed : Snapshot}
    (h : ∀ f, answer = .error f → f.isUnauthorized = false) :
    afterAttempt observed answer = .done answer := by
  cases answer with
  | ok b => rfl
  | error f => simp [afterAttempt, h f rfl]

/-- A request that is not accepted refreshes, and goes on with what comes of it. -/
theorem afterAttempt_alone {f : Failure} (hf : f.isUnauthorized)
    (respond : Responder Session (Question β) Answer E) (observed : Snapshot) (s : Session) (e : E) :
    (afterAttempt observed (.error f)).alone respond s e =
      let got := (decideOn observed s).alone respond s e
      let rest := (again f got.result).alone respond got.state got.responder
      { rest with said := got.said ++ rest.said } := by
  simp only [afterAttempt, hf, if_true, Task.alone_bind, refresh_alone]

/-- A request that finds its session as it was exchanges the tokens. -/
theorem exchange_alone {o : Outside β E} {s : Session} {e : E} {token : String}
    (he : (o.afterFirst s e).epoch = s.epoch)
    (ht : (o.afterFirst s e).refreshToken = some token) :
    (decideOn s.snapshot (o.afterFirst s e)).alone o.respond (o.afterFirst s e) (o.first s e).1 =
      let rest := (settle s.epoch (o.exchange s e token).2.answer).alone o.respond
        (o.afterExchange s e token) (o.exchange s e token).1
      { rest with said :=
          ⟨.exchange token, (o.respond (.exchange token) (o.first s e).1).2⟩ :: rest.said } := by
  rw [decideOn_of_some he (generation_applyAll he) ht]
  rfl

/-- A request takes one of the courses. -/
theorem authorized_course (o : Outside β E) (s : Session) (e : E) :
    Course o s e (authorized.alone o.respond s e).said (authorized.alone o.respond s e).result := by
  rw [authorized_alone]
  by_cases hf : ∃ f, (o.first s e).2.answer = .error f ∧ f.isUnauthorized
  · obtain ⟨f, hfirst, hf⟩ := hf
    rw [hfirst, afterAttempt_alone hf]
    by_cases he : (o.afterFirst s e).epoch = s.epoch
    · cases ht : (o.afterFirst s e).refreshToken with
      | none =>
        rw [decideOn_of_none he (generation_applyAll he) ht]
        exact .refused hfirst hf (.inr ht)
      | some token =>
        rw [exchange_alone he ht]
        cases hx : (o.exchange s e token).2.answer with
        | error g => exact .failed hfirst hf he ht (fun _ h => nomatch hx.symm.trans h)
        | ok tokens =>
          by_cases he' : (o.afterExchange s e token).epoch = s.epoch
          · have hin : (o.afterExchange s e token).isSignedIn :=
              (leads_applyAll _ _).signedIn_eq (he.trans he'.symm) ▸ isSignedIn_of_refreshToken ht
            have hgot := exchanged_of_eq he' hin tokens
            simp only [settle, Task.alone, hgot, again]
            exact .retried hfirst hf he ht hx he'
          · have hgot := exchanged_of_ne he' tokens
            simp only [settle, Task.alone, hgot, again]
            exact .failed hfirst hf he ht fun _ _ => he'
    · rw [decideOn_of_ne he]
      exact .refused hfirst hf (.inl he)
  · have hstood : ∀ f, (o.first s e).2.answer = .error f → f.isUnauthorized = false :=
      fun f h => Bool.eq_false_iff.2 fun hun => hf ⟨f, h, hun⟩
    rw [afterAttempt_of_accepted hstood]
    exact .stood hstood

section
variable {o : Outside β E} {s : Session} {e : E} {result : Outcome β}
  {said : List (Said Session (Question β) Answer)}

/-- What was accepted was asked for once. -/
theorem Course.stood_of_accepted (h : Course o s e said result)
    (hacc : ∀ f, (o.first s e).2.answer = .error f → f.isUnauthorized = false) :
    said.filterMap attempt? = [(s.snapshot.token, (o.first s e).2.answer)] ∧
      said.filterMap exchange? = [] ∧ result = (o.first s e).2.answer := by
  cases h with
  | stood => exact ⟨rfl, rfl, rfl⟩
  | refused hfirst hf | failed hfirst hf | retried hfirst hf =>
    exact nomatch (hacc _ hfirst).symm.trans hf

/-- Who finds nobody signed in, or another session, exchanges nothing. -/
theorem Course.not_exchanged (h : Course o s e said result)
    (hover : (o.afterFirst s e).isSignedIn = false ∨ (o.afterFirst s e).epoch ≠ s.epoch) :
    said.filterMap exchange? = [] := by
  cases h with
  | stood | refused => rfl
  | failed _ _ he ht | retried _ _ he ht =>
    rcases hover with hout | hne
    · exact nomatch hout.symm.trans (isSignedIn_of_refreshToken ht)
    · exact absurd he hne

/-- Who finds the session as it was exchanges its token. -/
theorem Course.exchanged {f : Failure} {token : String} (h : Course o s e said result)
    (hfirst : (o.first s e).2.answer = .error f) (hf : f.isUnauthorized)
    (he : (o.afterFirst s e).epoch = s.epoch)
    (ht : (o.afterFirst s e).refreshToken = some token) :
    said.filterMap exchange? = [(token, (o.exchange s e token).2.answer)] := by
  cases h with
  | stood hacc => exact nomatch (hacc _ hfirst).symm.trans hf
  | refused _ _ hnone =>
    rcases hnone with hne | hnone
    · exact absurd he hne
    · exact nomatch hnone.symm.trans ht
  | failed _ _ _ ht' | retried _ _ _ ht' =>
    cases ht.symm.trans ht'
    rfl

/-- Who gets new tokens while the session is still the same asks once more. -/
theorem Course.retried_of_exchanged {f : Failure} {token : String} {tokens : TokenPair}
    (h : Course o s e said result) (hfirst : (o.first s e).2.answer = .error f)
    (hx : said.filterMap exchange? = [(token, .ok tokens)])
    (he : (o.afterExchange s e token).epoch = s.epoch) :
    said.filterMap attempt? = [(s.snapshot.token, .error f),
      (some tokens.access, (o.second s e token tokens.access).2.answer)] ∧
      result = (o.second s e token tokens.access).2.answer := by
  cases h with
  | stood | refused => exact nomatch hx
  | failed _ _ _ _ hlate =>
    obtain ⟨rfl, hanswer⟩ := Prod.mk.inj (List.cons.inj hx).1
    exact absurd he (hlate tokens hanswer)
  | retried _ _ _ _ hanswer' =>
    obtain ⟨rfl, hanswer⟩ := Prod.mk.inj (List.cons.inj hx).1
    cases hanswer'.symm.trans hanswer
    exact ⟨congrArg (fun answer => [(s.snapshot.token, answer), _]) hfirst, rfl⟩

/-- Who gets no new tokens, or gets them too late, hands on the first failure. -/
theorem Course.given_up {f : Failure} (h : Course o s e said result)
    (hfirst : (o.first s e).2.answer = .error f)
    (hx : ∀ token tokens, said.filterMap exchange? = [(token, .ok tokens)] →
      (o.afterExchange s e token).epoch ≠ s.epoch) :
    said.filterMap attempt? = [(s.snapshot.token, .error f)] ∧ result = .error f := by
  have hattempt : [(s.snapshot.token, (o.first s e).2.answer)] = [(s.snapshot.token, .error f)] :=
    by rw [hfirst]
  cases h with
  | stood => exact ⟨hattempt, hfirst⟩
  | refused hfirst' | failed hfirst' => exact ⟨hattempt, hfirst'.symm.trans hfirst⟩
  | retried _ _ _ _ hanswer he =>
    exact absurd he (hx _ _ (congrArg (fun answer => [(_, answer)]) hanswer))

theorem Course.attempts_le (h : Course o s e said result) :
    (said.filterMap attempt?).length ≤ 2 := by
  cases h with
  | stood | refused | failed => exact Nat.le_succ 1
  | retried => exact Nat.le_refl 2

theorem Course.exchanges_le (h : Course o s e said result) :
    (said.filterMap exchange?).length ≤ 1 := by
  cases h with
  | stood | refused => exact Nat.zero_le 1
  | failed | retried => exact Nat.le_refl 1

end

/-- A request takes the gate only to refresh, and gives it back. -/
theorem authorized_orderly : (authorized : Work β _).Orderly false false := by
  rw [authorized_eq]
  intro s answer
  cases answer with
  | ok b => rfl
  | error f =>
    rw [afterAttempt]
    split
    · refine (refresh_orderly s.snapshot).bind fun r => ?_
      cases r with
      | ok token => exact fun _ => rfl
      | error g => rfl
    · rfl

/-! ## The contract -/

/-- What is promised of a request on its own. -/
structure Dispatched (o : Outside β E) (s : Session) (e : E)
    (solo : Solo Session (Question β) Answer E (Outcome β)) : Prop where
  /-- It finishes when it is run. -/
  finished : ∀ visits, ∃ k, ∀ limit, k ≤ limit →
    runAll o.respond limit [(visits, authorized)] s e =
      (solo.state, solo.responder, [some solo.result])
  /-- The first attempt is made with the token of the session as it is then. -/
  first : solo.said.head? =
    some ⟨.attempt s.snapshot.token, (o.respond (.attempt s.snapshot.token) e).2⟩
  anonymous : s.isSignedIn = false → s.snapshot.token = none
  /-- An outcome other than that the token is not accepted is handed on as it is. -/
  stood : (∀ f, (o.first s e).2.answer = .error f → f.isUnauthorized = false) →
    solo.said.filterMap attempt? = [(s.snapshot.token, (o.first s e).2.answer)] ∧
      solo.said.filterMap exchange? = [] ∧ solo.result = (o.first s e).2.answer
  /-- Nothing is exchanged when the session is over or another has begun. -/
  not_exchanged : (o.afterFirst s e).isSignedIn = false ∨ (o.afterFirst s e).epoch ≠ s.epoch →
    solo.said.filterMap exchange? = []
  /-- Otherwise the token of the session is exchanged once. -/
  exchanged : ∀ f token, (o.first s e).2.answer = .error f → f.isUnauthorized →
    (o.afterFirst s e).epoch = s.epoch → (o.afterFirst s e).refreshToken = some token →
    solo.said.filterMap exchange? = [(token, (o.exchange s e token).2.answer)]
  /-- If the exchange succeeds and the session is still the same, a second attempt is made with the new
  token, and its outcome is handed on as it is. -/
  retried : ∀ f token tokens, (o.first s e).2.answer = .error f → f.isUnauthorized →
    solo.said.filterMap exchange? = [(token, .ok tokens)] →
    (o.afterExchange s e token).epoch = s.epoch →
    solo.said.filterMap attempt? = [(s.snapshot.token, .error f),
      (some tokens.access, (o.second s e token tokens.access).2.answer)] ∧
      solo.result = (o.second s e token tokens.access).2.answer
  /-- In every other case the first failure stands. -/
  given_up : ∀ f, (o.first s e).2.answer = .error f → f.isUnauthorized →
    (∀ token tokens, solo.said.filterMap exchange? = [(token, .ok tokens)] →
      (o.afterExchange s e token).epoch ≠ s.epoch) →
    solo.said.filterMap attempt? = [(s.snapshot.token, .error f)] ∧ solo.result = .error f
  attempts_le : (solo.said.filterMap attempt?).length ≤ 2
  exchanges_le : (solo.said.filterMap exchange?).length ≤ 1

/-- Whatever the session, whatever comes of the attempts and the exchange, and however others change
the session meanwhile, a request does what is promised of it. -/
theorem request_contract (o : Outside β E) (s : Session) (e : E) :
    Dispatched o s e (authorized.alone o.respond s e) := by
  have hcourse := authorized_course o s e
  constructor
  · exact fun visits => runAll_singleton o.respond authorized_orderly visits s e
  · rw [authorized_alone]
    rfl
  · intro hout
    rw [isSignedIn, Option.isSome_eq_false_iff, Option.isNone_iff_eq_none] at hout
    rw [snapshot, accessToken, hout, Option.map_none]
  · exact hcourse.stood_of_accepted
  · exact hcourse.not_exchanged
  · exact fun f token => hcourse.exchanged
  · exact fun f token tokens hfirst _ => hcourse.retried_of_exchanged hfirst
  · exact fun f hfirst _ => hcourse.given_up hfirst
  · exact hcourse.attempts_le
  · exact hcourse.exchanges_le

end TripClient.Session
