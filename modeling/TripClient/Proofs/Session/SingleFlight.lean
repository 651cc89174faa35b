import Mathlib.Data.List.Nodup
import Mathlib.Data.List.Pairwise
import TripClient.Proofs.Scheduled
import TripClient.Proofs.Session.Refreshing

/-!
# One exchange for each generation

Callers whose token is no longer accepted refresh side by side, in any order, while others sign in and
out (`refreshes`). No two of them exchange tokens in the same generation, no two exchange tokens at
once, and each exchanges the token that was stored in the epoch and generation it had observed; nor is
anybody through without an exchange who has found the session as observed (`single_flight`).

The invariant is that of the gate (`Inv`): who does not hold it has not begun or is through, and who
holds it is in a phase of which `Holds` says what is true then. While nobody is between the start of an
exchange and its outcome, all exchanges belong to earlier generations (`Spent`); whoever comes back
from one restores this, since the generation has then moved on in one way or another. What holds in any
order holds in the order in which callers are run (`runAll_singleFlight`).
-/

namespace TripClient.Session

open Interleaving

variable {β : Type}

/-- Callers that refresh side by side, each known by the snapshot it has observed. -/
abbrev Refreshes (β : Type) : Type :=
  World Snapshot Change Session (Question β) Answer (Outcome String)

/-- Callers refresh, and others change the session, in the order of the moves. -/
def refreshes (s : Session) (moves : List (Move Snapshot Change (Question β) Answer)) :
    Refreshes β :=
  run refresh Change.apply s moves

/-- The start of an exchange: what the caller had observed, and the token it exchanges. -/
def exchangeStart? :
    Moment Snapshot Change Session (Question β) Answer → Option (Snapshot × String)
  | ⟨_, .stepped _ observed (.asked (.exchange token))⟩ => some (observed, token)
  | _ => none

/-- The exchanges that were started, the latest first. -/
def exchanges (w : Refreshes β) : List (Snapshot × String) := w.past.filterMap exchangeStart?

/-- Whether an exchange is under way here. -/
def isExchanging {α : Type} : Place Session (Question β) Answer α → Bool
  | .asking (.exchange _) _ => true
  | _ => false

/-- The token was stored in the epoch and generation of the snapshot. -/
def Stored (w : Refreshes β) (observed : Snapshot) (token : String) : Prop :=
  ∃ s ∈ w.seen, s.epoch = observed.epoch ∧ s.generation = observed.generation ∧
    s.refreshToken = some token

/-- All exchanges belong to earlier generations. -/
def Spent (w : Refreshes β) : Prop :=
  ∀ x ∈ exchanges w, x.1.generation < w.state.generation

/-- What is true while a caller holds the gate, by its phase. -/
def Holds (w : Refreshes β) (observed : Snapshot) : Phase → Prop
  | .waiting => False
  | .entered => Spent w
  | .reusing => Spent w
  | .starting token =>
    Stored w observed token ∧ ∀ x ∈ exchanges w, x.1.generation < observed.generation
  | .exchanging token =>
    Stored w observed token ∧ ∀ x ∈ exchanges w, x.1.generation ≤ observed.generation
  | .settling _ =>
    (∃ token, Stored w observed token) ∧ ∀ x ∈ exchanges w, x.1.generation ≤ observed.generation
  | .leaving _ => Spent w
  | .left _ => False

/-- The invariant of callers that refresh side by side. -/
structure Inv (w : Refreshes β) : Prop where
  /-- Each exchange belongs to a later generation than those before it. -/
  rising : (exchanges w).Pairwise fun later earlier => earlier.1.generation < later.1.generation
  stored : ∀ x ∈ exchanges w, Stored w x.1 x.2
  free : w.holder = none → Spent w
  /-- Who does not hold the gate has not begun or is through. -/
  outside : ∀ n observed place, w.tasks[n]? = some (observed, place) → w.holder ≠ some n →
    place = Phase.waiting.place observed .done ∨ ∃ r, place = (Phase.left r).place observed .done
  inside : ∀ n, w.holder = some n → ∃ observed phase,
    w.tasks[n]? = some (observed, phase.place observed .done) ∧ Holds w observed phase

/-! ## What stays true as the world goes on -/

section
variable {w w' : Refreshes β} {observed : Snapshot}

theorem Stored.mono {token : String} (hseen : ∀ s ∈ w.seen, s ∈ w'.seen)
    (h : Stored w observed token) : Stored w' observed token := by
  obtain ⟨s, hs, h⟩ := h
  exact ⟨s, hseen s hs, h⟩

theorem Spent.mono (hx : exchanges w' = exchanges w)
    (hg : w.state.generation ≤ w'.state.generation) (h : Spent w) : Spent w' := by
  intro x hx'
  exact Nat.lt_of_lt_of_le (h x (hx ▸ hx')) hg

/-- What is true while a caller holds the gate stays true whatever others do to the session. -/
theorem Holds.mono {phase : Phase} (hx : exchanges w' = exchanges w)
    (hseen : ∀ s ∈ w.seen, s ∈ w'.seen) (hg : w.state.generation ≤ w'.state.generation)
    (h : Holds w observed phase) : Holds w' observed phase := by
  cases phase with
  | waiting | left r => exact h
  | entered | reusing | leaving r => exact Spent.mono hx hg h
  | starting token | exchanging token => exact ⟨h.1.mono hseen, hx ▸ h.2⟩
  | settling answer => exact ⟨h.1.imp fun _ => Stored.mono hseen, hx ▸ h.2⟩

/-- When an exchange has failed, the generation that its caller had observed is over. -/
theorem Stored.lt_expire {token : String} (hleads : ∀ s ∈ w.seen, Leads s w.state)
    (h : Stored w observed token) :
    observed.generation < (w.state.expire observed.epoch).generation := by
  obtain ⟨s, hs, he, hg, -⟩ := h
  rw [← he, ← hg]
  exact generation_lt_expire (hleads s hs)

/-- When an exchange has succeeded, the generation that its caller had observed is over. -/
theorem Stored.lt_exchange {token : String} (hleads : ∀ s ∈ w.seen, Leads s w.state)
    (h : Stored w observed token) (tokens : TokenPair) :
    observed.generation < (w.state.exchange observed.epoch tokens).generation := by
  obtain ⟨s, hs, he, hg, ht⟩ := h
  rw [← he, ← hg]
  exact generation_lt_exchange (hleads s hs) (isSignedIn_of_refreshToken ht) tokens

/-- A caller that holds the gate still does after its turn, and what is true in its new phase holds; or
it has given the gate back, and all exchanges are spent. -/
theorem Holds.next {n : Nat} {phase phase' : Phase} {t : Turn Session (Question β) Answer _}
    (hleads : ∀ s ∈ w.seen, Leads s w.state)
    (hnext : phase.Next observed n w.state w.holder t.deed t.state t.holder phase')
    (h : Holds w observed phase) :
    (t.holder = w.holder ∧ Holds (w.after n observed t) observed phase') ∨
      (t.holder = none ∧ (∃ r, phase' = .left r) ∧ Spent (w.after n observed t)) := by
  obtain ⟨deed, s, holder, place⟩ := t
  have hseen : ∀ u ∈ w.seen, u ∈ (w.after n observed ⟨deed, s, holder, place⟩).seen :=
    fun u hu => List.mem_cons_of_mem _ hu
  generalize hgate : w.holder = gate at hnext
  cases hnext with
  | acquire => exact h.elim
  | late he => exact .inl ⟨rfl, h⟩
  | reuse he hg => exact .inl ⟨rfl, h⟩
  | signedOut he hg ht => exact .inl ⟨rfl, h⟩
  | start he hg ht =>
    exact .inl ⟨rfl, ⟨w.state, hseen _ (List.mem_cons_self), he, hg, ht⟩, hg ▸ h⟩
  | reused => exact .inl ⟨rfl, h⟩
  | ask =>
    refine .inl ⟨rfl, h.1.mono hseen, fun x hx => ?_⟩
    rcases List.mem_cons.1 hx with rfl | hx
    · exact Nat.le_refl _
    · exact Nat.le_of_lt (h.2 x hx)
  | answer answer => exact .inl ⟨rfl, ⟨_, h.1.mono hseen⟩, h.2⟩
  -- The exchanges up to this one are of the generation observed at most, and that is over now.
  | swap =>
    obtain ⟨⟨token, hstored⟩, hle⟩ := h
    exact .inl ⟨rfl, fun x hx => Nat.lt_of_le_of_lt (hle x hx) (hstored.lt_exchange hleads _)⟩
  | expire =>
    obtain ⟨⟨token, hstored⟩, hle⟩ := h
    exact .inl ⟨rfl, fun x hx => Nat.lt_of_le_of_lt (hle x hx) (hstored.lt_expire hleads)⟩
  | leave => exact .inr ⟨rfl, ⟨_, rfl⟩, h⟩

/-- A turn of the holder of the gate begins at most one exchange, with the token that it has found
stored and in a later generation than those before. -/
theorem Holds.exchanges_next {n : Nat} {phase phase' : Phase}
    {t : Turn Session (Question β) Answer _}
    (hnext : phase.Next observed n w.state w.holder t.deed t.state t.holder phase')
    (h : Holds w observed phase) :
    exchanges (w.after n observed t) = exchanges w ∨
      ∃ token, exchanges (w.after n observed t) = (observed, token) :: exchanges w ∧
        Stored w observed token ∧ ∀ x ∈ exchanges w, x.1.generation < observed.generation := by
  obtain ⟨deed, s, holder, place⟩ := t
  generalize hgate : w.holder = gate at hnext
  cases hnext with
  | ask => exact .inr ⟨_, rfl, h⟩
  | _ => exact .inl rfl

/-! ## The invariant is kept -/

/-- What others do, and that callers join, keeps the invariant. -/
theorem Inv.outside_step (h : Inv w) (hholder : w'.holder = w.holder)
    (htasks : ∀ (n : Nat) observed place, w'.tasks[n]? = some (observed, place) →
      w.tasks[n]? = some (observed, place) ∨ place = Phase.waiting.place observed .done)
    (hkeep : ∀ (n : Nat) p, w.tasks[n]? = some p → w'.tasks[n]? = some p)
    (hx : exchanges w' = exchanges w) (hseen : ∀ s ∈ w.seen, s ∈ w'.seen)
    (hg : w.state.generation ≤ w'.state.generation) : Inv w' where
  rising := hx ▸ h.rising
  stored x hx' := (h.stored x (hx ▸ hx')).mono hseen
  free hfree := (h.free (hholder ▸ hfree)).mono hx hg
  outside n observed place hn hne := by
    rcases htasks n observed place hn with hold | rfl
    · exact h.outside n observed place hold (hholder ▸ hne)
    · exact .inl rfl
  inside n hn := by
    obtain ⟨observed, phase, hn', hphase⟩ := h.inside n (hholder ▸ hn)
    exact ⟨observed, phase, hkeep n _ hn', hphase.mono hx hseen hg⟩

/-- The invariant holds after a turn of a caller that held the gate, or now does, if what is said of its
new phase does. -/
theorem Inv.after {n : Nat} {place : Place Session (Question β) Answer _} {phase' : Phase}
    {t : Turn Session (Question β) Answer _} (h : Inv w)
    (hn : w.tasks[n]? = some (observed, place)) (hplace : t.place = phase'.place observed .done)
    (hbefore : w.holder = none ∨ w.holder = some n)
    (hafter : t.holder = some n ∧ Holds (w.after n observed t) observed phase' ∨
      t.holder = none ∧ (∃ r, phase' = .left r) ∧ Spent (w.after n observed t))
    (hx : exchanges (w.after n observed t) = exchanges w ∨
      ∃ token, exchanges (w.after n observed t) = (observed, token) :: exchanges w ∧
        Stored w observed token ∧ ∀ x ∈ exchanges w, x.1.generation < observed.generation) :
    Inv (w.after n observed t) := by
  have hseen : ∀ u ∈ w.seen, u ∈ (w.after n observed t).seen := fun u hu => List.mem_cons_of_mem _ hu
  have hself : (w.after n observed t).tasks[n]? = some (observed, phase'.place observed .done) :=
    hplace ▸ World.getElem?_after t hn
  constructor
  · rcases hx with hx | ⟨token, hx, -, hlt⟩ <;> rw [hx]
    · exact h.rising
    · exact .cons hlt h.rising
  · rcases hx with hx | ⟨token, hx, hstored, -⟩ <;> rw [hx]
    · exact fun x hx => (h.stored x hx).mono hseen
    · intro x hx
      rcases List.mem_cons.1 hx with rfl | hx
      · exact hstored.mono hseen
      · exact (h.stored x hx).mono hseen
  · intro hfree
    rcases hafter with ⟨hgate, -⟩ | ⟨-, -, hspent⟩
    · exact nomatch hgate.symm.trans hfree
    · exact hspent
  · intro m observed' place' hm hne
    by_cases hmn : n = m
    · subst hmn
      rcases hafter with ⟨hgate, -⟩ | ⟨-, ⟨r, rfl⟩, -⟩
      · exact absurd hgate hne
      · cases hself.symm.trans hm
        exact .inr ⟨r, rfl⟩
    · refine h.outside m observed' place' (World.getElem?_after_ne t hmn ▸ hm) fun hgate => ?_
      rcases hbefore with hb | hb
      · exact nomatch hb.symm.trans hgate
      · exact hmn (Option.some.inj (hb.symm.trans hgate))
  · intro m hm
    rcases hafter with ⟨hgate, hphase⟩ | ⟨hgate, -⟩
    · cases hgate.symm.trans hm
      exact ⟨observed, phase', hself, hphase⟩
    · exact nomatch hgate.symm.trans hm

/-- A turn of a caller keeps the invariant. -/
theorem Inv.turn {n : Nat} {place : Place Session (Question β) Answer _}
    {t : Turn Session (Question β) Answer _} (hleads : ∀ s ∈ w.seen, Leads s w.state) (h : Inv w)
    (hn : w.tasks[n]? = some (observed, place)) (ht : Turns n w.state w.holder place t) :
    Inv (w.after n observed t) := by
  by_cases hgate : w.holder = some n
  · obtain ⟨observed', phase, hn', hphase⟩ := h.inside n hgate
    cases hn.symm.trans hn'
    obtain ⟨phase', hnext, hplace⟩ := Phase.turns ht (by rintro r rfl; exact hphase)
    refine h.after hn hplace (.inr hgate) ?_ (hphase.exchanges_next hnext)
    exact (hphase.next hleads hnext).imp_left fun hsame => ⟨hsame.1.trans hgate, hsame.2⟩
  · rcases h.outside n observed place hn hgate with rfl | ⟨r, rfl⟩
    · -- Who does not hold the gate can only take it.
      obtain ⟨phase', hnext, hplace⟩ := Phase.turns ht nofun
      obtain ⟨deed, s, holder, place⟩ := t
      generalize hfree : w.holder = gate at hnext
      cases hnext
      exact h.after hn hplace (.inl hfree) (.inl ⟨rfl, h.free hfree⟩) (.inl rfl)
    · exact absurd ht not_turns_done

/-- The states of a run of callers are in order. -/
theorem refreshes_leads {s : Session} (h : Reachable refresh Change.apply s w) :
    ∀ u ∈ w.seen, Leads u w.state := fun _ hu =>
  World.rel_state Leads.refl
    (h.seen_pairwise Leads.refl (fun _ _ _ => Leads.trans) refresh_within Change.leads) hu

/-- The invariant holds after every run. -/
theorem Reachable.inv {s : Session} (h : Reachable refresh Change.apply s w) : Inv w := by
  refine h.induction ?_ ?_ ?_ ?_
  · exact ⟨.nil, nofun, fun _ => nofun, nofun, nofun⟩
  · intro w observed _ hw
    refine hw.outside_step rfl (fun n observed' place hn => ?_)
      (fun _ _ => World.getElem?_join_of) rfl (fun u hu => List.mem_cons_of_mem _ hu)
      (Nat.le_refl _)
    refine (World.of_getElem?_join hn).imp_right fun h => ?_
    cases h
    exact congrArg Place.ready (Task.bind_done _).symm
  · intro w c _ hw
    exact hw.outside_step rfl (fun _ _ _ => .inl) (fun _ _ => id) rfl
      (fun u hu => List.mem_cons_of_mem _ hu) (c.leads w.state).generation_le
  · intro w n observed place t hr hw hn ht
    exact hw.turn (refreshes_leads hr) hn ht

/-- Whose exchange is under way holds the gate. -/
theorem Inv.holder_of_isExchanging {n : Nat} {place : Place Session (Question β) Answer _}
    (h : Inv w) (hn : w.tasks[n]? = some (observed, place)) (hx : isExchanging place) :
    w.holder = some n := by
  by_contra hne
  rcases h.outside n observed place hn hne with rfl | ⟨r, rfl⟩
  · rw [Phase.place, refresh_bind] at hx
    cases hx
  · cases hx

end

/-! ## Why a caller is through -/

/-- The caller has begun an exchange, or has found the session in another epoch or generation than it
had observed, or signed out. -/
def Cause (observed : Snapshot) (n : Nat) (w : Refreshes β) : Prop :=
  (∃ s token, (s, .asked (.exchange token)) ∈ w.deeds n) ∨
    ∃ s, (s, .acted) ∈ w.deeds n ∧
      (s.epoch ≠ observed.epoch ∨ s.generation ≠ observed.generation ∨ s.refreshToken = none)

/-- From which phase on there is a cause. -/
def Phase.Caused (observed : Snapshot) (n : Nat) (w : Refreshes β) : Phase → Prop
  | waiting | entered | starting _ => True
  | reusing | exchanging _ | settling _ | leaving _ | left _ => Cause observed n w

section
variable {w w' : Refreshes β} {observed : Snapshot} {n : Nat}

theorem Cause.mono (hdeeds : ∀ d ∈ w.deeds n, d ∈ w'.deeds n) (h : Cause observed n w) :
    Cause observed n w' := by
  rcases h with ⟨s, token, h⟩ | ⟨s, h, hs⟩
  · exact .inl ⟨s, token, hdeeds _ h⟩
  · exact .inr ⟨s, hdeeds _ h, hs⟩

theorem Phase.Caused.mono {phase : Phase} (hdeeds : ∀ d ∈ w.deeds n, d ∈ w'.deeds n)
    (h : phase.Caused observed n w) : phase.Caused observed n w' := by
  cases phase with
  | waiting | entered | starting token => trivial
  | reusing | exchanging _ | settling _ | leaving _ | left _ => exact Cause.mono hdeeds h

theorem Phase.Caused.next {phase phase' : Phase} {t : Turn Session (Question β) Answer _}
    (hnext : phase.Next observed n w.state w.holder t.deed t.state t.holder phase')
    (h : phase.Caused observed n w) : phase'.Caused observed n (w.after n observed t) := by
  have hdeeds : (w.after n observed t).deeds n = (w.state, t.deed) :: w.deeds n :=
    World.deeds_after t
  have hnew : (w.state, t.deed) ∈ (w.after n observed t).deeds n := hdeeds ▸ List.mem_cons_self
  have hold : ∀ d ∈ w.deeds n, d ∈ (w.after n observed t).deeds n :=
    fun d hd => hdeeds ▸ List.mem_cons_of_mem _ hd
  obtain ⟨deed, s, holder, place⟩ := t
  generalize w.holder = gate at hnext
  cases hnext with
  | acquire | start => trivial
  | late he => exact .inr ⟨w.state, hnew, .inl he⟩
  | reuse he hg => exact .inr ⟨w.state, hnew, .inr (.inl hg)⟩
  | signedOut he hg ht => exact .inr ⟨w.state, hnew, .inr (.inr ht)⟩
  | ask => exact .inl ⟨w.state, _, hnew⟩
  | reused | answer _ | swap | expire | leave => exact Cause.mono hold h

/-- Every caller is in a phase, and has a cause if one is due. -/
theorem Reachable.caused {s : Session} {place : Place Session (Question β) Answer (Outcome String)}
    (h : Reachable refresh Change.apply s w) (hn : w.tasks[n]? = some (observed, place)) :
    ∃ phase : Phase, place = phase.place observed .done ∧ phase.Caused observed n w := by
  refine h.task_induction (P := fun w n observed place => ∃ phase : Phase,
    place = phase.place observed .done ∧ phase.Caused observed n w) ?_ ?_ ?_ hn
  · exact fun w n observed _ => ⟨.waiting, congrArg Place.ready (Task.bind_done _).symm, trivial⟩
  · rintro w w' n observed place hdeeds - ⟨phase, hplace, h⟩
    exact ⟨phase, hplace, h.mono fun d hd => hdeeds ▸ hd⟩
  · rintro w n observed place t ht ⟨phase, rfl, h⟩
    by_cases hleft : ∃ r, phase = .left r
    · obtain ⟨r, rfl⟩ := hleft
      exact absurd ht not_turns_done
    · obtain ⟨phase', hnext, hplace⟩ := Phase.turns ht fun r hr => hleft ⟨r, hr⟩
      exact ⟨phase', hplace, h.next hnext⟩

/-- Whoever is through has a cause. -/
theorem Reachable.cause {s : Session} {r : Outcome String}
    (h : Reachable refresh Change.apply s w)
    (hn : w.tasks[n]? = some (observed, .ready (.done r))) : Cause observed n w := by
  obtain ⟨phase, hplace, h⟩ := Reachable.caused h hn
  cases phase with
  | waiting =>
    rw [Phase.place, refresh_bind] at hplace
    cases hplace
  | entered | starting _ => cases hplace
  | reusing | exchanging _ | settling _ | leaving _ | left _ => exact h

end

/-! ## Single flight -/

/-- What single flight means after a run. -/
structure SingleFlight (w : Refreshes β) : Prop where
  /-- No two exchanges were begun from the same epoch and generation. -/
  distinct : (exchanges w).Pairwise fun later earlier =>
    (later.1.epoch, later.1.generation) ≠ (earlier.1.epoch, earlier.1.generation)
  /-- Callers that have observed the same have begun at most one exchange between them. -/
  shared : ∀ observed, ((exchanges w).map Prod.fst).count observed ≤ 1
  /-- No two exchanges are under way. -/
  alone : ∀ (m n : Nat) observed observed' place place',
    w.tasks[m]? = some (observed, place) → w.tasks[n]? = some (observed', place') →
    isExchanging place → isExchanging place' → m = n
  /-- An exchange was begun with the token that was stored in the epoch and generation that its caller
  had observed, whenever the session was in them. -/
  stored : ∀ x ∈ exchanges w,
    (∃ t ∈ w.seen, t.epoch = x.1.epoch ∧ t.generation = x.1.generation) ∧
      ∀ t ∈ w.seen, t.epoch = x.1.epoch → t.generation = x.1.generation →
        t.refreshToken = some x.2
  /-- Nobody is through without an exchange who has found the session as observed, and a token in it. -/
  needed : ∀ (n : Nat) observed r, w.tasks[n]? = some (observed, .ready (.done r)) →
    Cause observed n w

/-- Within a generation the tokens stay. -/
theorem tokens_eq_of_generation_eq {w : Refreshes β}
    (h : w.seen.Pairwise fun later earlier => Leads earlier later) {t u : Session}
    (ht : t ∈ w.seen) (hu : u ∈ w.seen) (hg : t.generation = u.generation) :
    t.tokens? = u.tokens? := by
  let Same (t u : Session) : Prop := t.generation = u.generation → t.tokens? = u.tokens?
  have : Std.Symm Same := ⟨fun _ _ h hg => (h hg.symm).symm⟩
  have hsame : w.seen.Pairwise Same := h.imp fun hl hg => (hl.tokens_eq hg.symm).symm
  exact hsame.forall_of_forall (fun _ _ _ => rfl) ht hu hg

/-- After every run of callers their exchanges are in single flight. -/
theorem Reachable.singleFlight {w : Refreshes β} {s : Session}
    (hr : Reachable refresh Change.apply s w) : SingleFlight w := by
  have hinv := Reachable.inv hr
  have hdistinct : (exchanges w).Pairwise fun later earlier =>
      (later.1.epoch, later.1.generation) ≠ (earlier.1.epoch, earlier.1.generation) :=
    hinv.rising.imp fun hlt heq => Nat.ne_of_gt hlt (congrArg Prod.snd heq)
  refine ⟨hdistinct, fun observed => ?_, ?_, ?_, fun n observed r => Reachable.cause hr⟩
  · refine List.nodup_iff_count_le_one.1 (List.pairwise_map.2 (hdistinct.imp ?_)) observed
    intro later earlier hne heq
    exact hne (by rw [heq])
  · intro m n observed observed' place place' hm hn hp hp'
    exact Option.some.inj
      ((hinv.holder_of_isExchanging hm hp).symm.trans (hinv.holder_of_isExchanging hn hp'))
  · intro x hx
    obtain ⟨u, hu, he, hg, ht⟩ := hinv.stored x hx
    refine ⟨⟨u, hu, he, hg⟩, fun t hmem _ hg' => ?_⟩
    have hordered := hr.seen_pairwise Leads.refl (fun _ _ _ => Leads.trans) refresh_within
      Change.leads
    rw [refreshToken_eq, tokens_eq_of_generation_eq hordered hmem hu (hg'.trans hg.symm),
      ← refreshToken_eq, ht]

/-- However callers refresh side by side, whatever comes of their exchanges, and however others sign
in, sign out and change the profile meanwhile, their exchanges are in single flight. -/
theorem single_flight (s : Session) (moves : List (Move Snapshot Change (Question β) Answer)) :
    SingleFlight (refreshes s moves) :=
  Reachable.singleFlight ⟨moves, rfl⟩

/-- What others do while a question of a request is open, they do change by change. -/
theorem Outside.madeOf {E : Type} (o : Outside β E) : Schedule.MadeOf Change.apply o.respond :=
  fun q e => ⟨(o q e).2.changes, fun _ => rfl⟩

/-- Callers that are run side by side exchange in single flight. -/
theorem runAll_singleFlight {E : Type} (o : Outside β E) (limit : Nat)
    (callers : List (Nat × Snapshot)) (s : Session) (e : E) :
    ∃ w : Refreshes β, SingleFlight w ∧
      w.state = (runAll o.respond limit (callers.map fun c => (c.1, refresh c.2)) s e).1 := by
  obtain ⟨w, hr, hstate, -⟩ := runAll_reachable refresh_orderly o.madeOf limit callers s e
  exact ⟨w, Reachable.singleFlight hr, hstate⟩

end TripClient.Session
