import TripClient.Proofs.Alone
import TripClient.Proofs.Interleaving

/-!
# The order in which tasks are run

`runAll` gives turns to tasks in one order among many. It goes on with a task until that has to wait,
and keeps a queue for the gate. Yet each of its steps is a move of a world in which tasks take turns in
any order, or a few (`run_becomes`, `visit_becomes`), so it ends where some run ends
(`runAll_reachable`): what is shown of every order of steps holds of tasks that are run.
-/

namespace TripClient.Schedule

open Interleaving hiding run

variable {S Q : Type} {A : Q → Type} {E α L C : Type}

/-! ## Some moves -/

section
variable (program : L → Task S Q A α) (outside : C → S → S)

/-- The second world comes of the first by some moves. -/
def Becomes (W W' : World L C S Q A α) : Prop :=
  ∃ moves : List (Move L C Q A), moves.foldl (World.step program outside) W = W'

end

section
variable {program : L → Task S Q A α} {outside : C → S → S} {W W' W'' : World L C S Q A α}
  {n : Nat} {label : L} {place : Place S Q A α} {t : Turn S Q A α}

theorem Becomes.refl (W : World L C S Q A α) : Becomes program outside W W := ⟨[], rfl⟩

theorem Becomes.trans (h : Becomes program outside W W') (k : Becomes program outside W' W'') :
    Becomes program outside W W'' := by
  obtain ⟨moves, rfl⟩ := h
  obtain ⟨moves', rfl⟩ := k
  exact ⟨moves ++ moves', List.foldl_append⟩

theorem becomes_step (program : L → Task S Q A α) (outside : C → S → S) (W : World L C S Q A α)
    (move : Move L C Q A) : Becomes program outside W (W.step program outside move) :=
  ⟨[move], rfl⟩

/-- A task may take its next step. -/
theorem becomes_go (hn : W.tasks[n]? = some (label, place))
    (ht : next? n W.state W.holder place = some t) :
    Becomes program outside W (W.after n label t) := by
  have h := becomes_step program outside W (.go n)
  simp only [World.step, World.give, hn, ht] at h
  exact h

/-- A task may get the answer to its question. -/
theorem becomes_answer {q : Q} {next : A q → Task S Q A α} (answers : (q : Q) → A q)
    (hn : W.tasks[n]? = some (label, .asking q next)) :
    Becomes program outside W (W.after n label
      ⟨.answered q (answers q), W.state, W.holder, .ready (next (answers q))⟩) := by
  have h := becomes_step program outside W (.answer n answers)
  rwa [World.step, World.give, hn] at h

/-- Others may change the state several times. -/
theorem becomes_changes (program : L → Task S Q A α) (outside : C → S → S) (changes : List C)
    (W : World L C S Q A α) :
    ∃ W', Becomes program outside W W' ∧
      W'.state = changes.foldl (fun s c => outside c s) W.state ∧ W'.holder = W.holder ∧
      W'.tasks = W.tasks := by
  induction changes generalizing W with
  | nil => exact ⟨W, .refl W, rfl, rfl, rfl⟩
  | cons c changes ih =>
    obtain ⟨W', hW', hstate, hholder, htasks⟩ := ih (W.change outside c)
    exact ⟨W', (becomes_step program outside W (.change c)).trans hW', hstate, hholder, htasks⟩

end

/-! ## Where a task that is run has come -/

/-- Where a task is that is so far, if its gate is held by `holder`. -/
inductive Follows (respond : Responder S Q A E) (n : Nat) (holder : Option Nat) :
    Process S Q A α → Place S Q A α → Prop
  | ready {visits : Nat} {task : Task S Q A α} : task.Orderly (holder == some n) false →
      Follows respond n holder (.waiting visits task) (.ready task)
  | asking {visits : Nat} {q : Q} {next : A q → Task S Q A α} (e : E) :
      (∀ a, (next a).Orderly (holder == some n) false) →
      Follows respond n holder
        (.waiting visits (.act (respond q e).2.meanwhile fun _ => next (respond q e).2.answer))
        (.asking q next)
  | queued {task : Task S Q A α} : holder ≠ some n → task.Orderly true false →
      Follows respond n holder (.queued task) (.ready (.acquire task))
  /-- The gate has been handed over, and the task does not know it yet. -/
  | granted {task : Task S Q A α} : holder = some n → task.Orderly true false →
      Follows respond n holder (.queued task) (.ready task)
  | finished {a : α} : Follows respond n holder (.finished a) (.ready (.done a))

/-- A task stays where it is when the gate changes hands between others. -/
theorem Follows.of_holder {respond : Responder S Q A E} {n : Nat} {holder holder' : Option Nat}
    {p : Process S Q A α} {place : Place S Q A α} (hh : holder = some n ↔ holder' = some n)
    (h : Follows respond n holder p place) : Follows respond n holder' p place := by
  have hheld : (holder == some n) = (holder' == some n) := by
    rw [Bool.eq_iff_iff, beq_iff_eq, beq_iff_eq]
    exact hh
  cases h with
  | ready ht => exact .ready (hheld ▸ ht)
  | asking e ht => exact .asking e (hheld ▸ ht)
  | queued hne ht => exact .queued (fun h => hne (hh.2 h)) ht
  | granted heq ht => exact .granted (hh.1 heq) ht
  | finished => exact .finished

/-- The world in which tasks are that are run: each is where it has come, and those in the queue wait
for the gate. -/
structure Sim (respond : Responder S Q A E) (w : Stage S E) (ps : List (Process S Q A α))
    (W : World L C S Q A α) : Prop where
  state : W.state = w.state
  holder : W.holder = w.holder
  length : W.tasks.length = ps.length
  follows : ∀ (n : Nat) p label place, ps[n]? = some p → W.tasks[n]? = some (label, place) →
    Follows respond n w.holder p place
  queued : ∀ n ∈ w.queue, w.holder ≠ some n ∧ ∃ t, ps[n]? = some (.queued t)
  nodup : w.queue.Nodup

section
variable {respond : Responder S Q A E} {w w' : Stage S E} {ps : List (Process S Q A α)}
  {W : World L C S Q A α} {n : Nat} {label : L} {place : Place S Q A α} {p : Process S Q A α}

/-- A task has come further. -/
theorem Sim.update {W' : World L C S Q A α} {place' : Place S Q A α} (h : Sim respond w ps W)
    (hW : W.tasks[n]? = some (label, place)) (htasks : W'.tasks = W.tasks.set n (label, place'))
    (hstate : W'.state = w'.state) (hholder : W'.holder = w'.holder)
    (hothers : ∀ m, m ≠ n → (w.holder = some m ↔ w'.holder = some m))
    (hfollows : Follows respond n w'.holder p place')
    (hqueued : ∀ m ∈ w'.queue, w'.holder ≠ some m ∧ ∃ t, (ps.set n p)[m]? = some (.queued t))
    (hnodup : w'.queue.Nodup) : Sim respond w' (ps.set n p) W' where
  state := hstate
  holder := hholder
  length := by rw [htasks, List.length_set, List.length_set, h.length]
  follows m p' label' place'' hp hm := by
    rw [htasks] at hm
    obtain ⟨hlt, -⟩ := List.getElem?_eq_some_iff.1 hW
    by_cases hnm : n = m
    · subst hnm
      rw [List.getElem?_set_self (h.length ▸ hlt)] at hp
      rw [List.getElem?_set_self hlt] at hm
      cases hp
      cases hm
      exact hfollows
    · rw [List.getElem?_set_ne hnm] at hp hm
      exact (h.follows m p' label' place'' hp hm).of_holder (hothers m (Ne.symm hnm))
  queued := hqueued
  nodup := hnodup

/-- A task has taken a turn. -/
theorem Sim.after (h : Sim respond w ps W) (hW : W.tasks[n]? = some (label, place))
    {t : Turn S Q A α} (hstate : t.state = w'.state) (hholder : t.holder = w'.holder)
    (hothers : ∀ m, m ≠ n → (w.holder = some m ↔ w'.holder = some m))
    (hfollows : Follows respond n w'.holder p t.place)
    (hqueued : ∀ m ∈ w'.queue, w'.holder ≠ some m ∧ ∃ t, (ps.set n p)[m]? = some (.queued t))
    (hnodup : w'.queue.Nodup) : Sim respond w' (ps.set n p) (W.after n label t) :=
  h.update hW rfl hstate hholder hothers hfollows hqueued hnodup

/-- A task has come further without a turn. -/
theorem Sim.keep (h : Sim respond w ps W) (hW : W.tasks[n]? = some (label, place))
    (hstate : w'.state = w.state) (hholder : w'.holder = w.holder)
    (hfollows : Follows respond n w.holder p place)
    (hqueued : ∀ m ∈ w'.queue, w.holder ≠ some m ∧ ∃ t, (ps.set n p)[m]? = some (.queued t))
    (hnodup : w'.queue.Nodup) : Sim respond w' (ps.set n p) W := by
  obtain ⟨hlt, hself⟩ := List.getElem?_eq_some_iff.1 hW
  have htasks : W.tasks = W.tasks.set n (label, place) := by rw [← hself, List.set_getElem_self]
  refine h.update hW htasks (h.state.trans hstate.symm) (h.holder.trans hholder.symm) ?_ ?_ ?_ hnodup
  · exact fun m _ => by rw [hholder]
  · rwa [hholder]
  · rwa [hholder]

/-- Each task is somewhere. -/
theorem Sim.exists_follows (h : Sim respond w ps W) (hp : ps[n]? = some p) :
    ∃ label place, W.tasks[n]? = some (label, place) ∧ Follows respond n w.holder p place := by
  obtain ⟨hlt, -⟩ := List.getElem?_eq_some_iff.1 hp
  have hW : W.tasks[n]? = some _ := List.getElem?_eq_getElem (h.length ▸ hlt)
  exact ⟨_, _, hW, h.follows n p _ _ hp hW⟩

/-- Those in the queue stay there when another task has come further. -/
theorem Sim.queued_set (h : Sim respond w ps W) (hn : n ∉ w.queue) (p : Process S Q A α) :
    ∀ m ∈ w.queue, w.holder ≠ some m ∧ ∃ t, (ps.set n p)[m]? = some (.queued t) := by
  intro m hm
  have hnm : n ≠ m := by rintro rfl; exact hn hm
  rw [List.getElem?_set_ne hnm]
  exact h.queued m hm

end

/-! ## What is run becomes what some moves lead to -/

/-- What happens to the state while a question is open is done by others, one change after the other. -/
def MadeOf (outside : C → S → S) (respond : Responder S Q A E) : Prop :=
  ∀ q e, ∃ changes : List C, ∀ s,
    (respond q e).2.meanwhile s = changes.foldl (fun s c => outside c s) s

section
variable (program : L → Task S Q A α) (outside : C → S → S) {respond : Responder S Q A E}
  {w : Stage S E} {ps : List (Process S Q A α)} {W : World L C S Q A α} {n : Nat} {label : L}

/-- A task changes the state. -/
theorem act_becomes {change : S → S} {next : S → Task S Q A α} (h : Sim respond w ps W)
    (hn : n ∉ w.queue) (hW : W.tasks[n]? = some (label, .ready (.act change next)))
    (hnext : ∀ s, (next s).Orderly (w.holder == some n) false) :
    ∃ W', Becomes program outside W W' ∧
      Sim respond { w with state := change w.state } (ps.set n (.waiting 0 (next w.state))) W' ∧
      W'.tasks[n]? = some (label, .ready (next w.state)) := by
  rw [← h.state]
  let turn : Turn S Q A α := ⟨.acted, change W.state, W.holder, .ready (next W.state)⟩
  refine ⟨_, becomes_go hW rfl, ?_, World.getElem?_after turn hW⟩
  exact h.after hW rfl h.holder (fun _ _ => Iff.rfl) (.ready (hnext _)) (h.queued_set hn _) h.nodup

/-- A task asks a question. -/
theorem ask_becomes {q : Q} {next : A q → Task S Q A α} (h : Sim respond w ps W)
    (hn : n ∉ w.queue) (hW : W.tasks[n]? = some (label, .ready (.ask q next)))
    (hnext : ∀ a, (next a).Orderly (w.holder == some n) false) (e e' : E) (visits : Nat) :
    ∃ W', Becomes program outside W W' ∧
      Sim respond { w with responder := e' } (ps.set n (.waiting visits
        (.act (respond q e).2.meanwhile fun _ => next (respond q e).2.answer))) W' ∧
      W'.tasks[n]? = some (label, .asking q next) := by
  let turn : Turn S Q A α := ⟨.asked q, W.state, W.holder, .asking q next⟩
  refine ⟨_, becomes_go hW rfl, ?_, World.getElem?_after turn hW⟩
  exact h.after hW h.state h.holder (fun _ _ => Iff.rfl) (.asking e hnext) (h.queued_set hn _) h.nodup

/-- When the answer to a question is there, others have changed the state, and the task goes on. -/
theorem answer_becomes {q : Q} {next : A q → Task S Q A α} (hothers : MadeOf outside respond)
    (h : Sim respond w ps W) (hn : n ∉ w.queue) (hW : W.tasks[n]? = some (label, .asking q next))
    (hnext : ∀ a, (next a).Orderly (w.holder == some n) false) (e e' : E) (visits : Nat) :
    ∃ W', Becomes program outside W W' ∧
      Sim respond { w with state := (respond q e).2.meanwhile w.state, responder := e' }
        (ps.set n (.waiting visits (next (respond q e).2.answer))) W' ∧
      W'.tasks[n]? = some (label, .ready (next (respond q e).2.answer)) := by
  obtain ⟨changes, hchanges⟩ := hothers q e
  obtain ⟨W₁, hW₁, hstate, hholder, htasks⟩ := becomes_changes program outside changes W
  have h₁ : Sim respond { w with state := (respond q e).2.meanwhile w.state, responder := e' } ps
      W₁ := by
    refine ⟨?_, hholder.trans h.holder, htasks ▸ h.length, ?_, h.queued, h.nodup⟩
    · rw [hstate, hchanges, h.state]
    · exact fun m p label place hp hm => h.follows m p label place hp (htasks ▸ hm)
  have hn₁ : W₁.tasks[n]? = some (label, .asking q next) := htasks ▸ hW
  refine ⟨_, hW₁.trans (becomes_answer (fun q => (respond q e).2.answer) hn₁), ?_,
    World.getElem?_after _ hn₁⟩
  exact h₁.after hn₁ h₁.state h₁.holder (fun _ _ => Iff.rfl) (.ready (hnext _)) (h.queued_set hn _)
    h.nodup

/-- A task takes the gate when it is free. -/
theorem acquire_becomes {next : Task S Q A α} (h : Sim respond w ps W) (hn : n ∉ w.queue)
    (hW : W.tasks[n]? = some (label, .ready (.acquire next))) (hfree : w.holder = none)
    (hnext : next.Orderly true false) :
    ∃ W', Becomes program outside W W' ∧
      Sim respond { w with holder := some n } (ps.set n (.waiting 0 next)) W' ∧
      W'.tasks[n]? = some (label, .ready next) := by
  let turn : Turn S Q A α := ⟨.acquired, W.state, some n, .ready next⟩
  have hgo : next? n W.state W.holder (.ready (.acquire next)) = some turn := by
    rw [h.holder, hfree]
    rfl
  refine ⟨_, becomes_go hW hgo, ?_, World.getElem?_after turn hW⟩
  refine h.after hW h.state rfl (fun m hm => ?_) (.ready ?_) (fun m hm => ⟨?_, ?_⟩) h.nodup
  · simp [hfree, Ne.symm hm]
  · rwa [beq_self_eq_true]
  · rintro hnm
    cases hnm
    exact hn hm
  · exact (h.queued_set hn _ m hm).2

omit program outside in
/-- A task waits for the gate when another has it. -/
theorem Sim.wait {next : Task S Q A α} (h : Sim respond w ps W) (hn : n ∉ w.queue)
    (hW : W.tasks[n]? = some (label, .ready (.acquire next))) (hne : w.holder ≠ some n)
    (hnext : next.Orderly true false) :
    Sim respond { w with queue := w.queue ++ [n] } (ps.set n (.queued next)) W := by
  refine h.keep hW rfl rfl (.queued hne hnext) (fun m hm => ?_) ?_
  · rcases List.mem_append.1 hm with hm | hm
    · exact h.queued_set hn _ m hm
    · cases List.mem_singleton.1 hm
      obtain ⟨hlt, -⟩ := List.getElem?_eq_some_iff.1 hW
      exact ⟨hne, next, List.getElem?_set_self (h.length ▸ hlt)⟩
  · refine List.nodup_append.2 ⟨h.nodup, by simp, ?_⟩
    rintro m hm _ hm' rfl
    exact hn (List.mem_singleton.1 hm' ▸ hm)

/-- When the gate is free, the first of those that wait for it may take it. -/
theorem grant_becomes {queue : List Nat} (h : Sim respond w ps W) (hfree : w.holder = none)
    (hqueue : w.queue = n :: queue) :
    ∃ W', Becomes program outside W W' ∧
      Sim respond { w with holder := some n, queue } ps W' ∧
      ∀ m, n ≠ m → W'.tasks[m]? = W.tasks[m]? := by
  have hnodup : (n :: queue).Nodup := hqueue ▸ h.nodup
  obtain ⟨-, t, hp⟩ := h.queued n (hqueue ▸ List.mem_cons_self)
  obtain ⟨label, place, hW, hfollows⟩ := h.exists_follows hp
  rw [hfree] at hfollows
  cases hfollows with
  | granted hgranted => exact nomatch hgranted
  | queued hne ht =>
    let turn : Turn S Q A α := ⟨.acquired, W.state, some n, .ready t⟩
    have hgo : next? n W.state W.holder (.ready (.acquire t)) = some turn := by
      rw [h.holder, hfree]
      rfl
    have hafter : Sim respond { w with holder := some n, queue } (ps.set n (.queued t))
        (W.after n label turn) := by
      refine h.after hW h.state rfl (fun m hm => ?_) (.granted rfl ht) (fun m hm => ?_)
        (List.nodup_cons.1 hnodup).2
      · simp [hfree, Ne.symm hm]
      · have hnm : n ≠ m := by rintro rfl; exact (List.nodup_cons.1 hnodup).1 hm
        rw [List.getElem?_set_ne hnm]
        exact ⟨by simp [hnm], (h.queued m (hqueue ▸ List.mem_cons_of_mem n hm)).2⟩
    obtain ⟨hlt, hself⟩ := List.getElem?_eq_some_iff.1 hp
    rw [← hself, List.set_getElem_self] at hafter
    exact ⟨_, becomes_go hW hgo, hafter, fun m hnm => World.getElem?_after_ne turn hnm⟩

/-- When a task gives the gate back, the first of those that wait for it takes it. -/
theorem release_becomes {next : Task S Q A α} (h : Sim respond w ps W) (hn : n ∉ w.queue)
    (hW : W.tasks[n]? = some (label, .ready (.release next))) (hheld : w.holder = some n)
    (hnext : next.Orderly false false) :
    ∃ W', Becomes program outside W W' ∧
      Sim respond { w with holder := w.queue.head?, queue := w.queue.tail }
        (ps.set n (.waiting 0 next)) W' ∧
      W'.tasks[n]? = some (label, .ready next) := by
  obtain ⟨state, responder, holder, queue⟩ := w
  let t : Turn S Q A α := ⟨.released, W.state, none, .ready next⟩
  have hW₁ : Becomes program outside W (W.after n label t) := becomes_go hW rfl
  have hn₁ : (W.after n label t).tasks[n]? = some (label, .ready next) :=
    World.getElem?_after t hW
  have h₁ : Sim respond ⟨state, responder, none, queue⟩ (ps.set n (.waiting 0 next))
      (W.after n label t) := by
    refine h.after hW h.state rfl (fun m hm => ?_) (.ready hnext) ?_ h.nodup
    · have hheld' : holder = some n := hheld
      simp [hheld', Ne.symm hm]
    · exact fun m hm => ⟨nofun, (h.queued_set hn _ m hm).2⟩
  -- The gate is free for a moment: in the world, who gets it takes it in a step of its own.
  cases queue with
  | nil => exact ⟨_, hW₁, h₁, hn₁⟩
  | cons m queue =>
    obtain ⟨W₂, hW₂, h₂, hothers⟩ := grant_becomes program outside h₁ rfl rfl
    have hnm : m ≠ n := by rintro rfl; exact hn List.mem_cons_self
    exact ⟨W₂, hW₁.trans hW₂, h₂, (hothers n hnm).trans hn₁⟩

/-- A task is run to where some moves lead. -/
theorem run_becomes (hothers : MadeOf outside respond) (t : Task S Q A α)
    (h : Sim respond w ps W) (hn : n ∉ w.queue) (hW : W.tasks[n]? = some (label, .ready t))
    (ht : t.Orderly (w.holder == some n) false) :
    ∃ W', Becomes program outside W W' ∧
      Sim respond (run respond n t w).1 (ps.set n (run respond n t w).2) W' := by
  induction t generalizing w ps W with
  | done a => exact ⟨W, .refl W, h.keep hW rfl rfl .finished (h.queued_set hn _) h.nodup⟩
  | act change next ih =>
    obtain ⟨W₁, hW₁, h₁, hn₁⟩ := act_becomes program outside h hn hW ht
    obtain ⟨W', hW', h'⟩ := ih _ h₁ hn hn₁ (ht _)
    rw [List.set_set] at h'
    exact ⟨W', hW₁.trans hW', h'⟩
  | ask q next ih =>
    obtain ⟨W₁, hW₁, h₁, hn₁⟩ := ask_becomes program outside h hn hW ht w.responder
      (respond q w.responder).1 ((respond q w.responder).2.delay - 1)
    cases hdelay : (respond q w.responder).2.delay with
    | succ visits =>
      refine ⟨W₁, hW₁, ?_⟩
      simp only [run, hdelay]
      rwa [hdelay] at h₁
    | zero =>
      obtain ⟨W₂, hW₂, h₂, hn₂⟩ :=
        answer_becomes program outside hothers h₁ hn hn₁ ht w.responder (respond q w.responder).1 0
      obtain ⟨W', hW', h'⟩ := ih _ h₂ hn hn₂ (ht _)
      rw [List.set_set, List.set_set] at h'
      refine ⟨W', (hW₁.trans hW₂).trans hW', ?_⟩
      simp only [run, hdelay]
      exact h'
  | acquire next ih =>
    obtain ⟨hheld, ht⟩ := ht.of_acquire
    cases hgate : w.holder with
    | none =>
      obtain ⟨W₁, hW₁, h₁, hn₁⟩ := acquire_becomes program outside h hn hW hgate ht
      obtain ⟨W', hW', h'⟩ := ih h₁ hn hn₁ (by rwa [beq_self_eq_true])
      rw [List.set_set] at h'
      refine ⟨W', hW₁.trans hW', ?_⟩
      simp only [run, hgate]
      exact h'
    | some m =>
      refine ⟨W, .refl W, ?_⟩
      have hwait := h.wait hn hW (ne_of_beq_false hheld) ht
      simp only [run, hgate]
      rwa [hgate] at hwait
  | release next ih =>
    obtain ⟨hheld, ht⟩ := ht.of_release
    obtain ⟨W₁, hW₁, h₁, hn₁⟩ := release_becomes program outside h hn hW (eq_of_beq hheld) ht
    have hn' : n ∉ w.queue.tail := fun hm => hn (List.mem_of_mem_tail hm)
    have hne : w.queue.head? ≠ some n := fun hm => hn (List.mem_of_head? hm)
    obtain ⟨W', hW', h'⟩ := ih h₁ hn' hn₁ (by rwa [beq_false_of_ne hne])
    rw [List.set_set] at h'
    exact ⟨W', hW₁.trans hW', h'⟩

/-- A visit to a task leads to where some moves lead. -/
theorem visit_becomes {p : Process S Q A α} (hothers : MadeOf outside respond)
    (h : Sim respond w ps W) (hp : ps[n]? = some p) :
    ∃ W', Becomes program outside W W' ∧
      Sim respond (visit respond n p w).1 (ps.set n (visit respond n p w).2) W' := by
  obtain ⟨label, place, hW, hfollows⟩ := h.exists_follows hp
  have hn (hwaits : ∀ t, p ≠ .queued t) : n ∉ w.queue := by
    intro hn
    obtain ⟨-, t, ht⟩ := h.queued n hn
    exact hwaits t (Option.some.inj (hp.symm.trans ht))
  have hstays (p' : Process S Q A α) (hn : n ∉ w.queue)
      (hf : Follows respond n w.holder p' place) : Sim respond w (ps.set n p') W :=
    h.keep hW rfl rfl hf (h.queued_set hn _) h.nodup
  have hself : ps.set n p = ps := by
    obtain ⟨hlt, hself⟩ := List.getElem?_eq_some_iff.1 hp
    rw [← hself, List.set_getElem_self]
  cases hfollows with
  | @ready visits task ht =>
    have hout : n ∉ w.queue := hn (by rintro t ⟨⟩)
    cases visits with
    | zero => exact run_becomes program outside hothers task h hout hW ht
    | succ visits => exact ⟨W, .refl W, hstays _ hout (.ready ht)⟩
  | @asking visits q next e ht =>
    have hout : n ∉ w.queue := hn (by rintro t ⟨⟩)
    cases visits with
    | succ visits => exact ⟨W, .refl W, hstays _ hout (.asking e ht)⟩
    | zero =>
      obtain ⟨W₁, hW₁, h₁, hn₁⟩ := answer_becomes program outside hothers h hout hW ht e w.responder 0
      obtain ⟨W', hW', h'⟩ := run_becomes program outside hothers _ h₁ hout hn₁ (ht _)
      rw [List.set_set] at h'
      exact ⟨W', hW₁.trans hW', h'⟩
  | queued hne ht =>
    refine ⟨W, .refl W, ?_⟩
    rw [visit, if_neg hne, hself]
    exact h
  | @granted task heq ht =>
    have hn : n ∉ w.queue := fun hn => (h.queued n hn).1 heq
    rw [visit, if_pos heq]
    refine run_becomes program outside hothers task h hn hW ?_
    rwa [heq, beq_self_eq_true]
  | finished => exact ⟨W, .refl W, hstays _ (hn (by rintro t ⟨⟩)) .finished⟩

/-- A round leads to where some moves lead. -/
theorem round_becomes (hothers : MadeOf outside respond) (ps done : List (Process S Q A α))
    (h : Sim respond w (done ++ ps) W) :
    ∃ W', Becomes program outside W W' ∧
      Sim respond (round respond done.length ps w).1
        (done ++ (round respond done.length ps w).2) W' := by
  induction ps generalizing done w W with
  | nil => exact ⟨W, .refl W, h⟩
  | cons p ps ih =>
    have hp : (done ++ p :: ps)[done.length]? = some p := by simp
    obtain ⟨W₁, hW₁, h₁⟩ := visit_becomes program outside hothers h hp
    have hset (p' : Process S Q A α) :
        (done ++ p :: ps).set done.length p' = (done ++ [p']) ++ ps := by simp
    rw [hset] at h₁
    obtain ⟨W', hW', h'⟩ := ih _ h₁
    refine ⟨W', hW₁.trans hW', ?_⟩
    simpa [round] using h'

/-- Rounds lead to where some moves lead. -/
theorem rounds_becomes (hothers : MadeOf outside respond) (limit : Nat)
    (h : Sim respond w ps W) :
    ∃ W', Becomes program outside W W' ∧
      Sim respond (rounds respond limit ps w).1 (rounds respond limit ps w).2 W' := by
  induction limit generalizing w ps W with
  | zero => exact ⟨W, .refl W, h⟩
  | succ limit ih =>
    rw [rounds]
    split
    · exact ⟨W, .refl W, h⟩
    · obtain ⟨W₁, hW₁, h₁⟩ := round_becomes program outside hothers ps [] h
      obtain ⟨W', hW', h'⟩ := ih h₁
      exact ⟨W', hW₁.trans hW', h'⟩

end

/-- Tasks that have joined are where those are that have not been run yet. -/
theorem join_becomes {program : L → Task S Q A α} (outside : C → S → S)
    (respond : Responder S Q A E) (horderly : ∀ label, (program label).Orderly false false)
    (callers : List (Nat × L)) (s : S) (e : E) :
    ∃ W, Becomes program outside (.start s) W ∧
      Sim respond ⟨s, e, none, []⟩
        (callers.map fun caller => .waiting caller.1 (program caller.2)) W := by
  induction callers using List.reverseRecOn with
  | nil => exact ⟨_, .refl _, rfl, rfl, rfl, nofun, nofun, .nil⟩
  | append_singleton callers caller ih =>
    obtain ⟨visits, label⟩ := caller
    obtain ⟨W, hW, h⟩ := ih
    refine ⟨_, hW.trans (becomes_step program outside W (.join label)), h.state, h.holder, ?_, ?_,
      nofun, .nil⟩
    · simpa [World.step, World.join] using h.length
    · intro n p label' place hp hn
      rw [List.map_append] at hp
      by_cases hlt : n < W.tasks.length
      · rw [World.step, World.join, List.getElem?_append_left hlt] at hn
        rw [List.getElem?_append_left (h.length ▸ hlt)] at hp
        exact h.follows n p label' place hp hn
      · have hle := Nat.le_of_not_lt hlt
        rw [World.step, World.join, List.getElem?_append_right hle] at hn
        rw [List.getElem?_append_right (h.length ▸ hle)] at hp
        cases List.mem_singleton.1 (List.mem_of_getElem? hn)
        cases List.mem_singleton.1 (List.mem_of_getElem? hp)
        exact .ready (horderly label)

end TripClient.Schedule

namespace TripClient

open Interleaving Schedule

/-- Whatever order `runAll` runs tasks in, there is a run by moves that ends in the same state, with the
same results. -/
theorem runAll_reachable {S Q : Type} {A : Q → Type} {E α L C : Type}
    {program : L → Task S Q A α} {outside : C → S → S} {respond : Responder S Q A E}
    (horderly : ∀ label, (program label).Orderly false false) (hothers : MadeOf outside respond)
    (limit : Nat) (callers : List (Nat × L)) (s : S) (e : E) :
    ∃ W, Reachable program outside s W ∧
      W.state = (runAll respond limit (callers.map fun caller => (caller.1, program caller.2)) s e).1 ∧
      ∀ (n : Nat) a,
        (runAll respond limit (callers.map fun caller => (caller.1, program caller.2)) s e).2.2[n]? =
          some (some a) → ∃ label, W.tasks[n]? = some (label, .ready (.done a)) := by
  obtain ⟨W₀, hW₀, h₀⟩ := join_becomes outside respond horderly callers s e
  obtain ⟨W, hW, h⟩ := rounds_becomes program outside hothers limit h₀
  obtain ⟨moves, hmoves⟩ := hW₀.trans hW
  have hprocesses : (callers.map fun caller => (caller.1, program caller.2)).map
      (fun caller => (.waiting caller.1 caller.2 : Process S Q A α)) =
        callers.map fun caller => .waiting caller.1 (program caller.2) := by simp
  refine ⟨W, ⟨moves, hmoves⟩, ?_, ?_⟩
  · rw [h.state]
    simp only [runAll, hprocesses]
  · intro n a hn
    simp only [runAll, hprocesses, List.getElem?_map, Option.map_eq_some_iff] at hn
    obtain ⟨p, hp, ha⟩ := hn
    obtain ⟨label, place, hW, hfollows⟩ := h.exists_follows hp
    cases p with
    | finished b =>
      cases ha
      cases hfollows
      exact ⟨label, hW⟩
    | waiting visits t => cases ha
    | queued t => cases ha

end TripClient
