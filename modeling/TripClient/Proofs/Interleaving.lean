import Mathlib.Data.List.Induction
import TripClient.Task

/-!
# Tasks in any order

Tasks that share a state and a gate take turns in any order. One turn is one step of one task: one
change of the state, asking a question, getting its answer, taking the gate or giving it back. Tasks
join at any time, and others change the state in between. A run is a list of moves (`run`). Every list
is one, since a move that is not possible changes nothing, so what is shown of every list of moves is
shown of every order of steps.

What a task can do in one turn is said by `Turns`, and an invariant is shown once for each way in
which a world can change (`Reachable.induction`), or of each task by what it does itself
(`Reachable.task_induction`). The state changes only as the steps of the tasks allow (`Task.Within`),
so the states of a run are in order (`Reachable.seen_pairwise`).
-/

namespace TripClient

variable {S Q : Type} {A : Q → Type} {α : Type}

/-- Every change of the state by a task is one that `R` allows. -/
def Task.Within (R : S → S → Prop) : Task S Q A α → Prop
  | .done _ => True
  | .act change next => (∀ s, R s (change s)) ∧ ∀ s, (next s).Within R
  | .ask _ next => ∀ a, (next a).Within R
  | .acquire next => next.Within R
  | .release next => next.Within R

/-- A task stays within `R` if it does so until it goes on, and so does what it goes on with. -/
theorem Task.Within.bind {R : S → S → Prop} {β : Type} {t : Task S Q A α} {f : α → Task S Q A β}
    (ht : t.Within R) (hf : ∀ a, (f a).Within R) : (t.bind f).Within R := by
  induction t with
  | done a => exact hf a
  | act change next ih => exact ⟨ht.1, fun s => ih s (ht.2 s)⟩
  | ask q next ih => exact fun a => ih a (ht a)
  | acquire next ih => exact ih ht
  | release next ih => exact ih ht

namespace Interleaving

/-! ## Worlds -/

/-- Where a task is. -/
inductive Place (S Q : Type) (A : Q → Type) (α : Type) where
  /-- About to take its next step. -/
  | ready (task : Task S Q A α)
  /-- Waiting for the answer to a question. -/
  | asking (question : Q) (next : A question → Task S Q A α)

/-- What a task does in one step. -/
inductive Deed (Q : Type) (A : Q → Type) where
  | acted
  | asked (question : Q)
  | answered (question : Q) (answer : A question)
  | acquired
  | released

/-- What happens in a run: a task joins, somebody else changes the state, or a task takes a step. -/
inductive Event (L C Q : Type) (A : Q → Type) where
  | joined (label : L)
  | changed (change : C)
  | stepped (task : Nat) (label : L) (deed : Deed Q A)

/-- An event, and the state just before it. -/
structure Moment (L C S Q : Type) (A : Q → Type) where
  state : S
  event : Event L C Q A

/-- Tasks that share a state and a gate. A task is known by its number and has a label. -/
structure World (L C S Q : Type) (A : Q → Type) (α : Type) where
  state : S
  /-- Who has the gate. -/
  holder : Option Nat
  tasks : List (L × Place S Q A α)
  /-- What has happened, the latest first. Nothing depends on it. -/
  past : List (Moment L C S Q A)

/-- A choice of what happens next. -/
inductive Move (L C Q : Type) (A : Q → Type) where
  | join (label : L)
  | change (change : C)
  /-- The task takes its next step, unless it waits for an answer. -/
  | go (task : Nat)
  /-- The task gets the answer to the question it asked. -/
  | answer (task : Nat) (answers : (q : Q) → A q)

/-- What comes of the turn of a task. -/
structure Turn (S Q : Type) (A : Q → Type) (α : Type) where
  deed : Deed Q A
  state : S
  holder : Option Nat
  place : Place S Q A α

variable {L C : Type}

/-- The next step of the task with number `n`, if it can take one without an answer. -/
def next? (n : Nat) (s : S) (holder : Option Nat) : Place S Q A α → Option (Turn S Q A α)
  | .ready (.act change next) => some ⟨.acted, change s, holder, .ready (next s)⟩
  | .ready (.ask q next) => some ⟨.asked q, s, holder, .asking q next⟩
  | .ready (.acquire next) =>
    match holder with
    | none => some ⟨.acquired, s, some n, .ready next⟩
    | some _ => none
  | .ready (.release next) => some ⟨.released, s, none, .ready next⟩
  | .ready (.done _) => none
  | .asking _ _ => none

/-- The step of a task that gets its answer. -/
def answered? (answers : (q : Q) → A q) (s : S) (holder : Option Nat) :
    Place S Q A α → Option (Turn S Q A α)
  | .asking q next => some ⟨.answered q (answers q), s, holder, .ready (next (answers q))⟩
  | .ready _ => none

namespace World

/-- Nothing has happened yet. -/
def start (s : S) : World L C S Q A α := ⟨s, none, [], []⟩

/-- Another task joins. -/
def join (program : L → Task S Q A α) (label : L) (w : World L C S Q A α) : World L C S Q A α :=
  { w with
    tasks := w.tasks ++ [(label, .ready (program label))]
    past := ⟨w.state, .joined label⟩ :: w.past }

/-- Somebody else changes the state. -/
def change (outside : C → S → S) (c : C) (w : World L C S Q A α) : World L C S Q A α :=
  { w with state := outside c w.state, past := ⟨w.state, .changed c⟩ :: w.past }

/-- The task with number `n` has taken a turn. -/
def after (n : Nat) (label : L) (t : Turn S Q A α) (w : World L C S Q A α) : World L C S Q A α where
  state := t.state
  holder := t.holder
  tasks := w.tasks.set n (label, t.place)
  past := ⟨w.state, .stepped n label t.deed⟩ :: w.past

/-- Gives a turn to the task with number `n`, if it is there and can take one. -/
def give (n : Nat) (turn? : Place S Q A α → Option (Turn S Q A α)) (w : World L C S Q A α) :
    World L C S Q A α :=
  match w.tasks[n]? with
  | none => w
  | some (label, place) =>
    match turn? place with
    | none => w
    | some t => w.after n label t

/-- Makes a move. -/
def step (program : L → Task S Q A α) (outside : C → S → S) (w : World L C S Q A α) :
    Move L C Q A → World L C S Q A α
  | .join label => w.join program label
  | .change c => w.change outside c
  | .go n => w.give n (next? n w.state w.holder)
  | .answer n answers => w.give n (answered? answers w.state w.holder)

/-- All states so far, the latest first. -/
def seen (w : World L C S Q A α) : List S := w.state :: w.past.map (·.state)

end World

/-- What the task with number `n` does at that moment, and the state just before. -/
def Moment.deed? (n : Nat) : Moment L C S Q A → Option (S × Deed Q A)
  | ⟨s, .stepped m _ deed⟩ => if m = n then some (s, deed) else none
  | _ => none

/-- What the task with number `n` has done so far, the latest first. -/
def World.deeds (n : Nat) (w : World L C S Q A α) : List (S × Deed Q A) :=
  w.past.filterMap (Moment.deed? n)

/-- The world after some moves, beginning with no tasks. -/
def run (program : L → Task S Q A α) (outside : C → S → S) (s : S) (moves : List (Move L C Q A)) :
    World L C S Q A α :=
  moves.foldl (World.step program outside) (.start s)

namespace World

variable {program : L → Task S Q A α} {w : World L C S Q A α} {label : L} {n : Nat}

/-- When a task joins, the others stay where they are. -/
theorem getElem?_join_of {p : L × Place S Q A α} (h : w.tasks[n]? = some p) :
    (w.join program label).tasks[n]? = some p := by
  obtain ⟨hn, -⟩ := List.getElem?_eq_some_iff.1 h
  rw [join, List.getElem?_append_left hn, h]

/-- A task is where it was before another joined, or it is the other, at its beginning. -/
theorem of_getElem?_join {p : L × Place S Q A α} (h : (w.join program label).tasks[n]? = some p) :
    w.tasks[n]? = some p ∨ p = (label, .ready (program label)) := by
  rw [join, List.getElem?_append] at h
  split at h
  · exact .inl h
  · exact .inr (List.mem_singleton.1 (List.mem_of_getElem? h))

/-- A task is in its new place after its turn. -/
theorem getElem?_after {label' : L} {place : Place S Q A α} (t : Turn S Q A α)
    (h : w.tasks[n]? = some (label', place)) :
    (w.after n label t).tasks[n]? = some (label, t.place) := by
  obtain ⟨hn, -⟩ := List.getElem?_eq_some_iff.1 h
  exact List.getElem?_set_self hn

/-- The others are where they were after the turn of a task. -/
theorem getElem?_after_ne {m : Nat} (t : Turn S Q A α) (h : n ≠ m) :
    (w.after n label t).tasks[m]? = w.tasks[m]? :=
  List.getElem?_set_ne h

theorem deeds_after (t : Turn S Q A α) :
    (w.after n label t).deeds n = (w.state, t.deed) :: w.deeds n := by
  simp [deeds, after, Moment.deed?]

theorem deeds_after_ne {m : Nat} (t : Turn S Q A α) (h : n ≠ m) :
    (w.after n label t).deeds m = w.deeds m := by
  simp [deeds, after, Moment.deed?, h]

end World

/-! ## Turns -/

/-- The turns that the task with number `n` can take. -/
inductive Turns (n : Nat) (s : S) : Option Nat → Place S Q A α → Turn S Q A α → Prop
  | act {holder : Option Nat} {change : S → S} {next : S → Task S Q A α} :
      Turns n s holder (.ready (.act change next)) ⟨.acted, change s, holder, .ready (next s)⟩
  | ask {holder : Option Nat} {q : Q} {next : A q → Task S Q A α} :
      Turns n s holder (.ready (.ask q next)) ⟨.asked q, s, holder, .asking q next⟩
  | answer {holder : Option Nat} {q : Q} {next : A q → Task S Q A α} (a : A q) :
      Turns n s holder (.asking q next) ⟨.answered q a, s, holder, .ready (next a)⟩
  | acquire {next : Task S Q A α} :
      Turns n s none (.ready (.acquire next)) ⟨.acquired, s, some n, .ready next⟩
  | release {holder : Option Nat} {next : Task S Q A α} :
      Turns n s holder (.ready (.release next)) ⟨.released, s, none, .ready next⟩

theorem turns_of_next? {n : Nat} {s : S} {holder : Option Nat} {place : Place S Q A α}
    {t : Turn S Q A α} (h : next? n s holder place = some t) : Turns n s holder place t := by
  cases place with
  | asking q next => cases h
  | ready task =>
    cases task with
    | done a => cases h
    | act change next => cases h; exact .act
    | ask q next => cases h; exact .ask
    | release next => cases h; exact .release
    | acquire next =>
      cases holder with
      | none => cases h; exact .acquire
      | some m => cases h

/-- A task that is done takes no more turns. -/
theorem not_turns_done {n : Nat} {s : S} {holder : Option Nat} {a : α} {t : Turn S Q A α} :
    ¬ Turns n s holder (.ready (.done a)) t := nofun

theorem turns_of_answered? {n : Nat} {answers : (q : Q) → A q} {s : S} {holder : Option Nat}
    {place : Place S Q A α} {t : Turn S Q A α} (h : answered? answers s holder place = some t) :
    Turns n s holder place t := by
  cases place with
  | ready task => cases h
  | asking q next => cases h; exact .answer _

/-! ## Invariants of runs -/

section
variable {program : L → Task S Q A α} {outside : C → S → S} {s : S}

/-- A world that some run from `s` leads to. -/
def Reachable (program : L → Task S Q A α) (outside : C → S → S) (s : S)
    (w : World L C S Q A α) : Prop :=
  ∃ moves, run program outside s moves = w

/-- Giving a turn keeps what every turn keeps. -/
theorem World.give_induction {P : World L C S Q A α → Prop} {w : World L C S Q A α} {n : Nat}
    {turn? : Place S Q A α → Option (Turn S Q A α)}
    (sound : ∀ place t, turn? place = some t → Turns n w.state w.holder place t)
    (turn : ∀ label place t, w.tasks[n]? = some (label, place) →
      Turns n w.state w.holder place t → P (w.after n label t))
    (hw : P w) : P (w.give n turn?) := by
  unfold World.give
  split
  · exact hw
  · next label place hn =>
    split
    · exact hw
    · next t ht => exact turn label place t hn (sound place t ht)

/-- A move keeps what is kept whenever a task joins, somebody else changes the state, or a task takes
a turn. -/
theorem World.step_induction {P : World L C S Q A α → Prop} {w : World L C S Q A α}
    (join : ∀ label, P (w.join program label)) (change : ∀ c, P (w.change outside c))
    (turn : ∀ n label place t, w.tasks[n]? = some (label, place) →
      Turns n w.state w.holder place t → P (w.after n label t))
    (hw : P w) (move : Move L C Q A) : P (w.step program outside move) := by
  cases move with
  | join label => exact join label
  | change c => exact change c
  | go n => exact World.give_induction (fun _ _ => turns_of_next?) (turn n) hw
  | answer n answers => exact World.give_induction (fun _ _ => turns_of_answered?) (turn n) hw

/-- What holds at the start, and is kept whenever a task joins, somebody else changes the state, or a
task takes a turn, holds after every run. -/
theorem Reachable.induction {P : World L C S Q A α → Prop} (start : P (.start s))
    (join : ∀ w label, Reachable program outside s w → P w → P (w.join program label))
    (change : ∀ w c, Reachable program outside s w → P w → P (w.change outside c))
    (turn : ∀ w n label place t, Reachable program outside s w → P w →
      w.tasks[n]? = some (label, place) → Turns n w.state w.holder place t → P (w.after n label t))
    {w : World L C S Q A α} (h : Reachable program outside s w) : P w := by
  obtain ⟨moves, rfl⟩ := h
  induction moves using List.reverseRecOn with
  | nil => exact start
  | append_singleton moves move ih =>
    have hw : Reachable program outside s (run program outside s moves) := ⟨moves, rfl⟩
    rw [run, List.foldl_append]
    exact World.step_induction (join _ · hw ih) (change _ · hw ih) (turn _ · · · · hw ih) ih move

/-- A number that no task has got yet has done nothing. -/
theorem Reachable.deeds_eq_nil {w : World L C S Q A α} (h : Reachable program outside s w) {n : Nat}
    (hn : w.tasks.length ≤ n) : w.deeds n = [] := by
  refine h.induction (P := fun w => ∀ n, w.tasks.length ≤ n → w.deeds n = []) (fun _ _ => rfl)
    ?_ ?_ ?_ n hn
  · intro w label _ hw n hn
    refine hw n (Nat.le_trans ?_ hn)
    simp [World.join]
  · exact fun w c _ hw => hw
  · intro w m label place t _ hw hm _ n hn
    obtain ⟨hlt, -⟩ := List.getElem?_eq_some_iff.1 hm
    have hle : w.tasks.length ≤ n := by simpa [World.after] using hn
    rw [World.deeds_after_ne t (Nat.ne_of_lt (Nat.lt_of_lt_of_le hlt hle)), hw n hle]

/-- What holds of a task when it joins, and is kept whatever others do and whenever it takes a turn
itself, holds of it after every run. -/
theorem Reachable.task_induction {P : World L C S Q A α → Nat → L → Place S Q A α → Prop}
    (join : ∀ w n label, w.deeds n = [] → P w n label (.ready (program label)))
    (keep : ∀ w w' n label place, w'.deeds n = w.deeds n → (∀ u ∈ w.seen, u ∈ w'.seen) →
      P w n label place → P w' n label place)
    (turn : ∀ w n label place t, Turns n w.state w.holder place t → P w n label place →
      P (w.after n label t) n label t.place)
    {w : World L C S Q A α} (h : Reachable program outside s w) {n : Nat} {label : L}
    {place : Place S Q A α} (hn : w.tasks[n]? = some (label, place)) : P w n label place := by
  refine h.induction (P := fun w => ∀ n label place, w.tasks[n]? = some (label, place) →
    P w n label place) nofun ?_ ?_ ?_ n label place hn
  · intro w label hr hw n label' place hn
    have hseen : ∀ u ∈ w.seen, u ∈ (w.join program label).seen :=
      fun u hu => List.mem_cons_of_mem _ hu
    by_cases hlt : n < w.tasks.length
    · rw [World.join, List.getElem?_append_left hlt] at hn
      exact keep w _ n label' place rfl hseen (hw n label' place hn)
    · have hnil : (w.join program label).deeds n = [] := hr.deeds_eq_nil (Nat.le_of_not_lt hlt)
      rw [World.join, List.getElem?_append_right (Nat.le_of_not_lt hlt)] at hn
      cases List.mem_singleton.1 (List.mem_of_getElem? hn)
      exact join _ n label hnil
  · intro w c _ hw n label place hn
    exact keep w _ n label place rfl (fun u hu => List.mem_cons_of_mem _ hu) (hw n label place hn)
  · intro w m label place t _ hw hm ht n label' place' hn
    by_cases hmn : m = n
    · subst hmn
      cases (World.getElem?_after t hm).symm.trans hn
      exact turn w m label place t ht (hw m label place hm)
    · rw [World.getElem?_after_ne t hmn] at hn
      exact keep w _ n label' place' (World.deeds_after_ne t hmn)
        (fun u hu => List.mem_cons_of_mem _ hu) (hw n label' place' hn)

/-! ## The states of a run -/

variable {R : S → S → Prop}

/-- Every change of the state by a task from where it is is one that `R` allows. -/
def Place.Within (R : S → S → Prop) : Place S Q A α → Prop
  | .ready task => task.Within R
  | .asking _ next => ∀ a, (next a).Within R

/-- A turn of a task that stays within `R` is within `R`. -/
theorem Turns.within {n : Nat} {holder : Option Nat} {place : Place S Q A α} {t : Turn S Q A α}
    (refl : ∀ s, R s s) (h : Turns n s holder place t) (hp : place.Within R) :
    R s t.state ∧ t.place.Within R := by
  cases h with
  | act => exact ⟨hp.1 s, hp.2 s⟩
  | ask => exact ⟨refl s, hp⟩
  | answer a => exact ⟨refl s, hp a⟩
  | acquire => exact ⟨refl s, hp⟩
  | release => exact ⟨refl s, hp⟩

/-- If tasks and others change the state only as `R` allows, every state of a run is related to all
later ones. -/
theorem Reachable.seen_pairwise (refl : ∀ s, R s s) (trans : ∀ s t u, R s t → R t u → R s u)
    (hprogram : ∀ label, (program label).Within R) (houtside : ∀ c s, R s (outside c s))
    {w : World L C S Q A α} (h : Reachable program outside s w) :
    w.seen.Pairwise fun later earlier => R earlier later := by
  have extend {w : World L C S Q A α} {t : S} (ht : R w.state t)
      (hw : w.seen.Pairwise fun later earlier => R earlier later) :
      (t :: w.seen).Pairwise fun later earlier => R earlier later := by
    refine .cons (fun u hu => ?_) hw
    rcases List.mem_cons.1 hu with rfl | hu
    · exact ht
    · exact trans _ _ _ (List.rel_of_pairwise_cons hw hu) ht
  refine (h.induction (P := fun w => (∀ p ∈ w.tasks, p.2.Within R) ∧
    w.seen.Pairwise fun later earlier => R earlier later)
    ⟨nofun, List.pairwise_singleton _ _⟩ ?_ ?_ ?_).2
  · rintro w label - ⟨htasks, hseen⟩
    refine ⟨fun p hp => ?_, extend (refl _) hseen⟩
    rcases List.mem_append.1 hp with hp | hp
    · exact htasks p hp
    · rw [List.mem_singleton.1 hp]; exact hprogram label
  · rintro w c - ⟨htasks, hseen⟩
    exact ⟨htasks, extend (houtside c _) hseen⟩
  · rintro w n label place t - ⟨htasks, hseen⟩ hn ht
    obtain ⟨hstate, hplace⟩ := ht.within refl (htasks _ (List.mem_of_getElem? hn))
    refine ⟨fun p hp => ?_, extend hstate hseen⟩
    rcases List.mem_or_eq_of_mem_set hp with hp | rfl
    · exact htasks p hp
    · exact hplace

/-- Every state of a run is related to the one at its end. -/
theorem World.rel_state (refl : ∀ s, R s s) {w : World L C S Q A α}
    (h : w.seen.Pairwise fun later earlier => R earlier later) {t : S} (ht : t ∈ w.seen) :
    R t w.state := by
  rcases List.mem_cons.1 ht with rfl | ht
  · exact refl _
  · exact List.rel_of_pairwise_cons h ht

end

end Interleaving

end TripClient
