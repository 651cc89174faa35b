import TripClient.Schedule

/-!
# A task on its own

`Task.alone` follows a task that nobody runs beside: whatever is done to the state while one of its
questions is open comes with the reply. It gives what was asked and replied, the state, and the result,
so it says all that can be seen of the task. For tasks that take and give back the gate in turn
(`Task.Orderly`) it is what `runAll` does with the one task (`runAll_singleton`).
-/

namespace TripClient

/-- A question that was asked, and the reply to it. -/
structure Said (S Q : Type) (A : Q → Type) where
  question : Q
  reply : Reply S (A question)

/-- What comes of a task on its own. -/
structure Solo (S Q : Type) (A : Q → Type) (E α : Type) where
  /-- What was asked and replied, the first question first. -/
  said : List (Said S Q A)
  state : S
  responder : E
  result : α

namespace Task

variable {S Q : Type} {A : Q → Type} {E α β : Type}

/-- Follows a task on its own, which finds the gate free whenever it wants it. -/
def alone (respond : Responder S Q A E) : Task S Q A α → S → E → Solo S Q A E α
  | done a, s, e => ⟨[], s, e, a⟩
  | act change next, s, e => (next s).alone respond (change s) e
  | ask q next, s, e =>
    let (e, reply) := respond q e
    let rest := (next reply.answer).alone respond (reply.meanwhile s) e
    { rest with said := ⟨q, reply⟩ :: rest.said }
  | acquire next, s, e => next.alone respond s e
  | release next, s, e => next.alone respond s e

/-- What follows a task goes on from where it left off. -/
theorem alone_bind (respond : Responder S Q A E) (t : Task S Q A α) (f : α → Task S Q A β) (s : S)
    (e : E) :
    (t.bind f).alone respond s e =
      let first := t.alone respond s e
      let second := (f first.result).alone respond first.state first.responder
      { second with said := first.said ++ second.said } := by
  induction t generalizing s e with
  | done a => rfl
  | act change next ih => exact ih _ _ _
  | ask q next ih => simp only [bind, alone, ih, List.cons_append]
  | acquire next ih => exact ih _ _
  | release next ih => exact ih _ _

/-- The task takes the gate only when it does not have it, and gives it back only when it has. The
arguments say whether it has the gate before and after. -/
def Orderly : (before after : Bool) → Task S Q A α → Prop
  | held, after, done _ => held = after
  | held, after, act _ next => ∀ s, (next s).Orderly held after
  | held, after, ask _ next => ∀ a, (next a).Orderly held after
  | false, after, acquire next => next.Orderly true after
  | true, _, acquire _ => False
  | true, after, release next => next.Orderly false after
  | false, _, release _ => False

theorem Orderly.of_acquire {next : Task S Q A α} {before after : Bool}
    (h : (acquire next).Orderly before after) : before = false ∧ next.Orderly true after := by
  cases before with
  | false => exact ⟨rfl, h⟩
  | true => exact h.elim

theorem Orderly.of_release {next : Task S Q A α} {before after : Bool}
    (h : (release next).Orderly before after) : before = true ∧ next.Orderly false after := by
  cases before with
  | false => exact h.elim
  | true => exact ⟨rfl, h⟩

/-- An orderly task goes on with what finds the gate as the task leaves it. -/
theorem Orderly.bind {t : Task S Q A α} {f : α → Task S Q A β} {before between after : Bool}
    (ht : t.Orderly before between) (hf : ∀ a, (f a).Orderly between after) :
    (t.bind f).Orderly before after := by
  induction t generalizing before with
  | done a => cases ht; exact hf a
  | act change next ih => exact fun s => ih s (ht s)
  | ask q next ih => exact fun a => ih a (ht a)
  | acquire next ih =>
    obtain ⟨rfl, ht⟩ := ht.of_acquire
    exact ih ht
  | release next ih =>
    obtain ⟨rfl, ht⟩ := ht.of_release
    exact ih ht

end Task

/-! ## The one task of a schedule -/

namespace Schedule

variable {S Q : Type} {A : Q → Type} {E α : Type}

/-- The stage of a task that nobody runs beside. -/
def lone (held : Bool) (s : S) (e : E) : Stage S E := ⟨s, e, if held then some 0 else none, []⟩

/-- A lone task that waits is run once its visits are over. -/
theorem rounds_waiting (respond : Responder S Q A E) (t : Task S Q A α) (w : Stage S E)
    (visits limit : Nat) :
    rounds respond (visits + 1 + limit) [.waiting visits t] w =
      rounds respond limit [(run respond 0 t w).2] (run respond 0 t w).1 := by
  induction visits with
  | zero => simp [Nat.add_comm 1, rounds, round, visit, Process.result?]
  | succ visits ih =>
    rw [Nat.add_right_comm, rounds]
    simpa [round, visit, Process.result?, Nat.add_right_comm] using ih

/-- Nothing more is done when the task has finished. -/
theorem rounds_finished (respond : Responder S Q A E) (a : α) (w : Stage S E) (limit : Nat) :
    rounds respond limit [(.finished a : Process S Q A α)] w = (w, [.finished a]) := by
  cases limit <;> simp [rounds, Process.result?]

/-- An orderly lone task, run and then visited often enough, finishes as it does on its own. -/
theorem rounds_run (respond : Responder S Q A E) {t : Task S Q A α} {held : Bool}
    (h : t.Orderly held false) (s : S) (e : E) :
    ∃ k, ∀ limit, k ≤ limit →
      rounds respond limit [(run respond 0 t (lone held s e)).2] (run respond 0 t (lone held s e)).1 =
        (lone false (t.alone respond s e).state (t.alone respond s e).responder,
          [.finished (t.alone respond s e).result]) := by
  induction t generalizing held s e with
  | done a =>
    cases h
    exact ⟨0, fun limit _ => rounds_finished respond a _ limit⟩
  | act change next ih => exact ih s (h s) (change s) e
  | ask q next ih =>
    obtain ⟨k, hk⟩ := ih (respond q e).2.answer (h _) ((respond q e).2.meanwhile s) (respond q e).1
    cases hd : (respond q e).2.delay with
    | zero =>
      refine ⟨k, fun limit hlimit => ?_⟩
      simpa [run, lone, hd, Task.alone] using hk limit hlimit
    | succ visits =>
      refine ⟨visits + 1 + k, fun limit hlimit => ?_⟩
      obtain ⟨rest, rfl⟩ := Nat.exists_eq_add_of_le hlimit
      have hrest := hk (k + rest) (Nat.le_add_right _ _)
      simp only [run, lone, hd, Task.alone]
      rw [Nat.add_assoc (visits + 1), rounds_waiting]
      simpa [run, lone] using hrest
  | acquire next ih =>
    obtain ⟨rfl, h⟩ := h.of_acquire
    exact ih h s e
  | release next ih =>
    obtain ⟨rfl, h⟩ := h.of_release
    exact ih h s e

end Schedule

/-- An orderly task that nobody runs beside finishes within some number of rounds, as it does on its
own, however late it begins. -/
theorem runAll_singleton {S Q : Type} {A : Q → Type} {E α : Type} (respond : Responder S Q A E)
    {t : Task S Q A α} (h : t.Orderly false false) (visits : Nat) (s : S) (e : E) :
    ∃ k, ∀ limit, k ≤ limit → runAll respond limit [(visits, t)] s e =
      ((t.alone respond s e).state, (t.alone respond s e).responder,
        [some (t.alone respond s e).result]) := by
  obtain ⟨k, hk⟩ := Schedule.rounds_run respond h s e
  refine ⟨visits + 1 + k, fun limit hlimit => ?_⟩
  obtain ⟨rest, rfl⟩ := Nat.exists_eq_add_of_le hlimit
  have hrest := hk (k + rest) (Nat.le_add_right _ _)
  rw [Schedule.lone, if_neg Bool.false_ne_true] at hrest
  simp only [runAll, List.map_cons, List.map_nil]
  rw [Nat.add_assoc (visits + 1), Schedule.rounds_waiting, hrest]
  rfl

end TripClient
