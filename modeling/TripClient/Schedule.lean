import TripClient.Task

/-!
# Running tasks side by side

Tasks run in rounds: in each round every task that has not finished is visited once, in order, and
goes on until it has to wait. A task waits for an answer that takes time, for a number of visits; or
it waits for the gate, which goes to those who wait in the order in which they came.
-/

namespace TripClient

/-- An answer: how many visits it takes, what happens to the state meanwhile, and what the answer is. -/
structure Reply (S R : Type) where
  delay : Nat
  meanwhile : S → S
  answer : R

/-- Who answers the questions of tasks, with a state of its own. -/
abbrev Responder (S Q : Type) (A : Q → Type) (E : Type) :=
  (q : Q) → E → E × Reply S (A q)

namespace Schedule

/-- How far a task has come. -/
inductive Process (S Q : Type) (A : Q → Type) (α : Type) where
  /-- Goes on after some more visits. -/
  | waiting (visits : Nat) (task : Task S Q A α)
  /-- Goes on when it is given the gate. -/
  | queued (task : Task S Q A α)
  | finished (result : α)

/-- All that tasks share: the state, the one who answers, who holds the gate, and who waits for it. -/
structure Stage (S E : Type) where
  state : S
  responder : E
  holder : Option Nat
  queue : List Nat

variable {S Q : Type} {A : Q → Type} {E α : Type}

/-- Runs the task with number `n` until it has to wait. -/
def run (respond : Responder S Q A E) (n : Nat) :
    Task S Q A α → Stage S E → Stage S E × Process S Q A α
  | .done a, w => (w, .finished a)
  | .act change next, w => run respond n (next w.state) { w with state := change w.state }
  | .ask q next, w =>
    let (e, reply) := respond q w.responder
    match reply.delay with
    | 0 => run respond n (next reply.answer)
        { w with state := reply.meanwhile w.state, responder := e }
    | k + 1 =>
      ({ w with responder := e }, .waiting k (.act reply.meanwhile fun _ => next reply.answer))
  | .acquire next, w =>
    match w.holder with
    | none => run respond n next { w with holder := some n }
    | some _ => ({ w with queue := w.queue ++ [n] }, .queued next)
  | .release next, w =>
    run respond n next { w with holder := w.queue.head?, queue := w.queue.tail }

/-- Visits the task with number `n`. -/
def visit (respond : Responder S Q A E) (n : Nat) (p : Process S Q A α) (w : Stage S E) :
    Stage S E × Process S Q A α :=
  match p with
  | .waiting 0 t => run respond n t w
  | .waiting (k + 1) t => (w, .waiting k t)
  | .queued t => if w.holder = some n then run respond n t w else (w, .queued t)
  | .finished a => (w, .finished a)

/-- Visits all tasks in order; `n` is the number of the first. -/
def round (respond : Responder S Q A E) (n : Nat) :
    List (Process S Q A α) → Stage S E → Stage S E × List (Process S Q A α)
  | [], w => (w, [])
  | p :: ps, w =>
    let (w, p) := visit respond n p w
    let (w, ps) := round respond (n + 1) ps w
    (w, p :: ps)

/-- The result of a task that has finished. -/
def Process.result? : Process S Q A α → Option α
  | .finished a => some a
  | _ => none

/-- Runs tasks until all have finished, for at most `rounds` rounds. -/
def rounds (respond : Responder S Q A E) :
    (rounds : Nat) → List (Process S Q A α) → Stage S E → Stage S E × List (Process S Q A α)
  | 0, ps, w => (w, ps)
  | k + 1, ps, w =>
    if ps.all fun p => p.result?.isSome then (w, ps)
    else
      let (w, ps) := round respond 0 ps w
      rounds respond k ps w

end Schedule

variable {S Q : Type} {A : Q → Type} {E α : Type}

/-- Runs tasks side by side, each after a number of visits. Gives the state, the one who answers, and
the results of those that finished within so many rounds. -/
def runAll (respond : Responder S Q A E) (limit : Nat) (tasks : List (Nat × Task S Q A α))
    (s : S) (e : E) : S × E × List (Option α) :=
  let (w, ps) := Schedule.rounds respond limit
    (tasks.map fun (visits, t) => Schedule.Process.waiting visits t) ⟨s, e, none, []⟩
  (w.state, w.responder, ps.map Schedule.Process.result?)

end TripClient
