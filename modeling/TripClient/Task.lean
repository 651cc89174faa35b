/-!
# Tasks

A task works on a state that it shares with others, and may ask questions that take time to be
answered. Its steps are the points at which others may come between: one change of the state, asking
a question, and taking or giving back the gate, which one task at a time may hold. A task is a tree
of its steps, so what it does can be followed by recursion on it, whoever answers. Tasks go on with one
another as they should (`bind_done`, `bind_bind`).
-/

namespace TripClient

/-- A task on a state `S` that asks questions `Q` with answers `A` and ends with a result. -/
inductive Task (S Q : Type) (A : Q → Type) (α : Type) where
  | done (result : α)
  /-- Changes the state in one step; what follows sees the state from before. -/
  | act (change : S → S) (next : S → Task S Q A α)
  | ask (question : Q) (next : A question → Task S Q A α)
  /-- Waits until the gate is free, and takes it. -/
  | acquire (next : Task S Q A α)
  | release (next : Task S Q A α)

namespace Task

variable {S Q : Type} {A : Q → Type} {α β : Type}

/-- Goes on with the result of a task. -/
def bind (t : Task S Q A α) (f : α → Task S Q A β) : Task S Q A β :=
  match t with
  | done a => f a
  | act change next => act change fun s => (next s).bind f
  | ask q next => ask q fun a => (next a).bind f
  | acquire next => acquire (next.bind f)
  | release next => release (next.bind f)

instance : Monad (Task S Q A) where
  pure := done
  bind := bind

/-- Going on with nothing changes nothing. -/
theorem bind_done (t : Task S Q A α) : t.bind done = t := by
  induction t with
  | done a => rfl
  | act change next ih => exact congrArg _ (funext ih)
  | ask q next ih => exact congrArg _ (funext ih)
  | acquire next ih => exact congrArg _ ih
  | release next ih => exact congrArg _ ih

/-- Going on twice is going on with both. -/
theorem bind_bind {γ : Type} (t : Task S Q A α) (f : α → Task S Q A β) (g : β → Task S Q A γ) :
    (t.bind f).bind g = t.bind fun a => (f a).bind g := by
  induction t with
  | done a => rfl
  | act change next ih => exact congrArg _ (funext ih)
  | ask q next ih => exact congrArg _ (funext ih)
  | acquire next ih => exact congrArg _ ih
  | release next ih => exact congrArg _ ih

instance : LawfulMonad (Task S Q A) :=
  LawfulMonad.mk' (Task S Q A) bind_done (fun _ _ => rfl) bind_bind

/-- Looks at the state. -/
def look (f : S → α) : Task S Q A α := act id fun s => done (f s)

/-- Changes the state, with a result, in one step. -/
def atomic (f : S → S × α) : Task S Q A α := act (fun s => (f s).1) fun s => done (f s).2

/-- Changes the state in one step. -/
def change (f : S → S) : Task S Q A Unit := act f fun _ => done ()

/-- Asks a question. -/
def query (q : Q) : Task S Q A (A q) := ask q done

/-- Holds the gate during a task. -/
def gated (t : Task S Q A α) : Task S Q A α :=
  acquire (t.bind fun a => release (done a))

/-- A task on a part of a larger state, whose questions are answered by tasks on the whole. -/
def within {S' Q' : Type} {A' : Q' → Type} (get : S' → S) (set : S → S' → S')
    (answer : (q : Q) → Task S' Q' A' (A q)) : Task S Q A α → Task S' Q' A' α
  | done a => done a
  | act change next =>
    act (fun s => set (change (get s)) s) fun s => within get set answer (next (get s))
  | ask q next => (answer q).bind fun a => within get set answer (next a)
  | acquire next => acquire (within get set answer next)
  | release next => release (within get set answer next)

end Task

end TripClient
