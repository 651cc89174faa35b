import TripClient.Proofs.Alone
import TripClient.Proofs.Interleaving

/-!
# Rules for tasks on their own

What a task does on its own is found from its parts. A task that changes the state only as `R` allows,
among others who do so too, leads to a state that `R` allows (`Task.Within.alone`). A task that neither
asks nor touches the gate (`Task.Local`) says nothing, whoever answers (`Task.Local.alone`). A task that
takes no heed of a part of the state (`Task.Blind`) says and gives the same whatever that part is
(`Task.Blind.alone`).

`Task.asked` is what a task says together with the states in which it asks (`Task.said_eq_asked`).

A task on a part of a larger state is followed as the larger task that it is (`Task.alone_within_ask`,
`Task.asked_within_ask`), and keeps to the same rules as the tasks that answer it (`Task.Orderly.zoom`,
`Task.Within.zoom`).
-/

namespace TripClient.Task

variable {S Q : Type} {A : Q → Type} {E α β : Type} {R R' : S → S → Prop} {P P' : α → Prop}

/-! ## Changes that are allowed -/

/-- What more is allowed than `R` is allowed too. -/
theorem Within.mono {t : Task S Q A α} (hR : ∀ s s', R s s' → R' s s') (ht : t.Within R) :
    t.Within R' := by
  induction t with
  | done a => trivial
  | act change next ih => exact ⟨fun s => hR _ _ (ht.1 s), fun s => ih s (ht.2 s)⟩
  | ask q next ih => exact fun a => ih a (ht a)
  | acquire next ih => exact ih ht
  | release next ih => exact ih ht

/-- A task within `R`, among others who keep to `R` too, leads to a state that `R` allows. -/
theorem Within.alone (refl : ∀ s, R s s) (trans : ∀ s t u, R s t → R t u → R s u)
    {respond : Responder S Q A E} (hothers : ∀ q e s, R s ((respond q e).2.meanwhile s))
    {t : Task S Q A α} (ht : t.Within R) (s : S) (e : E) : R s (t.alone respond s e).state := by
  induction t generalizing s e with
  | done a => exact refl s
  | act change next ih => exact trans _ _ _ (ht.1 s) (ih s (ht.2 s) _ e)
  | ask q next ih => exact trans _ _ _ (hothers q e s) (ih _ (ht _) _ _)
  | acquire next ih => exact ih ht s e
  | release next ih => exact ih ht s e

/-! ## Tasks without questions -/

/-- The task neither asks nor touches the gate; it changes the state as `R` allows, and each result that
it may give is one of `P`. -/
def Local (R : S → S → Prop) (P : α → Prop) : Task S Q A α → Prop
  | done a => P a
  | act change next => (∀ s, R s (change s)) ∧ ∀ s, (next s).Local R P
  | ask _ _ | acquire _ | release _ => False

/-- A local task goes on with a local task. -/
theorem Local.bind {Q' : β → Prop} {t : Task S Q A α} {f : α → Task S Q A β} (ht : t.Local R P)
    (hf : ∀ a, P a → (f a).Local R Q') : (t.bind f).Local R Q' := by
  induction t with
  | done a => exact hf a ht
  | act change next ih => exact ⟨ht.1, fun s => ih s (ht.2 s)⟩
  | ask q next ih => exact ht.elim
  | acquire next ih => exact ht.elim
  | release next ih => exact ht.elim

theorem Local.mono {t : Task S Q A α} (hR : ∀ s s', R s s' → R' s s') (hP : ∀ a, P a → P' a)
    (ht : t.Local R P) : t.Local R' P' := by
  induction t with
  | done a => exact hP a ht
  | act change next ih => exact ⟨fun s => hR _ _ (ht.1 s), fun s => ih s (ht.2 s)⟩
  | ask q next ih => exact ht.elim
  | acquire next ih => exact ht.elim
  | release next ih => exact ht.elim

/-- A local task is within what it may change. -/
theorem Local.within {t : Task S Q A α} (ht : t.Local R P) : t.Within R := by
  induction t with
  | done a => trivial
  | act change next ih => exact ⟨ht.1, fun s => ih s (ht.2 s)⟩
  | ask q next ih => exact ht.elim
  | acquire next ih => exact ht.elim
  | release next ih => exact ht.elim

/-- A local task leaves the gate as it is. -/
theorem Local.orderly {t : Task S Q A α} (held : Bool) (ht : t.Local R P) : t.Orderly held held := by
  induction t with
  | done a => rfl
  | act change next ih => exact fun s => ih s (ht.2 s)
  | ask q next ih => exact ht.elim
  | acquire next ih => exact ht.elim
  | release next ih => exact ht.elim

/-- A local task says nothing, changes the state as it may, and gives a result that it may. -/
theorem Local.alone (refl : ∀ s, R s s) (trans : ∀ s t u, R s t → R t u → R s u)
    {t : Task S Q A α} (ht : t.Local R P) (respond : Responder S Q A E) (s : S) (e : E) :
    ∃ s' a, t.alone respond s e = ⟨[], s', e, a⟩ ∧ R s s' ∧ P a := by
  induction t generalizing s with
  | done a => exact ⟨s, a, rfl, refl s, ht⟩
  | act change next ih =>
    obtain ⟨s', a, heq, hs, ha⟩ := ih s (ht.2 s) (change s)
    exact ⟨s', a, heq, trans _ _ _ (ht.1 s) hs, ha⟩
  | ask q next ih => exact ht.elim
  | acquire next ih => exact ht.elim
  | release next ih => exact ht.elim

/-- A local task says nothing, and leaves who would answer alone. -/
theorem Local.said {t : Task S Q A α} (ht : t.Local R P) (respond : Responder S Q A E) (s : S) (e : E) :
    (t.alone respond s e).said = [] ∧ (t.alone respond s e).responder = e := by
  have hmono : t.Local (fun _ _ => True) P := ht.mono (fun _ _ _ => trivial) fun _ => id
  obtain ⟨s', a, heq, -, -⟩ := hmono.alone (fun _ => trivial) (fun _ _ _ _ _ => trivial) respond s e
  rw [heq]
  exact ⟨rfl, rfl⟩

/-! ## Tasks that take no heed of a part of the state -/

/-- What the task does is the same in states that are alike, and they stay alike. -/
def Blind (Alike : S → S → Prop) : Task S Q A α → Prop
  | done _ => True
  | act change next =>
    (∀ s t, Alike s t → Alike (change s) (change t) ∧ next s = next t) ∧ ∀ s, (next s).Blind Alike
  | ask _ next => ∀ a, (next a).Blind Alike
  | acquire next => next.Blind Alike
  | release next => next.Blind Alike

variable {Alike : S → S → Prop}

theorem Blind.bind {t : Task S Q A α} {f : α → Task S Q A β} (ht : t.Blind Alike)
    (hf : ∀ a, (f a).Blind Alike) : (t.bind f).Blind Alike := by
  induction t with
  | done a => exact hf a
  | act change next ih =>
    refine ⟨fun s t h => ⟨(ht.1 s t h).1, ?_⟩, fun s => ih s (ht.2 s)⟩
    exact congrArg (Task.bind · f) (ht.1 s t h).2
  | ask q next ih => exact fun a => ih a (ht a)
  | acquire next ih => exact ih ht
  | release next ih => exact ih ht

/-- A blind task says and gives the same from states that are alike, and leads to states that are. -/
theorem Blind.alone {respond : Responder S Q A E}
    (hothers : ∀ q e s t, Alike s t →
      Alike ((respond q e).2.meanwhile s) ((respond q e).2.meanwhile t))
    {t : Task S Q A α} (ht : t.Blind Alike) {s s' : S} (h : Alike s s') (e : E) :
    (t.alone respond s e).said = (t.alone respond s' e).said ∧
      (t.alone respond s e).result = (t.alone respond s' e).result ∧
      (t.alone respond s e).responder = (t.alone respond s' e).responder ∧
      Alike (t.alone respond s e).state (t.alone respond s' e).state := by
  induction t generalizing s s' e with
  | done a => exact ⟨rfl, rfl, rfl, h⟩
  | act change next ih =>
    obtain ⟨hchange, hnext⟩ := ht.1 s s' h
    simp only [Task.alone, ← hnext]
    exact ih s (ht.2 s) hchange e
  | ask q next ih =>
    obtain ⟨hsaid, hrest⟩ := ih (respond q e).2.answer (ht _) (hothers q e s s' h) (respond q e).1
    exact ⟨congrArg (List.cons _) hsaid, hrest⟩
  | acquire next ih => exact ih ht h e
  | release next ih => exact ih ht h e

/-! ## In which state a question is asked -/

/-- A question, the state in which it is asked, and the reply to it. -/
structure Asked (S Q : Type) (A : Q → Type) where
  state : S
  question : Q
  reply : Reply S (A question)

/-- What the task asks on its own, the first question first. -/
def asked (respond : Responder S Q A E) : Task S Q A α → S → E → List (Asked S Q A)
  | done _, _, _ => []
  | act change next, s, e => (next s).asked respond (change s) e
  | ask q next, s, e =>
    let (e, reply) := respond q e
    ⟨s, q, reply⟩ :: (next reply.answer).asked respond (reply.meanwhile s) e
  | acquire next, s, e => next.asked respond s e
  | release next, s, e => next.asked respond s e

/-- What is asked, without the states, is what is said. -/
theorem said_eq_asked (respond : Responder S Q A E) (t : Task S Q A α) (s : S) (e : E) :
    (t.alone respond s e).said = (t.asked respond s e).map fun x => ⟨x.question, x.reply⟩ := by
  induction t generalizing s e with
  | done a => rfl
  | act change next ih => exact ih s (change s) e
  | ask q next ih => exact congrArg (List.cons _) (ih _ _ _)
  | acquire next ih => exact ih s e
  | release next ih => exact ih s e

/-- What follows a task asks on from where it left off. -/
theorem asked_bind (respond : Responder S Q A E) (t : Task S Q A α) (f : α → Task S Q A β) (s : S)
    (e : E) :
    (t.bind f).asked respond s e =
      let first := t.alone respond s e
      t.asked respond s e ++ (f first.result).asked respond first.state first.responder := by
  induction t generalizing s e with
  | done a => rfl
  | act change next ih => exact ih _ _ _
  | ask q next ih => exact congrArg (List.cons _) (ih _ _ _)
  | acquire next ih => exact ih _ _
  | release next ih => exact ih _ _

theorem Local.asked {t : Task S Q A α} (ht : t.Local R P) (respond : Responder S Q A E) (s : S) (e : E) :
    t.asked respond s e = [] :=
  List.map_eq_nil_iff.1 ((said_eq_asked respond t s e).symm.trans (ht.said respond s e).1)

/-! ## Tasks on a part of the state -/

section
variable {S' Q' : Type} {A' : Q' → Type} {get : S' → S} {set : S → S' → S'}
  {answer : (q : Q) → Task S' Q' A' (A q)}

/-- A task on a part of the state goes on there. -/
theorem within_bind (t : Task S Q A α) (f : α → Task S Q A β) :
    (t.bind f).within get set answer =
      (t.within get set answer).bind fun a => (f a).within get set answer := by
  induction t with
  | done a => rfl
  | act change next ih => exact congrArg _ (funext fun s => ih (get s))
  | ask q next ih =>
    simp only [Task.bind, within, bind_bind]
    exact congrArg _ (funext ih)
  | acquire next ih => exact congrArg _ ih
  | release next ih => exact congrArg _ ih

/-- What is asked on the part is answered by a task on the whole. -/
theorem alone_within_ask (respond : Responder S' Q' A' E) (q : Q) (next : A q → Task S Q A α) (s : S')
    (e : E) :
    ((Task.ask q next).within get set answer).alone respond s e =
      let asked := (answer q).alone respond s e
      let rest := ((next asked.result).within get set answer).alone respond asked.state
        asked.responder
      { rest with said := asked.said ++ rest.said } :=
  alone_bind respond _ _ _ _

theorem asked_within_ask (respond : Responder S' Q' A' E) (q : Q) (next : A q → Task S Q A α) (s : S')
    (e : E) :
    ((Task.ask q next).within get set answer).asked respond s e =
      let first := (answer q).alone respond s e
      (answer q).asked respond s e ++
        ((next first.result).within get set answer).asked respond first.state first.responder :=
  asked_bind respond _ _ _ _

/-- A task on a part of the state is orderly if it is orderly there, and whoever answers it leaves the
gate alone. -/
theorem Orderly.zoom {t : Task S Q A α} {before after : Bool} (ht : t.Orderly before after)
    (hanswer : ∀ q held, (answer q).Orderly held held) :
    (t.within get set answer).Orderly before after := by
  induction t generalizing before with
  | done a => exact ht
  | act change next ih => exact fun s => ih (get s) (ht (get s))
  | ask q next ih => exact (hanswer q before).bind fun a => ih a (ht a)
  | acquire next ih =>
    obtain ⟨rfl, ht⟩ := ht.of_acquire
    exact ih ht
  | release next ih =>
    obtain ⟨rfl, ht⟩ := ht.of_release
    exact ih ht

/-- A task on a part of the state changes the whole as it may change the part. -/
theorem Within.zoom {W : S' → S' → Prop} {t : Task S Q A α} (ht : t.Within R)
    (hset : ∀ s' u, R (get s') u → W s' (set u s')) (hanswer : ∀ q, (answer q).Within W) :
    (t.within get set answer).Within W := by
  induction t with
  | done a => trivial
  | act change next ih => exact ⟨fun s' => hset _ _ (ht.1 (get s')), fun s' => ih _ (ht.2 _)⟩
  | ask q next ih => exact (hanswer q).bind fun a => ih a (ht a)
  | acquire next ih => exact ih ht
  | release next ih => exact ih ht

end

end TripClient.Task
