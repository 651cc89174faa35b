import Mathlib.Data.List.Forall2
import TripClient.Proofs.Interleaving

/-!
# Tasks that cannot be told apart

Two tasks are twins if they do the same but for what is not told apart (`Task.Twin`): in states that are
alike they take the same kind of step, to states that are alike again; they ask questions that are
alike, go on as twins with answers that are alike, and end with results that are alike. What goes on as
twins after twins is twins (`Task.Twin.bind`), and twins on a part of the state are twins on the whole
(`Task.Twin.zoom`).

Two runs of twins that get the same turns, and answers that are alike, cannot be told apart
(`run_twin`): each move keeps the two worlds twins (`World.Twin.step`). So the states that the runs lead
through are alike one by one, and the same tasks have ended, with results that are alike, in whatever
order the moves are made.
-/

namespace TripClient

variable {S Q : Type} {A : Q → Type} {α α' β β' : Type}

/-! ## Options, lists and outcomes side by side -/

section
variable {R : α → α' → Prop} {R' : β → β' → Prop} {x : Option α} {x' : Option α'} {xs : List α}
  {xs' : List α'}

theorem rel_map {f : α → β} {f' : α' → β'} (h : Option.Rel R x x')
    (hf : ∀ a a', R a a' → R' (f a) (f' a')) : Option.Rel R' (x.map f) (x'.map f') := by
  cases h with
  | none => exact .none
  | some h => exact .some (hf _ _ h)

theorem eq_of_rel {x x' : Option α} (h : Option.Rel (· = ·) x x') : x = x' := by
  cases h with
  | none => rfl
  | some h => rw [h]

theorem isSome_eq_of_rel (h : Option.Rel R x x') : x.isSome = x'.isSome := by
  cases h <;> rfl

/-- Lists that are related one by one have something in the same places. -/
theorem rel_getElem?_of_forall₂ (h : List.Forall₂ R xs xs') (n : Nat) :
    Option.Rel R xs[n]? xs'[n]? := by
  induction h generalizing n with
  | nil => exact .none
  | cons h _ ih =>
    cases n with
    | zero => exact .some h
    | succ n => exact ih n

theorem forall₂_set (h : List.Forall₂ R xs xs') {a : α} {a' : α'} (ha : R a a') (n : Nat) :
    List.Forall₂ R (xs.set n a) (xs'.set n a') := by
  induction h generalizing n with
  | nil => exact .nil
  | cons h hs ih =>
    cases n with
    | zero => exact .cons ha hs
    | succ n => exact .cons h (ih n)

/-- The outcomes are one failure, or results that `R` relates. -/
inductive OutcomesAlike {ε : Type} (R : α → α' → Prop) : Except ε α → Except ε α' → Prop
  | ok {a : α} {a' : α'} : R a a' → OutcomesAlike R (.ok a) (.ok a')
  | error (f : ε) : OutcomesAlike R (.error f) (.error f)

theorem OutcomesAlike.eq {ε : Type} {y y' : Except ε α} (h : OutcomesAlike (· = ·) y y') : y = y' := by
  cases h with
  | ok h => rw [h]
  | error f => rfl

theorem OutcomesAlike.of_eq {ε : Type} {y y' : Except ε α} (h : y = y') :
    OutcomesAlike (· = ·) y y' := by
  subst h
  cases y with
  | ok a => exact .ok rfl
  | error f => exact .error f

/-- Results that are there on both sides or on neither, with a failure for those that are not. -/
theorem OutcomesAlike.of_rel {ε : Type} (h : Option.Rel R x x') (f : ε) :
    OutcomesAlike R (x.elim (.error f) .ok) (x'.elim (.error f) .ok) := by
  cases h with
  | none => exact .error f
  | some h => exact .ok h

end

/-! ## Tasks -/

/-- What is not told apart: states, questions, and answers to questions. -/
structure Likeness (S Q : Type) (A : Q → Type) where
  state : S → S → Prop
  question : Q → Q → Prop
  answer : (q q' : Q) → A q → A q' → Prop

namespace Task

/-- The tasks cannot be told apart until they end, and `R` relates their results. -/
inductive Twin (L : Likeness S Q A) (R : α → α' → Prop) : Task S Q A α → Task S Q A α' → Prop
  | done {a : α} {a' : α'} : R a a' → Twin L R (.done a) (.done a')
  | act {change change' : S → S} {next : S → Task S Q A α} {next' : S → Task S Q A α'} :
      (∀ s s', L.state s s' → L.state (change s) (change' s')) →
      (∀ s s', L.state s s' → Twin L R (next s) (next' s')) →
      Twin L R (.act change next) (.act change' next')
  | ask {q q' : Q} {next : A q → Task S Q A α} {next' : A q' → Task S Q A α'} :
      L.question q q' → (∀ a a', L.answer q q' a a' → Twin L R (next a) (next' a')) →
      Twin L R (.ask q next) (.ask q' next')
  | acquire {next : Task S Q A α} {next' : Task S Q A α'} :
      Twin L R next next' → Twin L R (.acquire next) (.acquire next')
  | release {next : Task S Q A α} {next' : Task S Q A α'} :
      Twin L R next next' → Twin L R (.release next) (.release next')

variable {L : Likeness S Q A} {R : α → α' → Prop} {R' : β → β' → Prop}

/-- What goes on as twins after twins is twins. -/
theorem Twin.bind {t : Task S Q A α} {t' : Task S Q A α'} {f : α → Task S Q A β}
    {f' : α' → Task S Q A β'} (ht : Twin L R t t') (hf : ∀ a a', R a a' → Twin L R' (f a) (f' a')) :
    Twin L R' (t.bind f) (t'.bind f') := by
  induction ht with
  | done ha => exact hf _ _ ha
  | act hchange _ ih => exact .act hchange ih
  | ask hq _ ih => exact .ask hq ih
  | acquire _ ih => exact .acquire ih
  | release _ ih => exact .release ih

/-- Twins on a part of the state are twins on the whole, if those who answer them are twins. -/
theorem Twin.zoom {S' Q' : Type} {A' : Q' → Type} {L' : Likeness S' Q' A'} {get : S' → S}
    {set : S → S' → S'} {answer : (q : Q) → Task S' Q' A' (A q)}
    (hget : ∀ s s', L'.state s s' → L.state (get s) (get s'))
    (hset : ∀ u u' s s', L.state u u' → L'.state s s' → L'.state (set u s) (set u' s'))
    (hanswer : ∀ q q', L.question q q' → Twin L' (L.answer q q') (answer q) (answer q'))
    {t : Task S Q A α} {t' : Task S Q A α'} (ht : Twin L R t t') :
    Twin L' R (t.within get set answer) (t'.within get set answer) := by
  induction ht with
  | done ha => exact .done ha
  | act hchange _ ih =>
    exact .act (fun s s' hs => hset _ _ _ _ (hchange _ _ (hget s s' hs)) hs)
      fun s s' hs => ih _ _ (hget s s' hs)
  | ask hq _ ih => exact (hanswer _ _ hq).bind ih
  | acquire _ ih => exact .acquire ih
  | release _ ih => exact .release ih

end Task

namespace Interleaving

variable {L C : Type} {K : Likeness S Q A} {R : α → α' → Prop}

/-! ## Turns -/

/-- The tasks are where they cannot be told apart. -/
inductive Place.Twin (K : Likeness S Q A) (R : α → α' → Prop) : Place S Q A α → Place S Q A α' → Prop
  | ready {t : Task S Q A α} {t' : Task S Q A α'} : t.Twin K R t' → Twin K R (.ready t) (.ready t')
  | asking {q q' : Q} {next : A q → Task S Q A α} {next' : A q' → Task S Q A α'} : K.question q q' →
      (∀ a a', K.answer q q' a a' → (next a).Twin K R (next' a')) →
      Twin K R (.asking q next) (.asking q' next')

/-- The turns lead to the same holder of the gate, and to what cannot be told apart. -/
structure Turn.Twin (K : Likeness S Q A) (R : α → α' → Prop) (t : Turn S Q A α) (t' : Turn S Q A α') :
    Prop where
  state : K.state t.state t'.state
  holder_eq : t'.holder = t.holder
  place : t.place.Twin K R t'.place

section
variable {p : Place S Q A α} {p' : Place S Q A α'} {s s' : S}

/-- Twins take their next steps as twins, or neither of them can take one. -/
theorem next?_twin (n : Nat) (holder : Option Nat) (hs : K.state s s') (hp : p.Twin K R p') :
    Option.Rel (Turn.Twin K R) (next? n s holder p) (next? n s' holder p') := by
  cases hp with
  | asking hq hnext => exact .none
  | ready ht =>
    cases ht with
    | done ha => exact .none
    | act hchange hnext => exact .some ⟨hchange _ _ hs, rfl, .ready (hnext _ _ hs)⟩
    | ask hq hnext => exact .some ⟨hs, rfl, .asking hq hnext⟩
    | release hnext => exact .some ⟨hs, rfl, .ready hnext⟩
    | acquire hnext =>
      cases holder with
      | none => exact .some ⟨hs, rfl, .ready hnext⟩
      | some m => exact .none

/-- Twins get their answers as twins, or neither of them waits for one. -/
theorem answered?_twin {answers answers' : (q : Q) → A q}
    (hanswers : ∀ q q', K.question q q' → K.answer q q' (answers q) (answers' q'))
    (holder : Option Nat) (hs : K.state s s') (hp : p.Twin K R p') :
    Option.Rel (Turn.Twin K R) (answered? answers s holder p) (answered? answers' s' holder p') := by
  cases hp with
  | ready ht => exact .none
  | asking hq hnext => exact .some ⟨hs, rfl, .ready (hnext _ _ (hanswers _ _ hq))⟩

end

/-- The result of a task that has come to its end. -/
def Place.result? : Place S Q A α → Option α
  | .ready (.done a) => some a
  | _ => none

/-- Twins have results that are alike, or neither of them has come to its end. -/
theorem Place.Twin.result? {p : Place S Q A α} {p' : Place S Q A α'} (h : p.Twin K R p') :
    Option.Rel R p.result? p'.result? := by
  cases h with
  | asking hq hnext => exact .none
  | ready ht =>
    cases ht with
    | done ha => exact .some ha
    | act hchange hnext => exact .none
    | ask hq hnext => exact .none
    | acquire hnext => exact .none
    | release hnext => exact .none

/-! ## Worlds -/

/-- The worlds have come to what cannot be told apart, through states that cannot. -/
structure World.Twin (K : Likeness S Q A) (R : α → α' → Prop) (w : World L C S Q A α)
    (w' : World L C S Q A α') : Prop where
  state : K.state w.state w'.state
  holder_eq : w'.holder = w.holder
  tasks : List.Forall₂ (fun p p' => p.2.Twin K R p'.2) w.tasks w'.tasks
  past : List.Forall₂ (fun m m' => K.state m.state m'.state) w.past w'.past

/-- The moves do the same: tasks that join are twins, changes keep states alike, and so are answers. -/
inductive Move.Twin (K : Likeness S Q A) (R : α → α' → Prop) (program : L → Task S Q A α)
    (program' : L → Task S Q A α') (outside : C → S → S) : Move L C Q A → Move L C Q A → Prop
  | join {label label' : L} : (program label).Twin K R (program' label') →
      Twin K R program program' outside (.join label) (.join label')
  | change {c c' : C} : (∀ s s', K.state s s' → K.state (outside c s) (outside c' s')) →
      Twin K R program program' outside (.change c) (.change c')
  | go (n : Nat) : Twin K R program program' outside (.go n) (.go n)
  | answer (n : Nat) {answers answers' : (q : Q) → A q} :
      (∀ q q', K.question q q' → K.answer q q' (answers q) (answers' q')) →
      Twin K R program program' outside (.answer n answers) (.answer n answers')

section
variable {program : L → Task S Q A α} {program' : L → Task S Q A α'} {outside : C → S → S}
  {w : World L C S Q A α} {w' : World L C S Q A α'}

theorem World.twin_start {s s' : S} (hs : K.state s s') :
    (World.start s : World L C S Q A α).Twin K R (World.start s') :=
  ⟨hs, rfl, .nil, .nil⟩

/-- Worlds stay twins when the same task gets a turn in both. -/
theorem World.Twin.give (h : w.Twin K R w') {n : Nat} {turn? : Place S Q A α → Option (Turn S Q A α)}
    {turn?' : Place S Q A α' → Option (Turn S Q A α')}
    (hturn : ∀ p p', p.Twin K R p' → Option.Rel (Turn.Twin K R) (turn? p) (turn?' p')) :
    (w.give n turn?).Twin K R (w'.give n turn?') := by
  have htask := rel_getElem?_of_forall₂ h.tasks n
  unfold World.give
  generalize w.tasks[n]? = task at htask ⊢
  generalize w'.tasks[n]? = task' at htask ⊢
  cases htask with
  | none => exact h
  | @some p p' hp =>
    have hnext := hturn _ _ hp
    dsimp only
    generalize turn? p.2 = next at hnext ⊢
    generalize turn?' p'.2 = next' at hnext ⊢
    cases hnext with
    | none => exact h
    | some ht => exact ⟨ht.state, ht.holder_eq, forall₂_set h.tasks ht.place n, .cons h.state h.past⟩

/-- Worlds stay twins with moves that do the same. -/
theorem World.Twin.step (h : w.Twin K R w') {move move' : Move L C Q A}
    (hmove : move.Twin K R program program' outside move') :
    (w.step program outside move).Twin K R (w'.step program' outside move') := by
  cases hmove with
  | join hjoin =>
    exact ⟨h.state, h.holder_eq, List.rel_append h.tasks (.cons (.ready hjoin) .nil),
      .cons h.state h.past⟩
  | change hchange => exact ⟨hchange _ _ h.state, h.holder_eq, h.tasks, .cons h.state h.past⟩
  | go n =>
    refine h.give fun p p' hp => ?_
    rw [h.holder_eq]
    exact next?_twin n _ h.state hp
  | answer n hanswers =>
    refine h.give fun p p' hp => ?_
    rw [h.holder_eq]
    exact answered?_twin hanswers _ h.state hp

/-- Runs with moves that do the same lead to worlds that are twins. -/
theorem run_twin {s s' : S} (hs : K.state s s') {moves moves' : List (Move L C Q A)}
    (hmoves : List.Forall₂ (Move.Twin K R program program' outside) moves moves') :
    (run program outside s moves).Twin K R (run program' outside s' moves') := by
  have hfold {w : World L C S Q A α} {w' : World L C S Q A α'} (h : w.Twin K R w') :
      (moves.foldl (World.step program outside) w).Twin K R
        (moves'.foldl (World.step program' outside) w') := by
    induction hmoves generalizing w w' with
    | nil => exact h
    | cons hmove _ ih => exact ih (h.step hmove)
  exact hfold (World.twin_start hs)

end

end Interleaving

end TripClient
