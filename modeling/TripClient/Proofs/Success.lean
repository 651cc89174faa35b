/-!
# Results of steps

Steps that may fail give a result only if each of them does.
-/

namespace TripClient

variable {ε ε' α β : Type}

/-- Two steps give what the second gives on the result of the first. -/
theorem bind_eq_ok {x : Except ε α} {f : α → Except ε β} {b : β} :
    (x >>= f) = .ok b ↔ ∃ a, x = .ok a ∧ f a = .ok b := by
  cases x with
  | error e => exact ⟨nofun, nofun⟩
  | ok a => exact ⟨fun h => ⟨a, rfl, h⟩, fun ⟨_, ha, h⟩ => by cases ha; exact h⟩

/-- A step that gave its result is followed by the next. -/
theorem ok_bind (a : α) (f : α → Except ε β) : (Except.ok a >>= f) = f a := rfl

theorem map_eq_ok {x : Except ε α} {f : α → β} {b : β} :
    (f <$> x) = .ok b ↔ ∃ a, x = .ok a ∧ f a = b := by
  cases x with
  | error e => exact ⟨nofun, nofun⟩
  | ok a =>
    refine ⟨fun h => ⟨a, rfl, Except.ok.inj h⟩, ?_⟩
    rintro ⟨_, ⟨⟩, rfl⟩
    rfl

theorem mapError_eq_ok {x : Except ε α} {f : ε → ε'} {a : α} :
    x.mapError f = .ok a ↔ x = .ok a := by
  cases x with
  | error e => exact ⟨nofun, nofun⟩
  | ok b => exact ⟨fun h => by cases h; rfl, fun h => by cases h; rfl⟩

/-- A result is what is left when a failure is forgotten. -/
theorem toOption_eq_some_iff {x : Except ε α} {a : α} : x.toOption = some a ↔ x = .ok a := by
  cases x with
  | error e => exact ⟨nofun, nofun⟩
  | ok b => exact ⟨fun h => congrArg Except.ok (Option.some.inj h), fun h => by cases h; rfl⟩

/-- Behind a check the result is that of the next step, and the check did not fail. -/
theorem throw_else_eq_ok {p : Prop} [Decidable p] {e : ε} {next : Except ε α} {a : α} :
    (if p then throw e else next) = .ok a ↔ ¬ p ∧ next = .ok a := by
  split
  · next hp => exact ⟨nofun, fun h => absurd hp h.1⟩
  · next hp => exact ⟨fun h => ⟨hp, h⟩, fun h => h.2⟩

/-! ## Lists of results -/

section

variable {α β : Type} {f : α → Option β}

/-- Every result belongs to an element. -/
theorem exists_of_mem_mapM {as : List α} {bs : List β} (h : as.mapM f = some bs) {b : β}
    (hb : b ∈ bs) : ∃ a ∈ as, f a = some b := by
  induction as generalizing bs with
  | nil =>
    cases h
    cases hb
  | cons a as ih =>
    rw [List.mapM_cons] at h
    obtain ⟨b', hb', h⟩ := Option.bind_eq_some_iff.1 h
    obtain ⟨bs', hbs', h⟩ := Option.bind_eq_some_iff.1 h
    cases h
    rcases List.mem_cons.1 hb with rfl | hb
    · exact ⟨a, List.mem_cons_self, hb'⟩
    · obtain ⟨a', ha', heq⟩ := ih hbs' hb
      exact ⟨a', List.mem_cons_of_mem a ha', heq⟩

/-- There are as many results as elements. -/
theorem length_of_mapM {as : List α} {bs : List β} (h : as.mapM f = some bs) :
    bs.length = as.length := by
  induction as generalizing bs with
  | nil =>
    cases h
    rfl
  | cons a as ih =>
    rw [List.mapM_cons] at h
    obtain ⟨b', -, h⟩ := Option.bind_eq_some_iff.1 h
    obtain ⟨bs', hbs', h⟩ := Option.bind_eq_some_iff.1 h
    cases h
    rw [List.length_cons, List.length_cons, ih hbs']

/-- If an element has no result, there are none. -/
theorem mapM_eq_none {as : List α} {a : α} (ha : a ∈ as) (h : f a = none) : as.mapM f = none := by
  cases hall : as.mapM f with
  | none => rfl
  | some bs =>
    induction as generalizing bs with
    | nil => cases ha
    | cons a' as ih =>
      rw [List.mapM_cons] at hall
      obtain ⟨b, hb, hall⟩ := Option.bind_eq_some_iff.1 hall
      obtain ⟨bs', hbs', -⟩ := Option.bind_eq_some_iff.1 hall
      rcases List.mem_cons.1 ha with rfl | ha
      · rw [h] at hb
        cases hb
      · cases ih ha bs' hbs'

/-- If each element has its result, all have theirs. -/
theorem mapM_eq_some_map {g : α → β} {as : List α} (h : ∀ a ∈ as, f a = some (g a)) :
    as.mapM f = some (as.map g) := by
  induction as with
  | nil => rfl
  | cons a as ih =>
    rw [List.mapM_cons, h a List.mem_cons_self, ih fun b hb => h b (List.mem_cons_of_mem a hb)]
    rfl

end

end TripClient
