import TripClient.Proofs.Cache

/-!
# Evictions while a value is fetched

While one caller fetches a value others use the cache (`Change`): they look values up, put them in, and
drop them. Once a key is dropped it has no value until one is put in (`peek?_applyAll_of_evicted`). But
whoever comes back with a value puts it in, and does not ask what became of the key meanwhile. So an
eviction that others make during a fetch lasts if the fetch fails, and only then
(`evicted_iff_fetch_failed`): a value that was fetched before the eviction is there after it
(`eviction_undone`).
-/

namespace TripClient.Cache

variable {κ ν : Type} [BEq κ]

/-! ## What others do to a cache -/

/-- What others do to a cache. -/
inductive Change (κ ν : Type) where
  | get (key : κ)
  | insert (key : κ) (value : ν)
  | erase (key : κ)
  | clear

namespace Change

/-- The cache after the change. -/
def apply : Change κ ν → Cache κ ν → Cache κ ν
  | get key, c => (c.get key).1
  | insert key value, c => c.insert key value
  | erase key, c => c.erase key
  | clear, c => c.clear

/-- The change drops a key. -/
def Drops (key : κ) : Change κ ν → Prop
  | erase k => k = key
  | clear => True
  | get _ | insert _ _ => False

/-- The change gives a key a value. -/
def Puts (key : κ) : Change κ ν → Prop
  | insert k _ => k = key
  | get _ | erase _ | clear => False

end Change

/-- The cache after changes one after the other. -/
def applyAll (changes : List (Change κ ν)) (c : Cache κ ν) : Cache κ ν :=
  changes.foldl (fun c x => x.apply c) c

/-- A key is dropped, and nobody gives it a value after that. -/
def Evicted (key : κ) (changes : List (Change κ ν)) : Prop :=
  ∃ before x after, changes = before ++ x :: after ∧ x.Drops key ∧ ∀ y ∈ after, ¬ y.Puts key

/-! ## A key that is dropped has no value -/

section
variable (c : Cache κ ν)

/-- No change gives a cache more room, or less. -/
theorem capacity_apply (x : Change κ ν) : (x.apply c).capacity = c.capacity := by
  cases x with
  | get key =>
    simp only [Change.apply, get]
    split <;> rfl
  | insert key value => rfl
  | erase key => rfl
  | clear => rfl

theorem capacity_applyAll (changes : List (Change κ ν)) :
    (applyAll changes c).capacity = c.capacity := by
  induction changes generalizing c with
  | nil => rfl
  | cons x changes ih => exact (ih (x.apply c)).trans (capacity_apply c x)

variable [LawfulBEq κ] {c} {key : κ}

/-- A key that is dropped has no value. -/
theorem peek?_apply_of_drops {x : Change κ ν} (h : x.Drops key) : (x.apply c).peek? key = none := by
  cases x with
  | get k => exact h.elim
  | insert k value => exact h.elim
  | erase k =>
    cases h
    exact peek?_erase key c
  | clear => rfl

/-- A key that has no value gets none, unless somebody gives it one. -/
theorem peek?_apply_of_not_puts {x : Change κ ν} (h : ¬ x.Puts key) (hc : c.peek? key = none) :
    (x.apply c).peek? key = none := by
  rw [peek?_eq_none_iff] at hc ⊢
  cases x with
  | get k => exact fun v hv => hc v (entries_get_subset k c hv)
  | insert k value =>
    intro v hv
    rcases List.mem_cons.1 (entries_insert_subset k c value hv) with heq | hv
    · exact h (congrArg Prod.fst heq).symm
    · exact hc v hv
  | erase k => exact fun v hv => hc v (entries_erase_subset k c hv)
  | clear => exact fun v hv => hc v (entries_clear_subset c hv)

/-- Once a key is dropped it has no value, whatever is done but to give it one. -/
theorem peek?_applyAll_of_evicted {changes : List (Change κ ν)} (h : Evicted key changes) :
    (applyAll changes c).peek? key = none := by
  obtain ⟨before, x, after, rfl, hx, hafter⟩ := h
  rw [applyAll, List.foldl_append, List.foldl_cons]
  generalize before.foldl (fun c x => x.apply c) c = c'
  have hdropped : (x.apply c').peek? key = none := peek?_apply_of_drops hx
  -- What holds after `x` is kept by all that comes after it.
  generalize x.apply c' = c'' at hdropped
  induction after generalizing c'' with
  | nil => exact hdropped
  | cons y after ih =>
    obtain ⟨hy, hafter⟩ := List.forall_mem_cons.1 hafter
    exact ih hafter (y.apply c'') (peek?_apply_of_not_puts hy hdropped)

end

/-! ## Who comes back with a value -/

section
variable {S Q E : Type} {A : Q → Type} {get' : S → Cache κ ν} {set : Cache κ ν → S → S}
  {key : κ} {force : Bool}

/-- If others drop a key while its value is fetched, and do not give it another, then the key has no
value in the end if and only if the fetch fails; else it has the value that was fetched. -/
theorem evicted_iff_fetch_failed [LawfulBEq κ] (hset : ∀ c s, get' (set c s) = c) {s : S}
    (hroom : 0 < (get' s).capacity) (hmiss : force ∨ (get' s).peek? key = none)
    (respond : Responder S Q A E) (fetch : Task S Q A (Outcome ν)) (e : E)
    {changes : List (Change κ ν)}
    (hchanges : get' (fetch.alone respond (lookedUp get' set key force s) e).state =
      applyAll changes (get' (lookedUp get' set key force s)))
    (hevicted : Evicted key changes) :
    let got := (getOrFetch get' set key force fetch).alone respond s e
    ((get' got.state).peek? key = none ↔ ∃ f, got.result = .error f) ∧
      ∀ v, got.result = .ok v → (get' got.state).peek? key = some v := by
  have hcapacity : (get' (lookedUp get' set key force s)).capacity = (get' s).capacity := by
    unfold lookedUp
    split
    · rfl
    · rw [hset]
      exact capacity_apply (get' s) (.get key)
  have hleft := peek?_applyAll_of_evicted (c := get' (lookedUp get' set key force s)) hevicted
  have hroom' : 0 < (applyAll changes (get' (lookedUp get' set key force s))).capacity := by
    rwa [capacity_applyAll, hcapacity]
  rw [← hchanges] at hleft hroom'
  rw [getOrFetch_alone hmiss]
  generalize fetch.alone respond (lookedUp get' set key force s) e = fetched at hleft hroom' ⊢
  obtain ⟨said, state, responder, result⟩ := fetched
  cases result with
  | error f => exact ⟨⟨fun _ => ⟨f, rfl⟩, fun _ => hleft⟩, nofun⟩
  | ok v =>
    have hheld : ((get' state).insert key v).peek? key = some v := peek?_insert key _ hroom' v
    simp only [hset, hheld]
    refine ⟨⟨nofun, nofun⟩, ?_⟩
    rintro _ ⟨⟩
    rfl

end

/-! ## A fetch that asks once -/

/-- Looks a value up in a cache, or asks for it. -/
def lookUp (key : κ) (force : Bool) :
    Task (Cache κ ν) Unit (fun _ => Outcome ν) (Outcome ν) :=
  getOrFetch id (fun c _ => c) key force (Task.query ())

/-- Who answers, and what others do to the cache until then. -/
def answering (changes : List (Change κ ν)) (answer : Outcome ν) :
    Responder (Cache κ ν) Unit (fun _ => Outcome ν) Unit :=
  fun _ _ => ((), ⟨0, applyAll changes, answer⟩)

/-- A key that is used and dropped while its fetch fails has no value in the end. -/
theorem evicted_for_good :
    let changes : List (Change String Nat) := [.insert "g1" 0, .get "g1", .erase "g1"]
    let got := (lookUp "g1" true).alone (answering changes (.error (.decode "no group"))) (.empty 2) ()
    Evicted "g1" changes ∧ (∃ f, got.result = .error f) ∧
      (got.state.peek? "g1" = none ↔ ∃ f, got.result = .error f) ∧
        ∀ v, got.result = .ok v → got.state.peek? "g1" = some v := by
  have hevicted : Evicted "g1" [.insert "g1" 0, .get "g1", (.erase "g1" : Change String Nat)] :=
    ⟨[.insert "g1" 0, .get "g1"], .erase "g1", [], rfl, rfl, nofun⟩
  refine ⟨hevicted, ⟨_, rfl⟩, ?_⟩
  exact @evicted_iff_fetch_failed String Nat _ _ _ _ _ id (fun c _ => c) "g1" true _ (fun _ _ => rfl) _
    (by decide) (.inl rfl) _ _ () _ rfl hevicted

/-- A value that was fetched before its key was dropped, or before everything was, is there in the
end. -/
theorem eviction_undone :
    let got (change : Change String Nat) :=
      (lookUp "g1" false).alone (answering [change] (.ok 1)) (.empty 2) ()
    (Evicted "g1" [(.erase "g1" : Change String Nat)] ∧ (got (.erase "g1")).state.peek? "g1" = some 1) ∧
      Evicted "g1" [(.clear : Change String Nat)] ∧ (got .clear).state.peek? "g1" = some 1 := by
  refine ⟨⟨⟨[], _, [], rfl, rfl, nofun⟩, ?_⟩, ⟨[], _, [], rfl, trivial, nofun⟩, ?_⟩ <;> decide +kernel

end TripClient.Cache
