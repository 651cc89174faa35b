import TripClient.Cache
import TripClient.Proofs.Alone
import TripClient.Proofs.Sorted

/-!
# What a cache holds and gives

A cache holds no entry but those it held and the one that is put in (`entries_get_subset`,
`entries_insert_subset`, `entries_erase_subset`), and gives what it holds (`mem_of_get`): a key has the
value that was put in, and none once it is dropped (`peek?_insert`, `peek?_erase`). A value is
looked up, and fetched if it is not there or if a new one is asked for; what was fetched is kept
(`getOrFetch_true`, `getOrFetch_false`). On its own this is one of two things: what is known is given
(`getOrFetch_alone_of_known`), and what is not is fetched and put in (`getOrFetch_alone`).

A new cache is sound (`sound_empty`): it has one entry for a key at most, and no more entries than there is
room for. Whatever is done with it, it stays so (`Sound.get`, `Sound.insert`, `Sound.erase`, `sound_clear`).
-/

namespace TripClient.Cache

variable {κ ν : Type} [BEq κ] {S Q : Type} {A : Q → Type}

/-! ## Entries -/

section
variable (key : κ) (c : Cache κ ν)

theorem others_subset : c.others key ⊆ c.entries := List.filter_sublist.subset

theorem entries_erase_subset : (c.erase key).entries ⊆ c.entries := others_subset key c

omit [BEq κ] in
theorem entries_clear_subset : c.clear.entries ⊆ c.entries := List.nil_subset _

/-- What is put in is all that is new. -/
theorem entries_insert_subset (v : ν) : (c.insert key v).entries ⊆ (key, v) :: c.entries := by
  refine fun e he => ?_
  rcases List.mem_cons.1 (List.mem_of_mem_take he) with rfl | he
  · exact List.mem_cons_self
  · exact List.mem_cons_of_mem _ (others_subset key c he)

/-- A key that is put in has one entry. -/
theorem eq_of_mem_insert [LawfulBEq κ] {v w : ν} (h : (key, v) ∈ (c.insert key w).entries) : v = w := by
  rcases List.mem_cons.1 (List.mem_of_mem_take h) with heq | h
  · exact congrArg Prod.snd heq
  · simp [others] at h

/-- A value that is given is held. -/
theorem mem_of_get [LawfulBEq κ] {v : ν} (h : (c.get key).2 = some v) : (key, v) ∈ c.entries := by
  unfold get at h
  split at h
  · next v' hpeek =>
    cases h
    obtain ⟨before, after, heq, -⟩ := List.lookup_eq_some_iff.1 hpeek
    rw [heq]
    exact List.mem_append_right _ List.mem_cons_self
  · cases h

/-- A key has no value if it has no entry. -/
theorem peek?_eq_none_iff [LawfulBEq κ] : c.peek? key = none ↔ ∀ v, (key, v) ∉ c.entries := by
  rw [peek?, List.lookup_eq_none_iff]
  constructor
  · intro h v hv
    simpa using h (key, v) hv
  · rintro h ⟨k, v⟩ hv
    rw [bne_iff_ne]
    rintro rfl
    exact h v hv

/-- A key that is dropped has no value. -/
theorem peek?_erase [LawfulBEq κ] : (c.erase key).peek? key = none := by
  rw [peek?_eq_none_iff]
  simp [erase, others]

/-- The other keys keep what they have. -/
theorem peek?_erase_of_ne [LawfulBEq κ] {k : κ} (h : k ≠ key) : (c.erase key).peek? k = c.peek? k := by
  have hothers : ∀ entries : List (κ × ν),
      (entries.filter fun e => !(e.1 == key)).lookup k = entries.lookup k := by
    intro entries
    induction entries with
    | nil => rfl
    | cons e entries ih =>
      rw [List.filter_cons, List.lookup_cons]
      split
      · rw [List.lookup_cons, ih]
      · next heq =>
        have hkey : e.1 = key := by simpa using heq
        rw [beq_false_of_ne fun hk => h (hk.trans hkey)]
        exact ih
  exact hothers c.entries

/-- A key that is put in has the value that was put in, if there is room for it. -/
theorem peek?_insert [LawfulBEq κ] (h : 0 < c.capacity) (v : ν) :
    (c.insert key v).peek? key = some v := by
  obtain ⟨n, hn⟩ := Nat.exists_eq_succ_of_ne_zero (Nat.ne_of_gt h)
  simp [insert, peek?, hn]

/-- To use an entry brings no new one in. -/
theorem entries_get_subset [LawfulBEq κ] : (c.get key).1.entries ⊆ c.entries := by
  cases h : c.peek? key with
  | none => simp only [get, h]; exact List.Subset.refl _
  | some v =>
    have hmem : (key, v) ∈ c.entries := mem_of_get key c (by simp [get, h])
    simp only [get, h]
    exact List.cons_subset.2 ⟨hmem, others_subset key c⟩

/-- A use gives what is there. -/
@[simp]
theorem snd_get : (c.get key).2 = c.peek? key := by
  unfold get
  split
  · next h => exact h.symm
  · next h => exact h.symm

/-- A key with a value is put in front, and one without stays without. -/
theorem entries_get :
    (c.get key).1.entries = match c.peek? key with
      | some v => (key, v) :: c.others key
      | none => c.entries := by
  unfold get
  split <;> simp [*]

theorem capacity_get : (c.get key).1.capacity = c.capacity := by
  unfold get
  split <;> rfl

end

/-! ## Sound caches -/

/-- Each key has one entry, and there are no more entries than there is room for. -/
structure Sound (c : Cache κ ν) : Prop where
  nodup : (c.entries.map Prod.fst).Nodup
  size_le : c.size ≤ c.capacity

section
variable (key : κ) (c : Cache κ ν)

theorem others_sublist : (c.others key).Sublist c.entries := List.filter_sublist

omit [BEq κ] in
theorem sound_empty (capacity : Nat) : (empty capacity : Cache κ ν).Sound :=
  ⟨.nil, Nat.zero_le _⟩

variable [LawfulBEq κ]

theorem fst_ne_of_mem_others {e : κ × ν} (h : e ∈ c.others key) : e.1 ≠ key := by
  simpa using (List.mem_filter.1 h).2

/-- A key that is put in front of all others has one entry. -/
theorem nodup_cons_others (h : (c.entries.map Prod.fst).Nodup) (v : ν) :
    (((key, v) :: c.others key).map Prod.fst).Nodup := by
  refine List.nodup_cons.2 ⟨fun hmem => ?_, h.sublist ((others_sublist key c).map _)⟩
  obtain ⟨e, he, heq⟩ := List.mem_map.1 hmem
  exact fst_ne_of_mem_others key c he heq

/-- Among the others there is one entry less than among all, if the key has one. -/
theorem length_others_lt {v : ν} (h : (key, v) ∈ c.entries) : (c.others key).length < c.size := by
  rw [others, size, List.length_filter_lt_length_iff_exists]
  exact ⟨(key, v), h, by simp⟩

variable {c}

/-- In a sound cache a key has the value of its entry. -/
theorem Sound.peek?_eq_some_iff (h : c.Sound) {v : ν} : c.peek? key = some v ↔ (key, v) ∈ c.entries :=
  ⟨fun hv => mem_of_get key c (by rw [snd_get, hv]), Sorted.lookup_of_mem h.nodup⟩

theorem Sound.get (h : c.Sound) : (c.get key).1.Sound := by
  cases hv : c.peek? key with
  | none =>
    have heq : (c.get key).1 = c := by simp [Cache.get, hv]
    rwa [heq]
  | some v =>
    have hmem : (key, v) ∈ c.entries := (h.peek?_eq_some_iff key).1 hv
    constructor
    · rw [entries_get, hv]
      exact nodup_cons_others key c h.nodup v
    · rw [size, entries_get, hv, capacity_get]
      exact Nat.le_trans (length_others_lt key c hmem) h.size_le

theorem Sound.insert (h : c.Sound) (v : ν) : (c.insert key v).Sound where
  nodup := (nodup_cons_others key c h.nodup v).sublist ((List.take_sublist _ _).map _)
  size_le := List.length_take_le _ _

omit [LawfulBEq κ] in
theorem Sound.erase (h : c.Sound) : (c.erase key).Sound where
  nodup := h.nodup.sublist ((others_sublist key c).map _)
  size_le := Nat.le_trans (others_sublist key c).length_le h.size_le

omit [BEq κ] [LawfulBEq κ] in
theorem sound_clear : c.clear.Sound := ⟨.nil, Nat.zero_le _⟩

end

/-! ## Looking up and fetching -/

section
variable (get' : S → Cache κ ν) (set : Cache κ ν → S → S) (key : κ) (fetch : Task S Q A (Outcome ν))

/-- What is done with what was fetched. -/
def keep : Outcome ν → Task S Q A (Outcome ν)
  | .ok v => .act (fun s => set ((get' s).insert key v) s) fun _ => .done (.ok v)
  | .error f => .done (.error f)

/-- What is done with what is known: it is given, or else fetched. -/
def giveOrFetch : Option ν → Task S Q A (Outcome ν)
  | some v => .done (.ok v)
  | none => fetch.bind (keep get' set key)

/-- Whoever asks for a new value has it fetched. -/
theorem getOrFetch_true : getOrFetch get' set key true fetch = fetch.bind (keep get' set key) := by
  refine congrArg (Task.bind fetch) (funext fun outcome => ?_)
  cases outcome <;> rfl

/-- Otherwise it is looked up first. -/
theorem getOrFetch_false :
    getOrFetch get' set key false fetch =
      .act (fun s => set ((get' s).get key).1 s) fun s =>
        giveOrFetch get' set key fetch ((get' s).get key).2 := by
  refine congrArg (Task.act _) (funext fun s => ?_)
  change (Task.done ((get' s).get key).2).bind _ = _
  rw [Task.bind]
  cases ((get' s).get key).2 with
  | some v => rfl
  | none =>
    refine congrArg (Task.bind fetch) (funext fun outcome => ?_)
    cases outcome <;> rfl

end

/-! ## Looking up and fetching on its own -/

section
variable {E : Type} {get' : S → Cache κ ν} {set : Cache κ ν → S → S} {key : κ} {force : Bool}

/-- The state in which a value is fetched: it was looked up first, unless a new one is asked for. -/
def lookedUp (get' : S → Cache κ ν) (set : Cache κ ν → S → S) (key : κ) (force : Bool) (s : S) : S :=
  if force then s else set ((get' s).get key).1 s

/-- A value that is not there is looked up in vain. -/
theorem lookedUp_of_missed (hset : ∀ s, set (get' s) s = s) {s : S}
    (hmiss : force ∨ (get' s).peek? key = none) : lookedUp get' set key force s = s := by
  unfold lookedUp
  split
  · rfl
  · next hforce =>
    simp only [Cache.get, hmiss.resolve_left hforce]
    exact hset s

/-- A value has to be fetched, or it is known. -/
theorem missed_or_known (c : Cache κ ν) (key : κ) (force : Bool) :
    (force ∨ c.peek? key = none) ∨ force = false ∧ ∃ v, c.peek? key = some v := by
  cases force with
  | true => exact .inl (.inl rfl)
  | false =>
    cases h : c.peek? key with
    | none => exact .inl (.inr rfl)
    | some v => exact .inr ⟨rfl, v, rfl⟩

/-- A value that is known is given. -/
theorem getOrFetch_alone_of_known {s : S} {v : ν} (h : (get' s).peek? key = some v)
    (respond : Responder S Q A E) (fetch : Task S Q A (Outcome ν)) (e : E) :
    (getOrFetch get' set key false fetch).alone respond s e =
      ⟨[], set ((get' s).get key).1 s, e, .ok v⟩ := by
  have hv : ((get' s).get key).2 = some v := by simp [get, h]
  rw [getOrFetch_false, Task.alone, hv]
  rfl

/-- Where a value has to be fetched, it is put in when it is there, whatever was done meanwhile. -/
theorem getOrFetch_alone {s : S} (hmiss : force ∨ (get' s).peek? key = none)
    (respond : Responder S Q A E) (fetch : Task S Q A (Outcome ν)) (e : E) :
    (getOrFetch get' set key force fetch).alone respond s e =
      let fetched := fetch.alone respond (lookedUp get' set key force s) e
      match fetched.result with
      | .ok v => { fetched with state := set ((get' fetched.state).insert key v) fetched.state }
      | .error _ => fetched := by
  have hkeep (s : S) : (fetch.bind (keep get' set key)).alone respond s e =
      let fetched := fetch.alone respond s e
      match fetched.result with
      | .ok v => { fetched with state := set ((get' fetched.state).insert key v) fetched.state }
      | .error _ => fetched := by
    rw [Task.alone_bind]
    generalize fetch.alone respond s e = fetched
    obtain ⟨said, state, responder, result⟩ := fetched
    cases result <;> simp [keep, Task.alone]
  cases force with
  | true => rw [getOrFetch_true, hkeep, lookedUp, if_pos rfl]
  | false =>
    have hnone : ((get' s).get key).2 = none := by
      simp [get, hmiss.resolve_left Bool.false_ne_true]
    rw [getOrFetch_false, lookedUp, if_neg Bool.false_ne_true]
    simp only [Task.alone, hnone]
    exact hkeep _

end

end TripClient.Cache
