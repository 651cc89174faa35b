import TripClient.Proofs.Eviction

/-!
# Caches of different capacity

The same is done with two caches, of which one has more room. What the smaller one holds is then a
sublist of what the larger one holds (`Embeds`), although a key may be used in the larger one alone: that
moves an entry to the front which the smaller one does not have. When the larger one drops its last entry
the smaller one must have dropped it before, or drop it now; this needs that the larger one never holds
more than its surplus of room beyond what the smaller one holds (`Embeds.gap`), as `take_sublist_take`
says of lists. Each use preserves this (`Embeds.apply`), so more room never turns a hit into a miss
(`contained_of_le`).
-/

namespace TripClient.Cache

variable {κ ν : Type}

/-! ## Uses -/

/-- What is done with a cache by who fetches nothing. -/
inductive Use (κ ν : Type) where
  | change (x : Change κ ν)
  /-- Asks whether a key has a value. -/
  | contains (key : κ)

section
variable [BEq κ]

/-- The cache after the use. -/
def Use.apply : Use κ ν → Cache κ ν → Cache κ ν
  | change x, c => x.apply c
  | contains _, c => c

/-- The cache after uses one after the other. -/
def useAll (uses : List (Use κ ν)) (c : Cache κ ν) : Cache κ ν := uses.foldl (fun c u => u.apply c) c

end

/-! ## Sublists -/

/-- The front of a sublist is a sublist of the front, if no more is cut off from the list than from the
sublist. -/
theorem take_sublist_take {α : Type} {short long : List α} (h : short.Sublist long) {n m : Nat}
    (hgap : long.length + n ≤ short.length + m) : (short.take n).Sublist (long.take m) := by
  induction h generalizing n m with
  | slnil => simp
  | @cons short long a h ih =>
    have hle := h.length_le
    rw [List.length_cons] at hgap
    cases m with
    | zero => omega
    | succ m =>
      rw [List.take_succ_cons]
      exact (ih (by omega)).cons a
  | @cons_cons short long a h ih =>
    have hle := h.length_le
    rw [List.length_cons, List.length_cons] at hgap
    cases n with
    | zero => exact List.nil_sublist _
    | succ n =>
      cases m with
      | zero => omega
      | succ m =>
        rw [List.take_succ_cons, List.take_succ_cons]
        exact (ih (by omega)).cons_cons a

/-- Where each key has one pair, a sublist is made of the pairs whose keys it has. -/
theorem filter_eq_of_sublist [BEq κ] [LawfulBEq κ] {short long : List (κ × ν)} (h : short.Sublist long)
    (hnodup : (long.map Prod.fst).Nodup) :
    (long.filter fun e => (short.lookup e.1).isSome) = short := by
  induction h with
  | slnil => rfl
  | @cons short long a h ih =>
    obtain ⟨ha, hlong⟩ := List.nodup_cons.1 hnodup
    have hnone : short.lookup a.1 = none :=
      Sorted.lookup_eq_none_of_not_mem fun hmem => ha ((h.map _).subset hmem)
    rw [List.filter_cons, hnone]
    exact ih hlong
  | @cons_cons short long a h ih =>
    obtain ⟨ha, hlong⟩ := List.nodup_cons.1 hnodup
    rw [List.filter_cons, List.lookup_cons, beq_self_eq_true]
    refine congrArg (a :: ·) ((List.filter_congr fun e he => ?_).trans (ih hlong))
    have hne : (e.1 == a.1) = false :=
      beq_false_of_ne fun heq => ha (heq ▸ List.mem_map_of_mem he)
    rw [List.lookup_cons, hne]

/-! ## What is kept -/

section
variable [BEq κ] {small large : Cache κ ν}

/-- What the smaller cache holds is a sublist of what the larger one holds, which is not larger by more
than its surplus of room. -/
structure Embeds (small large : Cache κ ν) : Prop where
  sublist : small.entries.Sublist large.entries
  sound : large.Sound
  room : small.capacity ≤ large.capacity
  gap : large.size + small.capacity ≤ small.size + large.capacity

/-- Among the others there are as many fewer as the key has entries. -/
theorem length_others (key : κ) (c : Cache κ ν) :
    (c.others key).length + c.entries.countP (·.1 == key) = c.size := by
  have hsplit := List.length_eq_countP_add_countP (fun e : κ × ν => e.1 == key) (l := c.entries)
  rw [others, size, hsplit, ← List.countP_eq_length_filter, Nat.add_comm]
  simp

/-- The others of the smaller cache are among those of the larger one, which are not more by more than
its surplus of room. -/
theorem Embeds.others (h : Embeds small large) (key : κ) :
    (small.others key).Sublist (large.others key) ∧
      (large.others key).length + small.capacity ≤ (small.others key).length + large.capacity := by
  have hsmall := length_others key small
  have hlarge := length_others key large
  have hcount := h.sublist.countP_le (p := fun e => e.1 == key)
  have hgap := h.gap
  exact ⟨h.sublist.filter _, by omega⟩

variable [LawfulBEq κ]

/-- A key that has a value in the smaller cache has it in the larger one. -/
theorem Embeds.peek? (h : Embeds small large) {key : κ} {v : ν} (hv : small.peek? key = some v) :
    large.peek? key = some v :=
  (h.sound.peek?_eq_some_iff key).2 (h.sublist.subset (mem_of_get key small (by rw [snd_get, hv])))

theorem Embeds.get (h : Embeds small large) (key : κ) : Embeds (small.get key).1 (large.get key).1 := by
  obtain ⟨hsub, hgap⟩ := h.others key
  refine ⟨?_, h.sound.get key, ?_, ?_⟩
  · rw [entries_get, entries_get]
    cases hs : small.peek? key with
    | some v =>
      rw [h.peek? hs]
      exact hsub.cons_cons (key, v)
    | none =>
      cases hl : large.peek? key with
      | none => exact h.sublist
      | some v =>
        -- A use of a key that the smaller one does not have leaves that one as it is.
        have hself : small.others key = small.entries := List.filter_eq_self.2 fun e he => by
          rw [Bool.not_eq_true', beq_eq_false_iff_ne]
          rintro rfl
          exact (peek?_eq_none_iff e.1 small).1 hs e.2 he
        exact (hself ▸ hsub).cons (key, v)
  · rw [capacity_get, capacity_get]
    exact h.room
  · have hbefore : large.entries.length + small.capacity ≤ small.entries.length + large.capacity := h.gap
    rw [capacity_get, capacity_get, size, size, entries_get, entries_get]
    cases hs : small.peek? key with
    | some v =>
      rw [h.peek? hs]
      simp only [List.length_cons]
      omega
    | none =>
      cases hl : large.peek? key with
      | none => exact hbefore
      | some v =>
        have hlt : (large.others key).length < large.entries.length :=
          length_others_lt key large ((h.sound.peek?_eq_some_iff key).1 hl)
        simp only [List.length_cons]
        omega

theorem Embeds.insert (h : Embeds small large) (key : κ) (v : ν) :
    Embeds (small.insert key v) (large.insert key v) := by
  obtain ⟨hsub, hgap⟩ := h.others key
  refine ⟨take_sublist_take (hsub.cons_cons (key, v)) ?_, h.sound.insert key v, h.room, ?_⟩
  · simp only [List.length_cons]
    omega
  · simp only [Cache.insert, size, List.length_take, List.length_cons]
    omega

omit [LawfulBEq κ] in
theorem Embeds.erase (h : Embeds small large) (key : κ) : Embeds (small.erase key) (large.erase key) :=
  ⟨(h.others key).1, h.sound.erase key, h.room, (h.others key).2⟩

omit [BEq κ] [LawfulBEq κ] in
theorem Embeds.clear (h : Embeds small large) : Embeds small.clear large.clear :=
  ⟨.slnil, sound_clear, h.room, Nat.add_le_add_left h.room 0⟩

/-- Each use preserves it. -/
theorem Embeds.apply (h : Embeds small large) (u : Use κ ν) : Embeds (u.apply small) (u.apply large) := by
  cases u with
  | contains key => exact h
  | change x =>
    cases x with
    | get key => exact h.get key
    | insert key v => exact h.insert key v
    | erase key => exact h.erase key
    | clear => exact h.clear

theorem Embeds.useAll (h : Embeds small large) (uses : List (Use κ ν)) :
    Embeds (useAll uses small) (useAll uses large) := by
  induction uses generalizing small large with
  | nil => exact h
  | cons u uses ih => exact ih (h.apply u)

end

/-! ## More room -/

/-- What is to be had from the smaller cache is to be had from the larger one, and the keys of both are in
the same order. -/
structure Contained [BEq κ] (small large : Cache κ ν) : Prop where
  hit : ∀ key v, (small.get key).2 = some v → (large.get key).2 = some v
  contains : ∀ key, small.contains key → large.contains key
  /-- What the larger one holds under keys of both is what the smaller one holds, in that order. -/
  order : (large.entries.filter fun e => small.contains e.1) = small.entries

theorem Embeds.contained [BEq κ] [LawfulBEq κ] {small large : Cache κ ν} (h : Embeds small large) :
    Contained small large where
  hit key v hv := by
    rw [snd_get] at hv ⊢
    exact h.peek? hv
  contains key hkey := by
    obtain ⟨v, hv⟩ := Option.isSome_iff_exists.1 hkey
    exact Option.isSome_iff_exists.2 ⟨v, h.peek? hv⟩
  order := filter_eq_of_sublist h.sublist h.sound.nodup

/-- Whatever is done with two new caches, the one with more room has all that the other one has. -/
theorem contained_of_le [DecidableEq κ] {capacity capacity' : Nat} (h : capacity ≤ capacity')
    (uses : List (Use κ ν)) :
    Contained (useAll uses (empty capacity)) (useAll uses (empty capacity')) := by
  have hroom : max 1 capacity ≤ max 1 capacity' := by omega
  have hempty : Embeds (empty capacity : Cache κ ν) (empty capacity') :=
    ⟨.slnil, sound_empty capacity', hroom, Nat.add_le_add_left hroom 0⟩
  exact (hempty.useAll uses).contained

/-- Uses that find a key in the larger of two caches alone. -/
def swaps : List (Use Nat Nat) :=
  [.change (.insert 1 10), .change (.insert 2 20), .change (.get 1), .contains 2, .change (.insert 3 30),
    .change (.erase 3), .change (.insert 4 40)]

/-- After these the cache with room for two has what the one with room for one has. -/
theorem contained_in_double :
    1 ≤ 2 ∧ (useAll swaps (empty 1)).entries = [(4, 40)] ∧
      (useAll swaps (empty 2)).entries = [(4, 40), (1, 10)] ∧
      Contained (useAll swaps (empty 1)) (useAll swaps (empty 2)) :=
  ⟨by decide, by decide, by decide, contained_of_le (by decide) swaps⟩

end TripClient.Cache
