import TripClient.Proofs.Cache.Capacity

/-!
# The history of a cache

Calls are made on a cache one after the other, and what has happened each time is written down (`Log`).
What a call does to the cache is one of few things (`Effect`), and each of them preserves what the entries
say of the past (`Tracks`): an entry holds what was stored last under its key, and before it stand none
but keys that were used later; where a key that was used and not dropped has no entry, as many other keys
were used later as there is room for (`Effect.ahead`). So a cache gives what was stored last, and forgets
no key but for want of room (`last_values`).
-/

namespace TripClient.Cache

variable {κ ν : Type}

/-! ## Calls -/

/-- What is asked of a cache. -/
inductive Call (κ ν : Type) where
  | use (u : Use κ ν)
  /-- Asks for the value of a key, which is fetched if need be; `fetched` is what a fetch gives. -/
  | getOrFetch (key : κ) (force : Bool) (fetched : Outcome ν)

/-- What has happened to a cache. -/
inductive Event (κ ν : Type) where
  | stored (key : κ) (v : ν)
  /-- The key had this value. -/
  | hit (key : κ) (v : ν)
  | dropped (key : κ)
  | cleared
  | nothing

namespace Event

/-- A value was stored or found under the key. -/
def Uses (key : κ) : Event κ ν → Prop
  | stored k _ | hit k _ => k = key
  | dropped _ | cleared | nothing => False

/-- A value was stored under the key. -/
def Stores (key : κ) : Event κ ν → Prop
  | stored k _ => k = key
  | hit _ _ | dropped _ | cleared | nothing => False

/-- The key was dropped, or all keys were. -/
def Drops (key : κ) : Event κ ν → Prop
  | dropped k => k = key
  | cleared => True
  | stored _ _ | hit _ _ | nothing => False

end Event

section
variable [BEq κ]

/-- What comes of asking for a value, when nobody else uses the cache meanwhile. -/
def fetching (key : κ) (force : Bool) (fetched : Outcome ν) (c : Cache κ ν) :
    Solo (Cache κ ν) Unit (fun _ => Outcome ν) Unit (Outcome ν) :=
  (lookUp key force).alone (answering [] fetched) c ()

namespace Call

/-- The cache after the call. -/
def apply : Call κ ν → Cache κ ν → Cache κ ν
  | use u, c => u.apply c
  | getOrFetch key force fetched, c => (fetching key force fetched c).state

/-- What has happened, as far as who made the call can see. -/
def event : Call κ ν → Cache κ ν → Event κ ν
  | use (.change (.get key)), c =>
    match (c.get key).2 with
    | some v => .hit key v
    | none => .nothing
  | use (.change (.insert key v)), _ => .stored key v
  | use (.change (.erase key)), _ => .dropped key
  | use (.change .clear), _ => .cleared
  | use (.contains _), _ => .nothing
  | getOrFetch key force fetched, c =>
    match fetching key force fetched c with
    | ⟨[], _, _, .ok v⟩ => .hit key v
    | ⟨_ :: _, _, _, .ok v⟩ => .stored key v
    | ⟨_, _, _, .error _⟩ => .nothing

end Call

/-- A cache, and what has happened to it, the latest first. -/
structure Log (κ ν : Type) where
  cache : Cache κ ν
  past : List (Event κ ν)

namespace Log

/-- A new cache. -/
def start (capacity : Nat) : Log κ ν := ⟨empty capacity, []⟩

/-- The log after one more call. -/
def call (l : Log κ ν) (x : Call κ ν) : Log κ ν := ⟨x.apply l.cache, x.event l.cache :: l.past⟩

/-- The log after some more calls. -/
def after (l : Log κ ν) (calls : List (Call κ ν)) : Log κ ν := calls.foldl call l

end Log

/-! ## What a call does -/

/-- What the event has done to a cache. -/
inductive Effect (c : Cache κ ν) : Event κ ν → Cache κ ν → Prop
  | stored (key : κ) (v : ν) : Effect c (.stored key v) (c.insert key v)
  | hit {key : κ} {v : ν} : c.peek? key = some v → Effect c (.hit key v) (c.get key).1
  | dropped (key : κ) : Effect c (.dropped key) (c.erase key)
  | cleared : Effect c .cleared c.clear
  | nothing : Effect c .nothing c

section
variable (key : κ) (force : Bool) (fetched : Outcome ν) (c : Cache κ ν)

/-- A value that is not there is fetched once, and stored if there is one. -/
theorem fetching_of_missed (hmiss : force ∨ c.peek? key = none) :
    fetching key force fetched c = ⟨[⟨(), ⟨0, applyAll [], fetched⟩⟩],
      match fetched with
      | .ok v => c.insert key v
      | .error _ => c, (), fetched⟩ := by
  have hsame : lookedUp id (fun (c : Cache κ ν) _ => c) key force c = c :=
    lookedUp_of_missed (fun _ => rfl) hmiss
  have hlooked : force ∨ (id c).peek? key = none := hmiss
  rw [fetching, lookUp, getOrFetch_alone hlooked, hsame]
  cases fetched <;> rfl

/-- A value that is there is given. -/
theorem fetching_of_known {v : ν} (hv : c.peek? key = some v) :
    fetching key false fetched c = ⟨[], (c.get key).1, (), .ok v⟩ := by
  have hlooked : (id c).peek? key = some v := hv
  exact getOrFetch_alone_of_known hlooked (answering [] fetched) _ ()

end

/-- What happens in a call is what is done to the cache. -/
theorem Call.effect (x : Call κ ν) (c : Cache κ ν) : Effect c (x.event c) (x.apply c) := by
  cases x with
  | use u =>
    cases u with
    | contains key => exact .nothing
    | change x =>
      cases x with
      | insert key v => exact .stored key v
      | erase key => exact .dropped key
      | clear => exact .cleared
      | get key =>
        cases hv : c.peek? key with
        | some v =>
          simp only [event, snd_get, hv]
          exact .hit hv
        | none =>
          have hself : (c.get key).1 = c := by simp [Cache.get, hv]
          simp only [event, snd_get, hv, apply, Use.apply, Change.apply, hself]
          exact .nothing
  | getOrFetch key force fetched =>
    rcases c.missed_or_known key force with hmiss | ⟨rfl, v, hv⟩
    · rw [event, apply, fetching_of_missed key force fetched c hmiss]
      cases fetched with
      | ok v => exact .stored key v
      | error f => exact .nothing
    · rw [event, apply, fetching_of_known key fetched c hv]
      exact .hit hv

end

/-! ## The past -/

section
variable (past : List (Event κ ν)) (key : κ)

/-- The value was stored under the key, and since then nothing was stored under it, nor was it dropped. -/
def LastStored (v : ν) : Prop :=
  ∃ later earlier, past = later ++ .stored key v :: earlier ∧ ∀ y ∈ later, ¬ y.Stores key ∧ ¬ y.Drops key

/-- All that has happened since the key was used last is `later`, and the key was not dropped in it. -/
def LastUsed (later : List (Event κ ν)) : Prop :=
  ∃ used earlier, past = later ++ used :: earlier ∧ used.Uses key ∧
    ∀ y ∈ later, ¬ y.Uses key ∧ ¬ y.Drops key

/-- At least `n` other keys were used. -/
def Crowded (n : Nat) : Prop :=
  ∃ others : List κ, others.Nodup ∧ n ≤ others.length ∧ ∀ k ∈ others, k ≠ key ∧ ∃ y ∈ past, y.Uses k

/-- The key has an entry, and before it stand none but keys that were used. -/
def Ahead (entries : List (κ × ν)) : Prop :=
  ∃ front v back, entries = front ++ (key, v) :: back ∧ ∀ e ∈ front, ∃ y ∈ past, y.Uses e.1

end

section
variable {past later : List (Event κ ν)} {key : κ} {y : Event κ ν}

theorem LastStored.cons {v : ν} (h : LastStored past key v) (hstores : ¬ y.Stores key)
    (hdrops : ¬ y.Drops key) : LastStored (y :: past) key v := by
  obtain ⟨later, earlier, rfl, hlater⟩ := h
  exact ⟨y :: later, earlier, rfl, List.forall_mem_cons.2 ⟨⟨hstores, hdrops⟩, hlater⟩⟩

/-- A key was used last just now, or it was used last before. -/
theorem LastUsed.of_cons (h : LastUsed (y :: past) key later) :
    (y.Uses key ∧ later = []) ∨
      ∃ since, later = y :: since ∧ ¬ y.Uses key ∧ ¬ y.Drops key ∧ LastUsed past key since := by
  obtain ⟨used, earlier, heq, hused, hlater⟩ := h
  cases later with
  | nil =>
    cases heq
    exact .inl ⟨hused, rfl⟩
  | cons x since =>
    cases heq
    obtain ⟨⟨huses, hdrops⟩, hsince⟩ := List.forall_mem_cons.1 hlater
    exact .inr ⟨since, rfl, huses, hdrops, used, earlier, rfl, hused, hsince⟩

/-- A key that was stored and not dropped since was used last at some time since. -/
theorem exists_lastUsed {v : ν} {earlier : List (Event κ ν)}
    (hdrops : ∀ y ∈ later, ¬ y.Drops key) : ∃ since, LastUsed (later ++ .stored key v :: earlier) key since := by
  induction later with
  | nil => exact ⟨[], .stored key v, earlier, rfl, rfl, fun _ h => absurd h List.not_mem_nil⟩
  | cons y later ih =>
    obtain ⟨hy, hlater⟩ := List.forall_mem_cons.1 hdrops
    by_cases huses : y.Uses key
    · exact ⟨[], y, _, rfl, huses, fun _ h => absurd h List.not_mem_nil⟩
    · obtain ⟨since, used, before, heq, hused, hsince⟩ := ih hlater
      exact ⟨y :: since, used, before, by rw [List.cons_append, heq, List.cons_append], hused,
        List.forall_mem_cons.2 ⟨⟨huses, hy⟩, hsince⟩⟩

theorem Crowded.cons {n : Nat} (h : Crowded later key n) (y : Event κ ν) : Crowded (y :: later) key n := by
  obtain ⟨others, hnodup, hlength, hothers⟩ := h
  refine ⟨others, hnodup, hlength, fun k hk => ?_⟩
  obtain ⟨hne, x, hx, huses⟩ := hothers k hk
  exact ⟨hne, x, List.mem_cons_of_mem y hx, huses⟩

theorem Ahead.cons {entries : List (κ × ν)} (h : Ahead later key entries) (y : Event κ ν) :
    Ahead (y :: later) key entries := by
  obtain ⟨front, v, back, heq, hfront⟩ := h
  refine ⟨front, v, back, heq, fun e he => ?_⟩
  obtain ⟨x, hx, huses⟩ := hfront e he
  exact ⟨x, List.mem_cons_of_mem y hx, huses⟩

/-- A key stays where it is when another one is used. -/
theorem Ahead.use {entries : List (κ × ν)} (h : Ahead later key entries) {k : κ} (huses : y.Uses k) (w : ν) :
    Ahead (y :: later) key ((k, w) :: entries) := by
  obtain ⟨front, v, back, rfl, hfront⟩ := h.cons y
  exact ⟨(k, w) :: front, v, back, rfl, List.forall_mem_cons.2 ⟨⟨y, List.mem_cons_self, huses⟩, hfront⟩⟩

/-- A key stays where it is when entries of others go. -/
theorem Ahead.filter {entries : List (κ × ν)} (h : Ahead later key entries) {p : κ × ν → Bool}
    (hp : ∀ v, p (key, v)) : Ahead later key (entries.filter p) := by
  obtain ⟨front, v, back, rfl, hfront⟩ := h
  refine ⟨front.filter p, v, back.filter p, ?_, fun e he => hfront e (List.mem_filter.1 he).1⟩
  rw [List.filter_append, List.filter_cons_of_pos (hp v)]

/-- When all but the first few entries go, a key is among these, or there were enough others. -/
theorem Ahead.take {entries : List (κ × ν)} (h : Ahead later key entries)
    (hnodup : (entries.map Prod.fst).Nodup) (n : Nat) :
    Ahead later key (entries.take n) ∨ Crowded later key n := by
  obtain ⟨front, v, back, rfl, hfront⟩ := h
  by_cases hn : front.length < n
  · obtain ⟨m, rfl⟩ := Nat.exists_eq_add_of_lt hn
    refine .inl ⟨front, v, back.take m, ?_, hfront⟩
    rw [List.take_append, List.take_of_length_le (by omega), Nat.add_assoc, Nat.add_sub_cancel_left,
      List.take_succ_cons]
  · rw [List.map_append, List.map_cons, List.nodup_append] at hnodup
    obtain ⟨hkeys, -, hdisjoint⟩ := hnodup
    refine .inr ⟨front.map Prod.fst, hkeys, ?_, fun k hk => ⟨hdisjoint k hk key List.mem_cons_self, ?_⟩⟩
    · rw [List.length_map]
      exact Nat.not_lt.1 hn
    · obtain ⟨e, he, rfl⟩ := List.mem_map.1 hk
      exact hfront e he

end

/-! ## What each effect preserves -/

section
variable [BEq κ] [LawfulBEq κ] {c c' : Cache κ ν} {y : Event κ ν}

theorem Effect.sound (h : Effect c y c') (hc : c.Sound) : c'.Sound := by
  cases h with
  | stored key v => exact hc.insert key v
  | @hit key v _ => exact hc.get key
  | dropped key => exact hc.erase key
  | cleared => exact sound_clear
  | nothing => exact hc

omit [LawfulBEq κ] in
theorem Effect.capacity_eq (h : Effect c y c') : c'.capacity = c.capacity := by
  cases h with
  | stored key v => rfl
  | @hit key v _ => exact capacity_get key c
  | dropped key => rfl
  | cleared => rfl
  | nothing => rfl

/-- What a cache holds was just stored, or it was held before and is still the same. -/
theorem Effect.mem (h : Effect c y c') {key : κ} {v : ν} (hmem : (key, v) ∈ c'.entries) :
    y = .stored key v ∨ ((key, v) ∈ c.entries ∧ ¬ y.Stores key ∧ ¬ y.Drops key) := by
  cases h with
  | stored k w =>
    rcases List.mem_cons.1 (List.mem_of_mem_take hmem) with heq | hmem
    · cases heq
      exact .inl rfl
    · exact .inr ⟨others_subset k c hmem, (fst_ne_of_mem_others k c hmem).symm, id⟩
  | @hit k w _ => exact .inr ⟨entries_get_subset k c hmem, id, id⟩
  | dropped k => exact .inr ⟨others_subset k c hmem, id, (fst_ne_of_mem_others k c hmem).symm⟩
  | cleared => cases hmem
  | nothing => exact .inr ⟨hmem, id, id⟩

omit [LawfulBEq κ] in
/-- A key that is used has the first entry, if there is room for it. -/
theorem Effect.front (h : Effect c y c') (hroom : 0 < c.capacity) {key : κ} (huses : y.Uses key) :
    Ahead [] key c'.entries := by
  cases h with
  | stored k v =>
    cases huses
    obtain ⟨n, hn⟩ := Nat.exists_eq_succ_of_ne_zero (Nat.ne_of_gt hroom)
    refine ⟨[], v, (c.others key).take n, ?_, fun _ h => absurd h List.not_mem_nil⟩
    simp [Cache.insert, hn]
  | @hit k v hv =>
    cases huses
    refine ⟨[], v, c.others key, ?_, fun _ h => absurd h List.not_mem_nil⟩
    rw [entries_get, hv]
    rfl
  | dropped k => exact huses.elim
  | cleared => exact huses.elim
  | nothing => exact huses.elim

/-- A key that is neither used nor dropped stays behind keys that were used, unless these are as many as
there is room for. -/
theorem Effect.ahead (h : Effect c y c') (hc : c.Sound) {key : κ} (huses : ¬ y.Uses key)
    (hdrops : ¬ y.Drops key) {later : List (Event κ ν)} (hahead : Ahead later key c.entries) :
    Ahead (y :: later) key c'.entries ∨ Crowded (y :: later) key c.capacity := by
  have hothers {k : κ} (hne : k ≠ key) : Ahead later key (c.others k) :=
    hahead.filter fun _ => by simpa using hne.symm
  cases h with
  | stored k v =>
    exact ((hothers huses).use (y := .stored k v) rfl v).take (nodup_cons_others k c hc.nodup v) c.capacity
  | @hit k v hv =>
    rw [entries_get, hv]
    exact .inl ((hothers huses).use (y := .hit k v) rfl v)
  | dropped k => exact .inl ((hothers hdrops).cons _)
  | cleared => exact absurd trivial hdrops
  | nothing => exact .inl (hahead.cons _)

end

/-! ## What a log says -/

section
variable [BEq κ]

/-- The entries of a cache with room for `n` fit what has happened to it. -/
structure Tracks (n : Nat) (l : Log κ ν) : Prop where
  sound : l.cache.Sound
  capacity_eq : l.cache.capacity = n
  room : 0 < n
  stored : ∀ key v, (key, v) ∈ l.cache.entries → LastStored l.past key v
  used : ∀ key later, LastUsed l.past key later → Ahead later key l.cache.entries ∨ Crowded later key n

omit [BEq κ] in
theorem tracks_start (capacity : Nat) : Tracks (max 1 capacity) (.start capacity : Log κ ν) where
  sound := sound_empty capacity
  capacity_eq := rfl
  room := by omega
  stored _ _ h := absurd h List.not_mem_nil
  used key later h := by
    obtain ⟨used, earlier, heq, -, -⟩ := h
    exact absurd heq.symm (by simp [Log.start])

variable [LawfulBEq κ] {n : Nat} {l : Log κ ν}

/-- Each call preserves it. -/
theorem Tracks.call (h : Tracks n l) (x : Call κ ν) : Tracks n (l.call x) := by
  have heffect := x.effect l.cache
  refine ⟨heffect.sound h.sound, heffect.capacity_eq.trans h.capacity_eq, h.room, fun key v hmem => ?_,
    fun key later hlast => ?_⟩
  · rcases heffect.mem hmem with hstored | ⟨hbefore, hstores, hdrops⟩
    · exact ⟨[], l.past, by rw [Log.call, hstored]; rfl, fun _ h => absurd h List.not_mem_nil⟩
    · exact (h.stored key v hbefore).cons hstores hdrops
  · rcases hlast.of_cons with ⟨huses, rfl⟩ | ⟨since, rfl, huses, hdrops, hlast⟩
    · exact .inl (heffect.front (h.capacity_eq.symm ▸ h.room) huses)
    · rcases h.used key since hlast with hahead | hcrowded
      · exact h.capacity_eq ▸ heffect.ahead h.sound huses hdrops hahead
      · exact .inr (hcrowded.cons _)

theorem Tracks.after (h : Tracks n l) (calls : List (Call κ ν)) : Tracks n (l.after calls) := by
  induction calls generalizing l with
  | nil => exact h
  | cons x calls ih => exact ih (h.call x)

/-- A cache is a map with room for `n` keys, which has the value stored last under each. -/
structure LastValues (n : Nat) (l : Log κ ν) : Prop where
  size_le : l.cache.size ≤ n
  /-- No key has two entries. -/
  nodup : (l.cache.entries.map Prod.fst).Nodup
  /-- Whatever is found next was stored last under its key, which was not dropped since. -/
  hit : ∀ (x : Call κ ν) key v, x.event l.cache = .hit key v → LastStored l.past key v
  /-- A key that was stored and not dropped since is missing only if at least `n` other keys were used
  after its own last use. -/
  missing : ∀ key v later earlier, l.past = later ++ .stored key v :: earlier →
    (∀ y ∈ later, ¬ y.Drops key) → l.cache.contains key = false →
      ∃ since, LastUsed l.past key since ∧ Crowded since key n
  /-- A value is fetched, once, if that is asked for or if the key is missing. -/
  fetches : ∀ key force fetched, (fetching key force fetched l.cache).said.length =
    if force || !l.cache.contains key then 1 else 0
  /-- When that fails, the entries and their order are as before. -/
  failed : ∀ key force f, (fetching key force (.error f) l.cache).said ≠ [] →
    (fetching key force (.error f) l.cache).state = l.cache

omit [LawfulBEq κ] in
theorem contains_eq_false_iff {key : κ} {c : Cache κ ν} : c.contains key = false ↔ c.peek? key = none := by
  rw [contains, Option.isSome_eq_false_iff, Option.isNone_iff_eq_none]

theorem Tracks.lastValues (h : Tracks n l) : LastValues n l where
  size_le := h.capacity_eq ▸ h.sound.size_le
  nodup := h.sound.nodup
  hit x key v hevent := by
    have heffect := x.effect l.cache
    rw [hevent] at heffect
    generalize x.apply l.cache = c' at heffect
    cases heffect with
    | hit hv => exact h.stored key v ((h.sound.peek?_eq_some_iff key).1 hv)
  missing key v later earlier hpast hdrops hmissing := by
    have hused : ∃ since, LastUsed (later ++ .stored key v :: earlier) key since := exists_lastUsed hdrops
    rw [← hpast] at hused
    obtain ⟨since, hlast⟩ := hused
    refine ⟨since, hlast, (h.used key since hlast).resolve_left ?_⟩
    rintro ⟨front, w, back, heq, -⟩
    refine (peek?_eq_none_iff key l.cache).1 (contains_eq_false_iff.1 hmissing) w ?_
    rw [heq]
    exact List.mem_append_right _ List.mem_cons_self
  fetches key force fetched := by
    rcases l.cache.missed_or_known key force with hmiss | ⟨rfl, v, hv⟩
    · rw [fetching_of_missed key force fetched l.cache hmiss]
      rcases hmiss with rfl | hnone
      · rfl
      · rw [contains_eq_false_iff.2 hnone, Bool.not_false, Bool.or_true]
        rfl
    · rw [fetching_of_known key fetched l.cache hv, contains, hv]
      rfl
  failed key force f hsaid := by
    rcases l.cache.missed_or_known key force with hmiss | ⟨rfl, v, hv⟩
    · rw [fetching_of_missed key force _ l.cache hmiss]
    · rw [fetching_of_known key _ l.cache hv] at hsaid
      exact absurd rfl hsaid

end

/-- After any calls on a new cache it has the values that were stored last, and is bounded by its
capacity. -/
theorem last_values [DecidableEq κ] (capacity : Nat) (calls : List (Call κ ν)) :
    LastValues (max 1 capacity) ((Log.start capacity).after calls) :=
  ((tracks_start capacity).after calls).lastValues

end TripClient.Cache
