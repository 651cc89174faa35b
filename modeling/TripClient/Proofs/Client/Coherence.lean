import TripClient.Proofs.Client.Caching

/-!
# Remembered details are the latest

Whatever changes a group or a plan drops it, even if it fails (`EvictingShelf.dropped_of_written`), and
a detail that is fetched takes the place of the one before (`EvictingShelf.read_effect`). So every
operation preserves that what is remembered is what was fetched last, and that nobody has written to it
since (`Latest.perform`). A read that fails leaves all that is remembered as it is
(`sameDetails_of_failed`). Together this is `details_coherent`.
-/

namespace TripClient

open Client

namespace Client

/-! ## What is remembered stays the same -/

/-- Both clients remember the same. -/
structure SameDetails (c c' : Client) : Prop where
  users : c'.users = c.users
  groups : c'.groups = c.groups
  plans : c'.plans = c.plans

theorem SameDetails.trans (c c' c'' : Client) (h : SameDetails c c') (k : SameDetails c' c'') :
    SameDetails c c'' :=
  ⟨k.users.trans h.users, k.groups.trans h.groups, k.plans.trans h.plans⟩

/-- Requests in the name of the session leave what is remembered as it is. -/
theorem sameDetails_requests : AllowsRequests SameDetails :=
  ⟨fun _ _ _ => ⟨rfl, rfl, rfl⟩, fun _ _ => ⟨rfl, rfl, rfl⟩⟩

end Client

/-- A detail is fetched with nothing forgotten and nothing new. -/
theorem Shelf.fetch_sameDetails {κ ν E : Type} [BEq κ] (sh : Shelf κ ν) (api : Api) (o : Outside E)
    (key : κ) (c : Client) (e : E) : SameDetails c ((sh.fetch api key).run.alone o.respond c e).state :=
  Keeps.alone sameDetails_requests SameDetails.trans
    ⟨Api.Calling.keeps sameDetails_requests (Api.item_calling sameDetails_requests _ _ _)⟩ o c e

/-! ## Operations that write -/

namespace Operation

/-- The group that the operation changes. -/
def writtenGroup : Operation → Option GroupId
  | updateGroup id _ | deleteGroup id | joinGroup id | leaveGroup id | uploadCover id _ => some id
  | _ => none

/-- The plan that the operation changes, itself or one of its activities. -/
def writtenPlan : Operation → Option PlanId
  | updatePlan id _ | deletePlan id | addActivity id _ | updateActivity id _ _
  | deleteActivity id _ => some id
  | _ => none

/-- The operation reads the details of a group or of a plan. -/
def readsDetail : Operation → Bool
  | group _ _ | plan _ _ => true
  | _ => false

end Operation

/-- A shelf whose details are dropped by whatever changes them. -/
structure EvictingShelf (κ ν : Type) [BEq κ] extends Shelf κ ν where
  /-- What an operation changes. -/
  written : Operation → Option κ
  set_cache : ∀ c, set (cache c) c = c
  cache_of_same : ∀ {c c'}, SameDetails c c' → cache c' = cache c
  /-- Whatever changes a detail drops it at last. -/
  perform_written : ∀ api {op key}, written op = some key →
    ∃ (α : Type) (w : Work α) (f : α → Json) (forget : Client → Client),
      op.perform api = f <$> w.andThen forget ∧ ∀ c, cache (forget c) = (cache c).erase key
  start_room : ∀ s, 0 < (cache (.start s)).capacity
  /-- The room is changed by nobody. -/
  allows_room : Allows fun c c' => (cache c').capacity = (cache c).capacity
  others_room : ∀ op, (∀ key force, op ≠ read key force) →
    op.Reads fun c c' => (cache c').capacity = (cache c).capacity

namespace EvictingShelf

/-- The groups that a client remembers, and what changes them. -/
def groups : EvictingShelf GroupId Group where
  toShelf := .groups
  written := Operation.writtenGroup
  set_cache _ := rfl
  cache_of_same h := h.groups
  perform_written api op key h := by
    unfold Operation.writtenGroup at h
    split at h <;> cases h <;> exact ⟨_, _, _, forgetGroup key, rfl, fun _ => rfl⟩
  start_room _ := by
    simp only [Shelf.groups, Client.start, Cache.empty]
    omega
  allows_room := ⟨fun _ _ _ => rfl, fun _ _ => rfl, fun _ _ => rfl, fun _ _ => rfl, fun _ _ => rfl,
    fun _ => rfl, fun _ => rfl, fun _ => rfl⟩
  others_room op hop := by
    cases op with
    | group id force => exact absurd rfl (hop id force)
    | user id force | plan id force => exact fun _ _ => rfl
    | _ => trivial

/-- The plans that a client remembers, and what changes them. -/
def plans : EvictingShelf PlanId Plan where
  toShelf := .plans
  written := Operation.writtenPlan
  set_cache _ := rfl
  cache_of_same h := h.plans
  perform_written api op key h := by
    unfold Operation.writtenPlan at h
    split at h <;> cases h <;> exact ⟨_, _, _, forgetPlan key, rfl, fun _ => rfl⟩
  start_room _ := by
    simp only [Shelf.plans, Client.start, Cache.empty]
    omega
  allows_room := ⟨fun _ _ _ => rfl, fun _ _ => rfl, fun _ _ => rfl, fun _ _ => rfl, fun _ _ => rfl,
    fun _ => rfl, fun _ => rfl, fun _ => rfl⟩
  others_room op hop := by
    cases op with
    | plan id force => exact absurd rfl (hop id force)
    | user id force | group id force => exact fun _ _ => rfl
    | _ => trivial

section
variable {κ ν E : Type} [BEq κ] (sh : EvictingShelf κ ν) (api : Api) (o : Outside E)

/-! ### What operations do to such a shelf -/

/-- What comes of an operation that reads a detail. -/
inductive ReadEffect (c : Client) (key : κ) (force : Bool) :
    Solo Client Http.Request (fun _ => Http.Answer) E (Outcome Json) → Prop
  /-- It is remembered. -/
  | known {solo v} : force = false → (sh.cache c).peek? key = some v → solo.said = [] →
      solo.result = .ok (sh.toJson v) → sh.cache solo.state = ((sh.cache c).get key).1 →
      ReadEffect c key force solo
  /-- It is not to be had, and all that is remembered stays. -/
  | failed {solo f} : (force ∨ (sh.cache c).peek? key = none) → solo.result = .error f →
      SameDetails c solo.state → ReadEffect c key force solo
  /-- It is fetched, and put in. -/
  | fetched {solo v} : (force ∨ (sh.cache c).peek? key = none) → solo.said ≠ [] →
      solo.result = .ok (sh.toJson v) → sh.cache solo.state = (sh.cache c).insert key v →
      ReadEffect c key force solo

/-- A detail is remembered, or it is fetched and put in, or it is not to be had. -/
theorem read_effect (d : Diary E) (key : κ) (force : Bool) :
    sh.ReadEffect d.client key force (d.ask api o (sh.read key force)) := by
  rw [sh.ask_read_eq]
  rcases (sh.cache d.client).missed_or_known key force with hmiss | ⟨rfl, v, hv⟩
  · have hsame := sh.fetch_sameDetails api o key d.client d.responder
    have hsaid := sh.fetch_said api o key d.client d.responder
    rw [Cache.getOrFetch_alone hmiss, Cache.lookedUp_of_missed sh.set_cache hmiss]
    generalize (sh.fetch api key).run.alone o.respond d.client d.responder = fetched at hsame hsaid ⊢
    obtain ⟨said, state, responder, result⟩ := fetched
    cases result with
    | error f => exact .failed hmiss rfl hsame
    | ok v =>
      refine .fetched (v := v) hmiss (hsaid v rfl) rfl ?_
      simp only [sh.cache_set, sh.cache_of_same hsame]
  · rw [Cache.getOrFetch_alone_of_known hv]
    exact .known rfl hv rfl rfl (sh.cache_set _ _)

/-- No operation changes how much room there is. -/
theorem ask_room (d : Diary E) (op : Operation) :
    (sh.cache (d.ask api o op).state).capacity = (sh.cache d.client).capacity := by
  by_cases hop : ∃ key force, op = sh.read key force
  · obtain ⟨key, force, rfl⟩ := hop
    cases sh.read_effect api o d key force with
    | known _ hv _ _ hcache => rw [hcache, Cache.get, hv]
    | failed _ _ hsame => rw [sh.cache_of_same hsame]
    | fetched _ _ _ hcache => rw [hcache, Cache.insert]
  · exact (Operation.perform_keeps sh.allows_room api
      (sh.others_room op fun key force heq => hop ⟨key, force, heq⟩)).alone sh.allows_room.requests
      (fun _ _ _ h k => k.trans h) o d.client d.responder

/-! ### What is read without a request -/

/-- What would be read without a request now. -/
structure Given (d : Diary E) (key : κ) (j : Json) : Prop where
  said_eq : (d.ask api o (sh.read key false)).said = []
  result_eq : (d.ask api o (sh.read key false)).result = .ok j

variable {sh api o}

/-- It is what is remembered. -/
theorem given_iff {d : Diary E} {key : κ} {j : Json} :
    sh.Given api o d key j ↔ ((sh.cache d.client).peek? key).map sh.toJson = some j := by
  constructor
  · rintro ⟨hsaid, hresult⟩
    cases sh.read_effect api o d key false with
    | known _ hv _ hgives _ =>
      rw [hv, ← Except.ok.inj (hgives.symm.trans hresult)]
      rfl
    | failed _ hfails _ => exact nomatch hfails.symm.trans hresult
    | fetched _ hasked _ _ => exact absurd hsaid hasked
  · intro h
    obtain ⟨v, hv, rfl⟩ := Option.map_eq_some_iff.1 h
    cases sh.read_effect api o d key false with
    | known _ hv' hsaid hgives _ =>
      rw [hv] at hv'
      cases hv'
      exact ⟨hsaid, hgives⟩
    | failed hmiss _ _ => exact nomatch hv.symm.trans (hmiss.resolve_left Bool.false_ne_true)
    | fetched hmiss _ _ _ => exact nomatch hv.symm.trans (hmiss.resolve_left Bool.false_ne_true)

/-- Where there is no detail, all that is remembered stays. -/
theorem same_of_failed {d : Diary E} {key : κ} {force : Bool} {f : Failure}
    (h : (d.ask api o (sh.read key force)).result = .error f) :
    SameDetails d.client (d.ask api o (sh.read key force)).state := by
  cases sh.read_effect api o d key force with
  | known _ _ _ hgives _ => exact nomatch h.symm.trans hgives
  | failed _ _ hsame => exact hsame
  | fetched _ _ hgives _ => exact nomatch h.symm.trans hgives

/-! ### What is remembered is the latest -/

variable (sh) in
/-- The operation neither changes nor fetches the detail, nor does it drop everything. -/
structure Leaves (y : Done) (key : κ) : Prop where
  not_written : sh.written y.op ≠ some key
  not_fetched : ∀ v, ¬ sh.Fetches y key v
  not_logout : y.op ≠ .logout
  not_clearCaches : y.op ≠ .clearCaches

variable (sh) in
/-- The detail is what was fetched last, and nobody has changed or dropped it since. -/
def Fresh (past : List Done) (key : κ) (v : ν) : Prop :=
  ∃ later x earlier, past = later ++ x :: earlier ∧ sh.Fetches x key v ∧ ∀ y ∈ later, sh.Leaves y key

variable (sh) in
/-- All that is remembered is the latest. -/
structure Latest (d : Diary E) : Prop where
  fresh : ∀ key v, (key, v) ∈ (sh.cache d.client).entries → sh.Fresh d.past key v
  room : 0 < (sh.cache d.client).capacity

theorem Fresh.cons {past : List Done} {key : κ} {v : ν} (h : sh.Fresh past key v) {y : Done}
    (hy : sh.Leaves y key) : sh.Fresh (y :: past) key v := by
  obtain ⟨later, x, earlier, rfl, hx, hlater⟩ := h
  exact ⟨y :: later, x, earlier, rfl, hx, List.forall_mem_cons.2 ⟨hy, hlater⟩⟩

/-- What an operation fetches is put in. -/
theorem cache_of_fetches {d : Diary E} {op : Operation} {key : κ} {v : ν}
    (h : sh.Fetches (d.done api o op) key v) :
    ∃ w, sh.Fetches (d.done api o op) key w ∧
      sh.cache (d.ask api o op).state = (sh.cache d.client).insert key w := by
  obtain ⟨⟨force, hop⟩, hsaid, hresult⟩ := h
  change op = _ at hop
  subst hop
  cases sh.read_effect api o d key force with
  | known _ _ hnothing _ _ => exact absurd hnothing hsaid
  | failed _ hfails _ => exact nomatch hfails.symm.trans hresult
  | fetched _ _ hgives hcache => exact ⟨_, ⟨⟨force, rfl⟩, hsaid, hgives⟩, hcache⟩

variable [LawfulBEq κ]

/-- Whatever changes a detail drops it, whether it fails or not. -/
theorem dropped_of_written {d : Diary E} {op : Operation} {key : κ} (h : sh.written op = some key) :
    (sh.cache (d.ask api o op).state).peek? key = none := by
  obtain ⟨α, w, f, forget, hperform, hforget⟩ := sh.perform_written api h
  have hrun : (w.andThen forget).run =
      w.run.bind fun outcome => .act forget fun _ => .done outcome := rfl
  rw [Diary.ask, hperform, run_map, hrun, Task.alone_bind, Task.alone_bind]
  simp only [Task.alone, hforget]
  exact Cache.peek?_erase key _

/-- Each operation preserves it: what it leaves there was there before, unless it has just been
fetched. -/
theorem Latest.perform {d : Diary E} (h : sh.Latest d) (op : Operation) :
    sh.Latest (d.perform api o op) where
  room := (sh.ask_room api o d op).symm ▸ h.room
  fresh key v hmem := by
    change (key, v) ∈ (sh.cache (d.ask api o op).state).entries at hmem
    by_cases hfetches : ∃ w, sh.Fetches (d.done api o op) key w
    · obtain ⟨w, hw⟩ := hfetches
      obtain ⟨w, hw, hcache⟩ := cache_of_fetches hw
      rw [hcache] at hmem
      cases Cache.eq_of_mem_insert key _ hmem
      exact ⟨[], d.done api o op, d.past, rfl, hw, fun _ hy => absurd hy List.not_mem_nil⟩
    · have hold : (key, v) ∈ (sh.cache d.client).entries :=
        (Shelf.mem_of_ask hmem).resolve_right fun hnew => hfetches ⟨v, hnew⟩
      refine (h.fresh key v hold).cons ⟨fun hwritten => ?_, fun w hw => hfetches ⟨w, hw⟩, ?_, ?_⟩
      · exact (Cache.peek?_eq_none_iff key _).1 (dropped_of_written hwritten) v hmem
      · exact fun hop => absurd hmem (sh.dropped api o d (.inl hop) ▸ List.not_mem_nil)
      · exact fun hop => absurd hmem (sh.dropped api o d (.inr hop) ▸ List.not_mem_nil)

/-- It holds after any operations. -/
theorem after_latest (s : Settings) (e : E) (ops : List Operation) :
    sh.Latest ((Diary.start s e).after api o ops) := by
  refine Diary.after_of_perform (fun _ op h => h.perform op) ops ⟨fun key v hmem => ?_, sh.start_room s⟩
  exact absurd hmem (sh.start s ▸ List.not_mem_nil)

end

end EvictingShelf

/-! ## Coherence -/

/-- A read that fails leaves all that is remembered as it is. -/
theorem sameDetails_of_failed {E : Type} {api : Api} {o : Outside E} {d : Diary E} {op : Operation}
    (hop : op.readsDetail) {f : Failure} (hfails : (d.ask api o op).result = .error f) :
    SameDetails d.client (d.ask api o op).state := by
  cases op with
  | group key force => exact EvictingShelf.groups.same_of_failed hfails
  | plan key force => exact EvictingShelf.plans.same_of_failed hfails
  | _ => cases hop

/-- What is read without a request is the latest, a detail that has just been fetched is read without a
request, and a read that fails leaves all that is remembered, and so what is read without a request,
as it is. -/
structure EvictingShelf.Coherent {κ ν E : Type} [BEq κ] (sh : EvictingShelf κ ν) (api : Api)
    (o : Outside E) (d : Diary E) : Prop where
  latest : ∀ key j, sh.Given api o d key j → ∃ v, j = sh.toJson v ∧ sh.Fresh d.past key v
  kept : ∀ op key v, sh.Fetches (d.done api o op) key v →
    sh.Given api o (d.perform api o op) key (sh.toJson v)
  failed : ∀ op f, op.readsDetail → (d.ask api o op).result = .error f →
    SameDetails d.client (d.perform api o op).client ∧
      ∀ key j, sh.Given api o (d.perform api o op) key j ↔ sh.Given api o d key j

theorem EvictingShelf.Latest.coherent {κ ν E : Type} [BEq κ] [LawfulBEq κ] {sh : EvictingShelf κ ν}
    {api : Api} {o : Outside E} {d : Diary E} (h : sh.Latest d) : sh.Coherent api o d where
  latest key j hgiven := by
    obtain ⟨v, hv, rfl⟩ := Option.map_eq_some_iff.1 (given_iff.1 hgiven)
    obtain ⟨before, after, heq, -⟩ := List.lookup_eq_some_iff.1 hv
    exact ⟨v, rfl, h.fresh key v (heq ▸ List.mem_append_right _ List.mem_cons_self)⟩
  kept op key v hfetches := by
    obtain ⟨w, hw, hcache⟩ := cache_of_fetches hfetches
    have hjson : sh.toJson w = sh.toJson v :=
      Except.ok.inj (hw.result_eq.symm.trans hfetches.result_eq)
    refine given_iff.2 ?_
    change ((sh.cache (d.ask api o op).state).peek? key).map sh.toJson = _
    rw [hcache, Cache.peek?_insert key _ h.room, Option.map_some, hjson]
  failed op f hop hfails := by
    have hsame := sameDetails_of_failed hop hfails
    refine ⟨hsame, fun key j => ?_⟩
    rw [given_iff, given_iff]
    change ((sh.cache (d.ask api o op).state).peek? key).map sh.toJson = _ ↔ _
    rw [sh.cache_of_same hsame]

/-- After any operations, whatever was answered and whatever others did, details of groups and plans
that are read without a request were fetched, and neither written to, nor fetched anew, nor dropped
since. -/
theorem details_coherent {E : Type} (api : Api) (o : Outside E) (s : Settings) (e : E)
    (ops : List Operation) :
    EvictingShelf.groups.Coherent api o ((Diary.start s e).after api o ops) ∧
      EvictingShelf.plans.Coherent api o ((Diary.start s e).after api o ops) :=
  ⟨(EvictingShelf.after_latest s e ops).coherent, (EvictingShelf.after_latest s e ops).coherent⟩

end TripClient
