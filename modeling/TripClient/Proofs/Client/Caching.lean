import TripClient.Proofs.Client.Changes
import TripClient.Proofs.Client.Wire

/-!
# Where remembered details come from

Operations are carried out one after the other, and what each of them did is written down (`Diary`).
What a client remembers of a user, a group or a plan was fetched by an operation in the diary, and has
been remembered since (`Shelf.Remembers`): an operation keeps no detail but one that it fetches
(`Shelf.getOrFetch_looked`, `Shelf.perform_shrinks`), so each operation preserves this
(`Remembers.perform`). Signing out makes a client forget, so it holds of what was done since as well
(`logout_remembers`).

Hence a detail that is read without a request was fetched after everything was dropped for the last
time, and in the epoch of now if it was not remembered at some time of it (`read_from_cache`). A client
does not forget when a session begins or expires, so without that the detail may be one that was fetched
for somebody else (`read_across_sessions`).
-/

namespace TripClient

open Client

/-! ## Diaries -/

/-- What an operation did. -/
structure Done where
  op : Operation
  before : Client
  said : List Sent
  result : Outcome Json
  after : Client

/-- A client, who answers its requests, and what it has done, the latest first. -/
structure Diary (E : Type) where
  client : Client
  responder : E
  past : List Done

namespace Diary

variable {E : Type} {api : Api} {o : Outside E}

/-- Nothing has been done yet. -/
def start (s : Settings) (e : E) : Diary E := ⟨.start s, e, []⟩

/-- What comes of an operation now. -/
def ask (api : Api) (o : Outside E) (d : Diary E) (op : Operation) :
    Solo Client Http.Request (fun _ => Http.Answer) E (Outcome Json) :=
  (op.perform api).run.alone o.respond d.client d.responder

/-- What an operation does now. -/
def done (api : Api) (o : Outside E) (d : Diary E) (op : Operation) : Done where
  op := op
  before := d.client
  said := (d.ask api o op).said
  result := (d.ask api o op).result
  after := (d.ask api o op).state

/-- The diary after one more operation. -/
def perform (api : Api) (o : Outside E) (d : Diary E) (op : Operation) : Diary E where
  client := (d.ask api o op).state
  responder := (d.ask api o op).responder
  past := d.done api o op :: d.past

/-- The diary after some more operations, one after the other. -/
def after (api : Api) (o : Outside E) (d : Diary E) (ops : List Operation) : Diary E :=
  ops.foldl (perform api o) d

/-- What each operation preserves holds after any number of them. -/
theorem after_of_perform {P : Diary E → Prop} (step : ∀ d op, P d → P (d.perform api o op))
    (ops : List Operation) {d : Diary E} (h : P d) : P (d.after api o ops) := by
  induction ops generalizing d with
  | nil => exact h
  | cons op ops ih => exact ih (step d op h)

/-! ### Epochs go on -/

theorem leads_allows : Allows fun c c' => Session.Leads c.session c'.session where
  session _ _ h := h
  made c _ := .refl c.session
  forgetUser c _ := .refl c.session
  forgetGroup c _ := .refl c.session
  forgetPlan c _ := .refl c.session
  clearUsers c := .refl c.session
  clearGroups c := .refl c.session
  clearPlans c := .refl c.session

/-- No operation goes back to an epoch before. -/
theorem epoch_le_ask (d : Diary E) (op : Operation) :
    d.client.session.epoch ≤ (d.ask api o op).state.session.epoch := by
  have hreads : op.Reads fun c c' => Session.Leads c.session c'.session := by
    cases op <;> first | exact trivial | exact fun c _ => .refl c.session
  exact ((Operation.perform_keeps leads_allows api hreads).alone leads_allows.requests
    (fun _ _ _ => Session.Leads.trans) o d.client d.responder).epoch_le

/-- The epochs in the diary are in order. -/
structure Ordered (d : Diary E) : Prop where
  during : ∀ x ∈ d.past, x.before.session.epoch ≤ x.after.session.epoch
  between : d.past.Pairwise fun y x => x.after.session.epoch ≤ y.before.session.epoch
  now : ∀ x ∈ d.past, x.after.session.epoch ≤ d.client.session.epoch

theorem Ordered.perform {d : Diary E} (h : d.Ordered) (op : Operation) :
    (d.perform api o op).Ordered where
  during := List.forall_mem_cons.2 ⟨d.epoch_le_ask op, h.during⟩
  between := List.pairwise_cons.2 ⟨h.now, h.between⟩
  now := List.forall_mem_cons.2
    ⟨Nat.le_refl _, fun x hx => Nat.le_trans (h.now x hx) (d.epoch_le_ask op)⟩

theorem start_ordered (s : Settings) (e : E) : (start s e).Ordered := 
  ⟨fun _ h => absurd h List.not_mem_nil, .nil, fun _ h => absurd h List.not_mem_nil⟩

/-- What was done from one time of an epoch on was done in that epoch, if the epoch is the one of now. -/
theorem Ordered.same_epoch {d : Diary E} (h : d.Ordered) {later earlier : List Done} {x y : Done}
    (hpast : d.past = later ++ x :: earlier) (hy : y = x ∨ y ∈ earlier)
    (hnow : y.before.session.epoch = d.client.session.epoch) :
    x.before.session.epoch = d.client.session.epoch ∧
      x.after.session.epoch = d.client.session.epoch := by
  have hx : x ∈ d.past := hpast ▸ List.mem_append_right later List.mem_cons_self
  have hbetween := hpast ▸ h.between
  have hyx : y.before.session.epoch ≤ x.before.session.epoch := by
    rcases hy with rfl | hy
    · exact Nat.le_refl _
    · have hmem : y ∈ d.past :=
        hpast ▸ List.mem_append_right later (List.mem_cons_of_mem x hy)
      exact Nat.le_trans (h.during y hmem)
        ((List.pairwise_cons.1 (List.pairwise_append.1 hbetween).2.1).1 y hy)
  have hduring := h.during x hx
  have hafter := h.now x hx
  omega

end Diary

/-! ## Shelves -/

/-- The client when it has forgotten everything. -/
def Client.forgetAll (c : Client) : Client :=
  ((c.withUsers c.users.clear).withGroups c.groups.clear).withPlans c.plans.clear

/-- One of the caches of a client, with the operation that reads from it. -/
structure Shelf (κ ν : Type) [BEq κ] where
  cache : Client → Cache κ ν
  set : Cache κ ν → Client → Client
  decoder : Json.Decoder ν
  segments : κ → List String
  name : String
  toJson : ν → Json
  read : κ → Bool → Operation
  cache_set : ∀ entries c, cache (set entries c) = entries
  perform_read : ∀ api key force, (read key force).perform api =
    toJson <$> Work.ofStep
      (Cache.getOrFetch cache set key force (api.item decoder (segments key) name).run)
  /-- Nothing new is kept there by the way. -/
  allows : Allows fun c c' => (cache c').entries ⊆ (cache c).entries
  /-- Nobody else reads from it. -/
  others : ∀ op, (∀ key force, op ≠ read key force) →
    op.Reads fun c c' => (cache c').entries ⊆ (cache c).entries
  start : ∀ s, (cache (.start s)).entries = []
  /-- It is cleared with the others. -/
  cleared : ∀ c, (cache (forgetAll c)).entries = []

namespace Shelf

/-- The users that a client remembers. -/
def users : Shelf UserId Profile where
  cache := Client.users
  set := withUsers
  decoder := Profile.decoder
  segments id := ["users", id.text]
  name := "user"
  toJson := Profile.toJson
  read := .user
  cache_set _ _ := rfl
  perform_read _ _ _ := rfl
  allows := {
    session := fun _ _ _ => .refl _
    made := fun _ _ => .refl _
    forgetUser := fun c id => c.users.entries_erase_subset id
    forgetGroup := fun _ _ => .refl _
    forgetPlan := fun _ _ => .refl _
    clearUsers := fun c => c.users.entries_clear_subset
    clearGroups := fun _ => .refl _
    clearPlans := fun _ => .refl _ }
  others op hop := by
    cases op with
    | user id force => exact absurd rfl (hop id force)
    | group id force | plan id force => exact fun _ _ => .refl _
    | _ => trivial
  start _ := rfl
  cleared _ := rfl

/-- The groups that a client remembers. -/
def groups : Shelf GroupId Group where
  cache := Client.groups
  set := withGroups
  decoder := Group.decoder
  segments id := ["groups", id.text]
  name := "group"
  toJson := Group.toJson
  read := .group
  cache_set _ _ := rfl
  perform_read _ _ _ := rfl
  allows := {
    session := fun _ _ _ => .refl _
    made := fun _ _ => .refl _
    forgetUser := fun _ _ => .refl _
    forgetGroup := fun c id => c.groups.entries_erase_subset id
    forgetPlan := fun _ _ => .refl _
    clearUsers := fun _ => .refl _
    clearGroups := fun c => c.groups.entries_clear_subset
    clearPlans := fun _ => .refl _ }
  others op hop := by
    cases op with
    | group id force => exact absurd rfl (hop id force)
    | user id force | plan id force => exact fun _ _ => .refl _
    | _ => trivial
  start _ := rfl
  cleared _ := rfl

/-- The plans that a client remembers. -/
def plans : Shelf PlanId Plan where
  cache := Client.plans
  set := withPlans
  decoder := Plan.decoder
  segments id := ["plans", id.text]
  name := "plan"
  toJson := Plan.toJson
  read := .plan
  cache_set _ _ := rfl
  perform_read _ _ _ := rfl
  allows := {
    session := fun _ _ _ => .refl _
    made := fun _ _ => .refl _
    forgetUser := fun _ _ => .refl _
    forgetGroup := fun _ _ => .refl _
    forgetPlan := fun c id => c.plans.entries_erase_subset id
    clearUsers := fun _ => .refl _
    clearGroups := fun _ => .refl _
    clearPlans := fun c => c.plans.entries_clear_subset }
  others op hop := by
    cases op with
    | plan id force => exact absurd rfl (hop id force)
    | user id force | group id force => exact fun _ _ => .refl _
    | _ => trivial
  start _ := rfl
  cleared _ := rfl

variable {κ ν E : Type} [BEq κ] (sh : Shelf κ ν) (api : Api) (o : Outside E)

/-- Fetches a detail from the server. -/
def fetch (key : κ) : Work ν := api.item sh.decoder (sh.segments key) sh.name

/-! ### What one operation does to a shelf -/

/-- An operation that reads elsewhere, or not at all, keeps nothing new. -/
theorem perform_shrinks (d : Diary E) {op : Operation} (hop : ∀ key force, op ≠ sh.read key force) :
    (sh.cache (d.ask api o op).state).entries ⊆ (sh.cache d.client).entries :=
  (Operation.perform_keeps sh.allows api (sh.others op hop)).alone sh.allows.requests
    (fun _ _ _ h k => List.Subset.trans k h) o d.client d.responder

theorem fetch_keeps (key : κ) :
    Keeps (fun c c' => (sh.cache c').entries ⊆ (sh.cache c).entries) (sh.fetch api key) :=
  ⟨Api.Calling.keeps sh.allows.requests (Api.item_calling sh.allows.requests _ _ _)⟩

/-- Nothing is fetched without a request. -/
theorem fetch_said (key : κ) (c : Client) (e : E) (v : ν)
    (h : ((sh.fetch api key).run.alone o.respond c e).result = .ok v) :
    ((sh.fetch api key).run.alone o.respond c e).said ≠ [] :=
  Api.item_said h

/-- What comes of reading a detail. -/
inductive Looked (c : Client) (key : κ) :
    Solo Client Http.Request (fun _ => Http.Answer) E (Outcome ν) → Prop
  /-- It is remembered. -/
  | known {solo} {v : ν} : (key, v) ∈ (sh.cache c).entries → solo.said = [] → solo.result = .ok v →
      (sh.cache solo.state).entries ⊆ (sh.cache c).entries → Looked c key solo
  /-- It is not to be had. -/
  | failed {solo} {f : Failure} : solo.result = .error f →
      (sh.cache solo.state).entries ⊆ (sh.cache c).entries → Looked c key solo
  /-- It is fetched, and nothing else is new. -/
  | fetched {solo} {v : ν} : solo.said ≠ [] → solo.result = .ok v →
      (sh.cache solo.state).entries ⊆ (key, v) :: (sh.cache c).entries → Looked c key solo

/-- To look a detail up brings no new one in. -/
theorem lookedUp_shrinks [LawfulBEq κ] (key : κ) (force : Bool) (c : Client) :
    (sh.cache (Cache.lookedUp sh.cache sh.set key force c)).entries ⊆ (sh.cache c).entries := by
  unfold Cache.lookedUp
  split
  · exact List.Subset.refl _
  · rw [sh.cache_set]
    exact Cache.entries_get_subset key (sh.cache c)

/-- A detail is remembered, or it is fetched. -/
theorem getOrFetch_looked [LawfulBEq κ] (c : Client) (key : κ) (force : Bool) (e : E) :
    sh.Looked c key
      ((Cache.getOrFetch sh.cache sh.set key force (sh.fetch api key).run).alone o.respond c e) := by
  rcases (sh.cache c).missed_or_known key force with hmiss | ⟨rfl, v, hv⟩
  · have hup := sh.lookedUp_shrinks key force c
    have hshrinks := (sh.fetch_keeps api key).alone sh.allows.requests
      (fun _ _ _ h k => List.Subset.trans k h) o (Cache.lookedUp sh.cache sh.set key force c) e
    have hsaid := sh.fetch_said api o key (Cache.lookedUp sh.cache sh.set key force c) e
    rw [Cache.getOrFetch_alone hmiss]
    generalize (sh.fetch api key).run.alone o.respond (Cache.lookedUp sh.cache sh.set key force c) e =
      fetched at hshrinks hsaid ⊢
    obtain ⟨said, state, responder, result⟩ := fetched
    have hsub := List.Subset.trans hshrinks hup
    cases result with
    | error f => exact .failed rfl hsub
    | ok v =>
      refine .fetched (hsaid v rfl) rfl ?_
      simp only [sh.cache_set]
      exact List.Subset.trans (Cache.entries_insert_subset key _ v) (List.cons_subset_cons _ hsub)
  · have hget : ((sh.cache c).get key).2 = some v := by simp [Cache.get, hv]
    rw [Cache.getOrFetch_alone_of_known hv]
    refine .known (Cache.mem_of_get key _ hget) rfl rfl ?_
    rw [sh.cache_set]
    exact Cache.entries_get_subset key (sh.cache c)

/-- The operation that reads looks up or fetches, and gives what comes of it as JSON. -/
theorem ask_read_eq (d : Diary E) (key : κ) (force : Bool) :
    d.ask api o (sh.read key force) =
      let looked := (Cache.getOrFetch sh.cache sh.set key force (sh.fetch api key).run).alone o.respond
        d.client d.responder
      { looked with result := looked.result.map sh.toJson } := by
  rw [Diary.ask, sh.perform_read, run_map, Task.alone_bind]
  simp only [Task.alone, List.append_nil]
  rfl

theorem ask_read [LawfulBEq κ] (d : Diary E) (key : κ) (force : Bool) :
    ∃ solo, sh.Looked d.client key solo ∧ d.ask api o (sh.read key force) =
      { solo with result := solo.result.map sh.toJson } :=
  ⟨_, sh.getOrFetch_looked api o d.client key force d.responder, sh.ask_read_eq api o d key force⟩

/-- Whoever drops everything drops what is there. -/
theorem dropped (d : Diary E) {op : Operation} (hop : op = .logout ∨ op = .clearCaches) :
    (sh.cache (d.ask api o op).state).entries = [] := by
  rcases hop with rfl | rfl
  · have hlogout : (Operation.logout.perform api).run =
        api.endSession.bind fun _ => Api.clearCaches.bind fun _ => .done (.ok .null) :=
      Task.bind_bind api.endSession _ _
    rw [Diary.ask, hlogout, Task.alone_bind]
    exact sh.cleared _
  · exact sh.cleared d.client

/-! ### What a shelf remembers -/

/-- The operation fetched the detail. -/
structure Fetches (x : Done) (key : κ) (v : ν) : Prop where
  op_eq : ∃ force, x.op = sh.read key force
  said_ne_nil : x.said ≠ []
  result_eq : x.result = .ok (sh.toJson v)

/-- The detail was there before and after the operation. -/
structure Passes (y : Done) (key : κ) (v : ν) : Prop where
  before : (key, v) ∈ (sh.cache y.before).entries
  after : (key, v) ∈ (sh.cache y.after).entries
  not_logout : y.op ≠ .logout
  not_clearCaches : y.op ≠ .clearCaches

/-- The detail was fetched by one operation of the past, and has been there since. -/
def Remembered (past : List Done) (key : κ) (v : ν) : Prop :=
  ∃ later x earlier, past = later ++ x :: earlier ∧ sh.Fetches x key v ∧
    ∀ y ∈ later, sh.Passes y key v

/-- All that is there was fetched, and has been there since. -/
def Remembers (d : Diary E) : Prop :=
  ∀ key v, (key, v) ∈ (sh.cache d.client).entries → sh.Remembered d.past key v

variable {sh api o}

theorem Remembered.cons {past : List Done} {key : κ} {v : ν} (h : sh.Remembered past key v) {y : Done}
    (hy : sh.Passes y key v) : sh.Remembered (y :: past) key v := by
  obtain ⟨later, x, earlier, rfl, hx, hlater⟩ := h
  exact ⟨y :: later, x, earlier, rfl, hx, List.forall_mem_cons.2 ⟨hy, hlater⟩⟩

/-- Where nothing is remembered the diary may begin. -/
theorem Remembers.begin {c : Client} (hc : (sh.cache c).entries = []) (e : E) :
    sh.Remembers (⟨c, e, []⟩ : Diary E) := by
  intro key v hmem
  rw [hc] at hmem
  cases hmem

/-- What is remembered after an operation was remembered before, or it was fetched just now. -/
theorem mem_of_ask [LawfulBEq κ] {d : Diary E} {op : Operation} {key : κ} {v : ν}
    (h : (key, v) ∈ (sh.cache (d.ask api o op).state).entries) :
    (key, v) ∈ (sh.cache d.client).entries ∨ sh.Fetches (d.done api o op) key v := by
  by_cases hop : ∃ k force, op = sh.read k force
  · obtain ⟨k, force, rfl⟩ := hop
    obtain ⟨solo, hlooked, hask⟩ := sh.ask_read api o d k force
    rw [hask] at h
    cases hlooked with
    | known _ _ _ hsub => exact .inl (hsub h)
    | failed _ hsub => exact .inl (hsub h)
    | fetched hsaid hresult hsub =>
      rcases List.mem_cons.1 (hsub h) with heq | h
      · cases heq
        refine .inr ⟨⟨force, rfl⟩, ?_, ?_⟩
        · simpa [Diary.done, hask] using hsaid
        · simp [Diary.done, hask, hresult, Except.map]
      · exact .inl h
  · exact .inl (sh.perform_shrinks api o d (fun k force heq => hop ⟨k, force, heq⟩) h)

/-- Each operation fetches what is new, and what it leaves there was there before. -/
theorem Remembers.perform [LawfulBEq κ] {d : Diary E} (h : sh.Remembers d) (op : Operation) :
    sh.Remembers (d.perform api o op) := by
  intro key v hmem
  rcases mem_of_ask hmem with hold | hnew
  · refine (h key v hold).cons ⟨hold, hmem, ?_, ?_⟩ <;> intro hop
    · exact absurd hmem (sh.dropped api o d (.inl hop) ▸ List.not_mem_nil)
    · exact absurd hmem (sh.dropped api o d (.inr hop) ▸ List.not_mem_nil)
  · exact ⟨[], d.done api o op, d.past, rfl, hnew, fun _ hy => absurd hy List.not_mem_nil⟩

/-- What is remembered after some operations was fetched by one of them. -/
theorem after_remembers [LawfulBEq κ] (s : Settings) (e : E) (ops : List Operation) :
    sh.Remembers ((Diary.start s e).after api o ops) :=
  Diary.after_of_perform (fun _ op h => h.perform op) ops (.begin (sh.start s) e)

/-- Signing out is a beginning: whatever was done before, what is remembered later on was fetched by one
of the operations since. -/
theorem logout_remembers [LawfulBEq κ] (d : Diary E) (ops : List Operation) :
    sh.Remembers (Diary.after api o
      ⟨(d.perform api o .logout).client, (d.perform api o .logout).responder, []⟩ ops) :=
  Diary.after_of_perform (fun _ op h => h.perform op) ops
    (.begin (sh.dropped api o d (.inl rfl)) _)

/-! ## Reading without a request -/

/-- Where a detail that is remembered comes from: an operation fetched it, it has been there since, and
if it was not there at some time of the epoch of now then it was fetched in that epoch. -/
structure Sourced (sh : Shelf κ ν) (d : Diary E) (key : κ) (v : ν) (later : List Done) (x : Done)
    (earlier : List Done) : Prop where
  past_eq : d.past = later ++ x :: earlier
  fetches : sh.Fetches x key v
  passes : ∀ y ∈ later, sh.Passes y key v
  same_epoch : ∀ y ∈ d.past, y.before.session.epoch = d.client.session.epoch →
    (key, v) ∉ (sh.cache y.before).entries →
    x.before.session.epoch = d.client.session.epoch ∧ x.after.session.epoch = d.client.session.epoch

theorem Remembers.sourced {d : Diary E} (h : sh.Remembers d) (hd : d.Ordered) {key : κ} {v : ν}
    (hmem : (key, v) ∈ (sh.cache d.client).entries) :
    ∃ later x earlier, sh.Sourced d key v later x earlier := by
  obtain ⟨later, x, earlier, hpast, hx, hlater⟩ := h key v hmem
  refine ⟨later, x, earlier, hpast, hx, hlater, fun y hy hnow habsent => ?_⟩
  refine hd.same_epoch hpast ?_ hnow
  rcases List.mem_append.1 (hpast ▸ hy) with hy | hy
  · exact absurd (hlater y hy).before habsent
  · exact List.mem_cons.1 hy

/-- What is read without a request is there. -/
theorem mem_of_ask_read [LawfulBEq κ] {d : Diary E} {key : κ} {force : Bool}
    (hsaid : (d.ask api o (sh.read key force)).said = [])
    (hok : (d.ask api o (sh.read key force)).result.isOk) :
    ∃ v, (d.ask api o (sh.read key force)).result = .ok (sh.toJson v) ∧
      (key, v) ∈ (sh.cache d.client).entries := by
  obtain ⟨solo, hlooked, hask⟩ := sh.ask_read api o d key force
  rw [hask] at hsaid hok ⊢
  cases hlooked with
  | @known v hmem _ hresult _ => exact ⟨v, by rw [hresult]; rfl, hmem⟩
  | failed hresult _ => rw [hresult] at hok; cases hok
  | fetched hne _ _ => exact absurd hsaid hne

/-- After any operations, whatever was answered and whatever others did, a detail that is read without a
request was fetched by one of them, and has been remembered since; it is of the epoch of now if it was
not remembered at some time of that epoch. -/
theorem read_from_cache [LawfulBEq κ] (sh : Shelf κ ν) (api : Api) (o : Outside E) (s : Settings) (e : E)
    (ops : List Operation) (key : κ) (force : Bool)
    (hsaid : (((Diary.start s e).after api o ops).ask api o (sh.read key force)).said = [])
    (hok : (((Diary.start s e).after api o ops).ask api o (sh.read key force)).result.isOk) :
    ∃ v, (((Diary.start s e).after api o ops).ask api o (sh.read key force)).result =
        .ok (sh.toJson v) ∧
      ∃ later x earlier, sh.Sourced ((Diary.start s e).after api o ops) key v later x earlier := by
  obtain ⟨v, hresult, hmem⟩ := mem_of_ask_read hsaid hok
  have hordered : ((Diary.start s e).after api o ops).Ordered :=
    Diary.after_of_perform (fun _ op h => h.perform op) ops (Diary.start_ordered s e)
  exact ⟨v, hresult, (after_remembers s e ops).sourced hordered hmem⟩

end Shelf

/-! ## One session after another -/

/-- What would be read without a request now was fetched in the epoch of now. -/
def Shelf.Current {κ ν E : Type} [BEq κ] (sh : Shelf κ ν) (api : Api) (o : Outside E) (d : Diary E) :
    Prop :=
  ∀ key force, (d.ask api o (sh.read key force)).said = [] →
    (d.ask api o (sh.read key force)).result.isOk →
    ∃ x ∈ d.past, (∃ force, x.op = sh.read key force) ∧ x.said ≠ [] ∧
      x.result = (d.ask api o (sh.read key force)).result ∧
      x.before.session.epoch = d.client.session.epoch

namespace Crossing

/-- Where the server is. -/
def api : Api :=
  ⟨⟨"https".toList, some ⟨[], none, .name "api.test".toList, none⟩, .segments [[]], none, none⟩,
    30000, 120000⟩

/-- The answer to somebody who signs in. -/
def welcome (access refresh id name : String) : Json :=
  .object [("access", .string access), ("refresh", .string refresh),
    ("user", .object [("id", .string id), ("username", .string name)])]

/-- What the server says to its requests, in their order: it signs in two users, and shows a group to
the first of them before it refuses the token of that user, and the exchange of it. -/
def answers : Nat → Nat × Json
  | 0 => (200, welcome "a1" "r1" "1" "lan")
  | 1 => (200, .object [("id", .string "g1"), ("name", .string "seen by lan")])
  | 2 | 3 => (401, .object [])
  | _ => (200, welcome "a2" "r2" "2" "minh")

/-- The server. -/
def server : Outside Nat := fun r n =>
  (n + 1, ⟨0, [], .ok ⟨(answers n).1, .empty, (answers n).2.render.toUTF8, r.id, 1⟩⟩)

/-- A user signs in, reads a group and lists groups, when the session expires; another user signs in. -/
def operations : List Operation :=
  [.login "lan" "p", .group ⟨"g1"⟩ false, .groups, .login "minh" "q"]

/-- What the client has done after the first few of them. -/
def diary (n : Nat) : Diary Nat := (Diary.start .usual 0).after api server (operations.take n)

/-- A group that was read once is read again without a request. -/
theorem group_from_cache :
    (((diary 2).ask api server (.group ⟨"g1"⟩ false)).said = [] ∧
      ((diary 2).ask api server (.group ⟨"g1"⟩ false)).result.isOk) ∧
    ∃ v, ((diary 2).ask api server (.group ⟨"g1"⟩ false)).result = .ok (Group.toJson v) ∧
      ∃ later x earlier, Shelf.groups.Sourced (diary 2) ⟨"g1"⟩ v later x earlier := by
  have hsaid : ((diary 2).ask api server (.group ⟨"g1"⟩ false)).said = [] := by decide +kernel
  have hok : ((diary 2).ask api server (.group ⟨"g1"⟩ false)).result.isOk := by decide +kernel
  exact ⟨⟨hsaid, hok⟩, Shelf.read_from_cache .groups api server .usual 0 (operations.take 2) ⟨"g1"⟩ false
    hsaid hok⟩

/-- The second user gets what was fetched for the first: nothing was fetched in the epoch of now. -/
theorem read_across_sessions : ¬ Shelf.groups.Current api server (diary 4) := by
  intro h
  obtain ⟨x, hx, -, -, -, hepoch⟩ := h ⟨"g1"⟩ false (by decide +kernel) (by decide +kernel)
  have hmem : x.before.session.epoch ∈ (diary 4).past.map (·.before.session.epoch) :=
    List.mem_map_of_mem hx
  have hepochs : (diary 4).past.map (·.before.session.epoch) = [2, 1, 1, 0] := by decide +kernel
  have hnow : (diary 4).client.session.epoch = 3 := by decide +kernel
  rw [hepochs, hepoch, hnow] at hmem
  exact absurd hmem (by decide)

end Crossing

end TripClient
