import TripClient.Client.Operation
import TripClient.Proofs.Cache
import TripClient.Proofs.Client.Exchange

/-!
# The shape of operations

An operation other than to sign in or out makes at most one request in the name of the session. What
comes before it asks nothing and leaves the session as it is, and what comes after it asks nothing
(`Calling`). It changes the state in few ways: it counts its requests, stores the own profile, and drops
what is remembered (`Allows`); besides, the details of a user, a group or a plan are looked up and kept
by the operation that reads them (`Operation.Reads`). That all these operations have this shape is
`perform_calling`; what holds of the parts is then shown of each of them by induction on the shape.
-/

namespace TripClient

namespace Client

/-- `W` allows all that operations do but to look up and keep details. -/
structure Allows (W : Client → Client → Prop) : Prop where
  session : ∀ c s, Session.Leads c.session s → W c (c.withSession s)
  made : ∀ c n, W c { c with made := n }
  forgetUser : ∀ c id, W c (forgetUser id c)
  forgetGroup : ∀ c id, W c (forgetGroup id c)
  forgetPlan : ∀ c id, W c (forgetPlan id c)
  clearUsers : ∀ c, W c (c.withUsers c.users.clear)
  clearGroups : ∀ c, W c (c.withGroups c.groups.clear)
  clearPlans : ∀ c, W c (c.withPlans c.plans.clear)

/-- `W` allows what requests in the name of the session do: they are counted, and the session goes on. -/
structure AllowsRequests (W : Client → Client → Prop) : Prop where
  session : ∀ c s, Session.Leads c.session s → W c (c.withSession s)
  made : ∀ c n, W c { c with made := n }

variable {W : Client → Client → Prop}

theorem Allows.requests (hW : Allows W) : AllowsRequests W := ⟨hW.session, hW.made⟩

/-- Everything may be allowed. -/
theorem allows_all : Allows fun _ _ => True := by
  constructor <;> intros <;> trivial

theorem AllowsRequests.refl (hW : AllowsRequests W) (c : Client) : W c c :=
  hW.session c c.session (.refl _)

theorem AllowsRequests.setUser (hW : AllowsRequests W) (user : Profile) (c : Client) :
    W c (onSession (Session.setUser user) c) :=
  hW.session c _ ((Session.Change.setUser user).leads c.session)

/-- A change that `W` allows and that leaves the session as it is. -/
structure Aside (W : Client → Client → Prop) (c c' : Client) : Prop where
  same : SameSession c c'
  allowed : W c c'

theorem AllowsRequests.aside_made (hW : AllowsRequests W) (c : Client) (n : Nat) :
    Aside W c { c with made := n } :=
  ⟨rfl, hW.made c n⟩

end Client

namespace Api

open Client

/-- The task makes at most one request in the name of the session, and changes the state as `W` allows:
before the request it leaves the session as it is. -/
inductive Calling (api : Api) (W : Client → Client → Prop) : {α : Type} → Step α → Prop
  | quiet {α : Type} {P : α → Prop} {t : Step α} : t.Local W P → Calling api W t
  | authorized (r : Http.Request) : Calling api W (api.authorized r).run
  | before {α β : Type} {P : α → Prop} {t : Step α} {f : α → Step β} : t.Local (Aside W) P →
      (∀ a, Calling api W (f a)) → Calling api W (t.bind f)
  | after {α β : Type} {P : β → Prop} {t : Step α} {f : α → Step β} : Calling api W t →
      (∀ a, (f a).Local W P) → Calling api W (t.bind f)

section
variable {api : Api} {W : Client → Client → Prop} {α β : Type}

/-! ## Work of this shape -/

/-- What is known already asks nothing. -/
theorem silent_outcome {R : Client → Client → Prop} (outcome : Outcome α) :
    Silent R (fun _ => True) (Work.ofOutcome outcome) :=
  silent_ofOutcome fun _ _ => trivial

theorem silent_http {R : Client → Client → Prop} (r : Except Http.Error α) :
    Silent R (fun _ => True) (Work.ofHttp r) :=
  silent_ofHttp fun _ _ => trivial

theorem silent_done {R : Client → Client → Prop} (a : α) :
    Silent R (fun _ => True) (pure a : Work α) :=
  silent_pure trivial

/-- Work that goes on with what asks nothing. -/
theorem Calling.work {w : Work α} {k : α → Work β} (hw : Calling api W w.run)
    (hk : ∀ a, Silent W (fun _ => True) (k a)) : Calling api W (w >>= k).run := by
  rw [run_bind]
  refine .after (P := Gives fun _ => True) hw fun outcome => ?_
  cases outcome with
  | ok a => exact hk a
  | error f => exact gives_error _ f

/-- Work that begins with what asks nothing. -/
theorem Calling.of_work {P : α → Prop} {w : Work α} {k : α → Work β} (hw : Silent (Aside W) P w)
    (hk : ∀ a, Calling api W (k a).run) : Calling api W (w >>= k).run := by
  rw [run_bind]
  refine .before hw fun outcome => ?_
  cases outcome with
  | ok a => exact hk a
  | error f => exact .quiet (P := fun _ => True) trivial

theorem Calling.map {w : Work α} (hw : Calling api W w.run) (f : α → β) :
    Calling api W (f <$> w).run := by
  rw [run_map]
  exact .after (P := fun _ => True) hw fun _ => trivial

/-! ## The kinds of operations -/

section
variable (hW : AllowsRequests W)
include hW

theorem page_calling (d : Json.Decoder α) (segments : List String) (query : Query) (name : String) :
    Calling api W (api.page d segments query name).run :=
  .of_work (request_made hW.aside_made api .get segments query) fun r =>
    (Calling.authorized r).work fun _ => silent_outcome _

theorem list_calling (d : Json.Decoder α) (segments : List String) (query : Query) (name : String) :
    Calling api W (api.list d segments query name).run :=
  (page_calling hW d segments query name).work fun _ => silent_done _

theorem item_calling (d : Json.Decoder α) (segments : List String) (name : String) :
    Calling api W (api.item d segments name).run :=
  .of_work (request_made hW.aside_made api .get segments []) fun r =>
    (Calling.authorized r).work fun _ => silent_outcome _

theorem send_calling (d : Json.Decoder α) (method : Http.Method) (segments : List String)
    (body : Json) (name : String) : Calling api W (api.send d method segments body name).run :=
  .of_work (requestWith_made hW.aside_made api method segments body) fun r =>
    (Calling.authorized r).work fun _ => silent_outcome _

theorem order_calling (method : Http.Method) (segments : List String) (body : Option Json) :
    Calling api W (api.order method segments body).run := by
  cases body with
  | some v =>
    exact .of_work (requestWith_made hW.aside_made api method segments v) fun r =>
      (Calling.authorized r).work fun _ => silent_done _
  | none =>
    exact .of_work (request_made hW.aside_made api method segments []) fun r =>
      (Calling.authorized r).work fun _ => silent_done _

theorem upload_calling (d : Json.Decoder α) (method : Http.Method) (segments : List String)
    (form : Http.Form) (name : String) : Calling api W (api.upload d method segments form name).run :=
  .of_work (request_made hW.aside_made api method segments []) fun _ =>
    .of_work (silent_http _) fun _ =>
      .of_work (silent_http _) fun r => (Calling.authorized r).work fun _ => silent_outcome _

omit hW in
/-- The state may be changed afterwards. -/
theorem andThen_calling {w : Work α} (hw : Calling api W w.run) {change : Client → Client}
    (hchange : ∀ c, W c (change c)) : Calling api W (w.andThen change).run :=
  .after (P := fun _ => True) hw fun _ => ⟨hchange, fun _ => trivial⟩

omit hW in
/-- What is kept in a cache may be looked up before, and kept afterwards. -/
theorem getOrFetch_calling {κ ν : Type} [BEq κ] (get : Client → Cache κ ν)
    (set : Cache κ ν → Client → Client) (hset : ∀ c cache, Aside W c (set cache c)) (key : κ)
    (force : Bool) {fetch : Step (Outcome ν)} (hfetch : Calling api W fetch) :
    Calling api W (Cache.getOrFetch get set key force fetch) := by
  have hkeep : Calling api W (fetch.bind (Cache.keep get set key)) := by
    refine .after (P := fun _ => True) hfetch fun outcome => ?_
    cases outcome with
    | ok v => exact ⟨fun c => (hset c _).allowed, fun _ => trivial⟩
    | error f => trivial
  cases force with
  | true => rwa [Cache.getOrFetch_true]
  | false =>
    rw [Cache.getOrFetch_false]
    refine Calling.before (P := fun _ => True)
      (t := .act (fun c => set ((get c).get key).1 c) fun c => .done ((get c).get key).2)
      (f := Cache.giveOrFetch get set key fetch) ⟨fun c => hset c _, fun _ => trivial⟩ fun known => ?_
    cases known with
    | some v => exact .quiet (P := fun _ => True) trivial
    | none => exact hkeep

theorem user_calling (hset : ∀ c users, W c (withUsers users c)) (id : UserId) (force : Bool) :
    Calling api W (api.user id force).run :=
  getOrFetch_calling Client.users withUsers (fun c users => ⟨rfl, hset c users⟩) id force
    (item_calling hW _ _ _)

theorem group_calling (hset : ∀ c groups, W c (withGroups groups c)) (id : GroupId) (force : Bool) :
    Calling api W (api.group id force).run :=
  getOrFetch_calling Client.groups withGroups (fun c groups => ⟨rfl, hset c groups⟩) id force
    (item_calling hW _ _ _)

theorem plan_calling (hset : ∀ c plans, W c (withPlans plans c)) (id : PlanId) (force : Bool) :
    Calling api W (api.plan id force).run :=
  getOrFetch_calling Client.plans withPlans (fun c plans => ⟨rfl, hset c plans⟩) id force
    (item_calling hW _ _ _)

/-- What is done at last with what came of a change of the own profile. -/
def storeProfile : Outcome Profile → Step (Outcome Profile)
  | .ok profile => .act (onSession (Session.setUser profile)) fun _ => .done (.ok profile)
  | .error f => .done (.error f)

/-- What is done with what came of a change of the own profile. -/
def settleProfile (outcome : Outcome Profile) : Step (Outcome Profile) :=
  .act id fun c => match c.session.user with
    | some me => .act (forgetUser me.id) fun _ => storeProfile outcome
    | none => storeProfile outcome

omit hW in
theorem changedProfile_eq (w : Work Profile) : (changedProfile w).run = w.run.bind settleProfile := by
  refine congrArg (Task.bind w.run) (funext fun outcome => congrArg (Task.act id) (funext fun c => ?_))
  change (Task.done c.session.user).bind _ = _
  rw [Task.bind]
  cases c.session.user <;> cases outcome <;> rfl

theorem storeProfile_local (outcome : Outcome Profile) : (storeProfile outcome).Local W fun _ => True := by
  cases outcome with
  | ok profile => exact ⟨hW.setUser profile, fun _ => trivial⟩
  | error f => trivial

omit hW in
theorem settleProfile_local (hW : Allows W) (outcome : Outcome Profile) :
    (settleProfile outcome).Local W fun _ => True := by
  refine ⟨hW.requests.refl, fun c => ?_⟩
  dsimp only
  split
  · exact ⟨fun c => hW.forgetUser c _, fun _ => storeProfile_local hW.requests outcome⟩
  · exact storeProfile_local hW.requests outcome

omit hW in
/-- The profile of the session may be changed afterwards. -/
theorem changedProfile_calling (hW : Allows W) {w : Work Profile} (hw : Calling api W w.run) :
    Calling api W (changedProfile w).run := by
  rw [changedProfile_eq]
  exact .after hw (settleProfile_local hW)

/-- A search for nothing but blanks is not made. -/
theorem searchUsers_calling (text : String) : Calling api W (api.searchUsers text).run := by
  unfold searchUsers
  split
  · exact .quiet (silent_done [])
  · exact list_calling hW _ _ _ _

theorem searchLocations_calling (text : String) : Calling api W (api.searchLocations text).run := by
  unfold searchLocations
  split
  · exact .quiet (silent_done [])
  · exact list_calling hW _ _ _ _

theorem currentUser_calling : Calling api W api.currentUser.run :=
  (item_calling hW Profile.decoder ["auth", "me"] "user").work fun user =>
    ⟨hW.setUser user, fun _ _ _ => trivial⟩

omit hW in
theorem clearCaches_local (hW : Allows W) : clearCaches.Local W fun _ => True :=
  ⟨hW.clearUsers, fun _ => ⟨hW.clearGroups, fun _ => ⟨hW.clearPlans, fun _ => trivial⟩⟩⟩

end

end

end Api

namespace Operation

open Client

/-- Whether somebody signs in or out. -/
def signsInOrOut : Operation → Bool
  | login _ _ | register _ | endSession | logout => true
  | _ => false

/-- That `W` allows what the operation looks up and keeps. -/
def Reads (W : Client → Client → Prop) : Operation → Prop
  | user _ _ => ∀ c cache, W c (withUsers cache c)
  | group _ _ => ∀ c cache, W c (withGroups cache c)
  | plan _ _ => ∀ c cache, W c (withPlans cache c)
  | _ => True

/-- All operations but to sign in or out have this shape. -/
theorem perform_calling {W : Client → Client → Prop} (hW : Allows W) (api : Api) {op : Operation}
    (h : op.signsInOrOut = false) (hop : op.Reads W) : Api.Calling api W (op.perform api).run := by
  have hreq := hW.requests
  cases op with
  | login _ _ | register _ | endSession | logout => cases h
  | clearCaches =>
    exact .quiet (P := fun _ => True) ((Api.clearCaches_local hW).bind fun _ _ => trivial)
  | currentUser => exact (Api.currentUser_calling hreq).map _
  | user id force => exact (Api.user_calling hreq hop id force).map _
  | group id force => exact (Api.group_calling hreq hop id force).map _
  | plan id force => exact (Api.plan_calling hreq hop id force).map _
  | updateProfile change =>
    exact (Api.changedProfile_calling hW (Api.send_calling hreq _ _ _ _ _)).map _
  | uploadAvatar image =>
    exact (Api.changedProfile_calling hW (Api.upload_calling hreq _ _ _ _ _)).map _
  | updateGroup id draft =>
    exact (Api.andThen_calling (Api.send_calling hreq _ _ _ _ _) fun c => hW.forgetGroup c id).map _
  | uploadCover id image =>
    exact (Api.andThen_calling (Api.upload_calling hreq _ _ _ _ _) fun c => hW.forgetGroup c id).map _
  | deleteGroup id | joinGroup id | leaveGroup id =>
    exact (Api.andThen_calling (Api.order_calling hreq _ _ _) fun c => hW.forgetGroup c id).map _
  | updatePlan id draft | addActivity id draft =>
    exact (Api.andThen_calling (Api.send_calling hreq _ _ _ _ _) fun c => hW.forgetPlan c id).map _
  | updateActivity plan id draft =>
    exact (Api.andThen_calling (Api.send_calling hreq _ _ _ _ _) fun c => hW.forgetPlan c plan).map _
  | deletePlan plan | deleteActivity plan _ =>
    exact (Api.andThen_calling (Api.order_calling hreq _ _ _) fun c => hW.forgetPlan c plan).map _
  | groups | members _ | plans _ | activities _ | friends | friendRequests | conversations =>
    exact (Api.list_calling hreq _ _ _ _).map _
  | createGroup _ | createPlan _ _ | befriend _ | directConversation _ =>
    exact (Api.send_calling hreq _ _ _ _ _).map _
  | acceptFriend _ | rejectFriend _ | removeFriend _ | markRead _ =>
    exact (Api.order_calling hreq _ _ _).map _
  | location id => exact (Api.item_calling hreq _ _ _).map _
  | messages id page => exact (Api.page_calling hreq _ _ _ _).map _
  | sendAttachment id file caption => exact (Api.upload_calling hreq _ _ _ _ _).map _
  | sendMessage id text =>
    exact (Api.Calling.of_work (Api.silent_outcome _) fun _ => Api.send_calling hreq _ _ _ _ _).map _
  | createConversation title participants =>
    exact (Api.Calling.of_work (Api.silent_outcome _) fun _ => Api.send_calling hreq _ _ _ _ _).map _
  | nearby center radius =>
    exact (Api.Calling.of_work (Api.silent_outcome _) fun _ => Api.list_calling hreq _ _ _ _).map _
  | searchUsers text => exact (Api.searchUsers_calling hreq text).map _
  | searchLocations text => exact (Api.searchLocations_calling hreq text).map _

end Operation

end TripClient
