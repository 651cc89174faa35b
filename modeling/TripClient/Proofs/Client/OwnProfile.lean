import TripClient.Proofs.Client.Attempts
import TripClient.Proofs.Client.Changes

/-!
# The own profile

Whoever asks for the own profile, or changes it, stores the answer in the session. All that is sent for
it is sent in one epoch (`Calling.asked_epoch`), but nobody looks at the epoch when the answer is there:
it is stored with whoever is signed in then (`ProfileCall.perform_alone`). So a profile is stored in its
own epoch only, unless somebody with another profile is signed in by then (`profile_stored`); in that case
it is stored with the tokens of somebody else (`Replaced.profile_of_another`).
-/

namespace TripClient.Api

open Client

variable {E : Type}

/-- The calls that are answered with the own profile. -/
inductive ProfileCall where
  | current
  | update (change : ProfileChange)
  | avatar (image : Attachment)

namespace ProfileCall

/-- The call. -/
def perform (api : Api) : ProfileCall → Work Profile
  | current => api.currentUser
  | update change => api.updateProfile change
  | avatar image => api.uploadAvatar image

/-- The request of the call. -/
def request (api : Api) : ProfileCall → Work Profile
  | current => api.item Profile.decoder ["auth", "me"] "user"
  | update change => api.send Profile.decoder .patch ["auth", "me"] change.toJson "user"
  | avatar image =>
    api.upload Profile.decoder .patch ["auth", "me", "avatar"] ⟨[], [image.toPart "avatar"]⟩ "user"

/-- What is done to the session with the answer. -/
def store : Outcome Profile → Session → Session
  | .ok user => Session.setUser user
  | .error _ => id

/-- What is done with the answer. -/
def settle : ProfileCall → Outcome Profile → Step (Outcome Profile)
  | current => storeProfile
  | update _ | avatar _ => settleProfile

section
variable (api : Api) (call : ProfileCall) (respond : Anyone E) (c : Client) (e : E)

/-- A call makes its request, and does something with the answer. -/
theorem perform_eq : (call.perform api).run = (call.request api).run.bind call.settle := by
  cases call with
  | current =>
    refine (run_bind _ _).trans (congrArg (Task.bind _) (funext fun outcome => ?_))
    cases outcome <;> rfl
  | update change => exact changedProfile_eq _
  | avatar image => exact changedProfile_eq _

theorem settle_local (outcome : Outcome Profile) :
    (call.settle outcome).Local (fun _ _ => True) fun _ => True := by
  cases call with
  | current => exact storeProfile_local allows_all.requests outcome
  | update change => exact settleProfile_local allows_all outcome
  | avatar image => exact settleProfile_local allows_all outcome

/-- The answer is stored with whoever is signed in. -/
theorem settle_alone (outcome : Outcome Profile) :
    ((call.settle outcome).alone respond c e).state.session = store outcome c.session ∧
      ((call.settle outcome).alone respond c e).result = outcome := by
  have hstore (c : Client) : ((storeProfile outcome).alone respond c e).state.session =
      store outcome c.session ∧ ((storeProfile outcome).alone respond c e).result = outcome := by
    cases outcome with
    | ok user => exact ⟨rfl, rfl⟩
    | error f => exact ⟨rfl, rfl⟩
  have hsettle : ((settleProfile outcome).alone respond c e).state.session = store outcome c.session ∧
      ((settleProfile outcome).alone respond c e).result = outcome := by
    simp only [settleProfile, Task.alone, id]
    cases c.session.user with
    | none => exact hstore c
    | some me => exact hstore (forgetUser me.id c)
  cases call with
  | current => exact hstore c
  | update change => exact hsettle
  | avatar image => exact hsettle

/-- A call says what its request says and gives what it gives, and stores it at last. -/
theorem perform_alone :
    let left := (call.request api).run.alone respond c e
    let got := (call.perform api).run.alone respond c e
    got.said = left.said ∧ got.result = left.result ∧
      got.state.session = store left.result left.state.session := by
  rw [perform_eq, Task.alone_bind]
  dsimp only
  generalize (call.request api).run.alone respond c e = left
  obtain ⟨hsession, hresult⟩ := call.settle_alone respond left.state left.responder left.result
  refine ⟨?_, hresult, hsession⟩
  rw [((call.settle_local left.result).said respond left.state left.responder).1, List.append_nil]

theorem request_calling {W : Client → Client → Prop} (hW : AllowsRequests W) :
    Calling api W (call.request api).run := by
  cases call with
  | current => exact item_calling hW _ _ _
  | update change => exact send_calling hW _ _ _ _ _
  | avatar image => exact upload_calling hW _ _ _ _ _

/-- All that is sent for a call is sent in the epoch in which it began. -/
theorem perform_epoch :
    ∀ x ∈ (call.perform api).run.asked respond c e, x.state.session.epoch = c.session.epoch := by
  have hcalling : Calling api (fun _ _ => True) (call.perform api).run := by
    rw [perform_eq]
    exact .after (call.request_calling api allows_all.requests) call.settle_local
  exact hcalling.asked_epoch

end

/-- A profile was asked for. -/
theorem request_said (api : Api) (call : ProfileCall) (o : Outside E) (c : Client) (e : E) {user : Profile}
    (h : ((call.request api).run.alone o.respond c e).result = .ok user) :
    ((call.request api).run.alone o.respond c e).said ≠ [] := by
  cases call with
  | current => exact item_said h
  | update change => exact said_of_ok (requestWith_made SameSession.made api _ _ _) h
  | avatar image =>
    have hbuild : Silent SameSession (fun _ => True)
        (api.request .patch ["auth", "me", "avatar"] >>= fun r =>
          Work.ofHttp (r.withTimeout api.uploadTimeout) >>= fun r =>
            Work.ofHttp (r.withForm ⟨[], [image.toPart "avatar"]⟩)) :=
      (request_made SameSession.made api _ _ _).bind fun _ _ =>
        (silent_http _).bind fun _ _ => silent_http _
    have hrequest : request api (avatar image) =
        (api.request .patch ["auth", "me", "avatar"] >>= fun r =>
          Work.ofHttp (r.withTimeout api.uploadTimeout) >>= fun r =>
            Work.ofHttp (r.withForm ⟨[], [image.toPart "avatar"]⟩)) >>= fun r =>
              api.authorized r >>= fun v => .ofOutcome (Answer.item Profile.decoder (some "user") v) := by
      simp only [bind_assoc]
      rfl
    rw [hrequest] at h ⊢
    exact said_of_ok hbuild h

/-! ## Whose profile it is -/

/-- The session is changed at last only if it is of the epoch in which the request was sent. -/
def StoresOwn (api : Api) (call : ProfileCall) (o : Outside E) (c : Client) (e : E) : Prop :=
  let left := (call.request api).run.alone o.respond c e
  ((call.perform api).run.alone o.respond c e).state.session ≠ left.state.session →
    ∀ x ∈ (call.perform api).run.asked o.respond c e,
      x.state.session.epoch = left.state.session.epoch

end ProfileCall

open ProfileCall

/-- What is promised of a call for the own profile, by what its request leaves. -/
structure ProfileStored (api : Api) (call : ProfileCall) (o : Outside E) (c : Client) (e : E)
    (left got : Solo Client Http.Request (fun _ => Http.Answer) E (Outcome Profile)) : Prop where
  /-- It sends and gives what the request does. -/
  said_eq : got.said = left.said
  result_eq : got.result = left.result
  /-- All of it is sent in the epoch in which the call began. -/
  epoch_eq : ∀ x ∈ (call.perform api).run.asked o.respond c e, x.state.session.epoch = c.session.epoch
  /-- Where there is no profile, the session is left as it is. -/
  failed : ∀ f, left.result = .error f → got.state.session = left.state.session
  /-- A profile is stored with whoever is signed in then. -/
  stored : ∀ user, left.result = .ok user → got.state.session = left.state.session.setUser user
  /-- It is stored in its own epoch only, unless another profile is replaced in another epoch. -/
  own_iff : StoresOwn api call o c e ↔ ∀ user credential, left.result = .ok user →
    left.state.session.credential = some credential → credential.user ≠ user →
    left.state.session.epoch = c.session.epoch

/-- To store a profile changes the session if somebody with another profile is signed in. -/
theorem setUser_ne_iff {user : Profile} {s : Session} :
    s.setUser user ≠ s ↔ ∃ credential, s.credential = some credential ∧ credential.user ≠ user := by
  obtain ⟨credential, epoch, generation, status, notices⟩ := s
  cases credential with
  | none => simp [Session.setUser]
  | some credential =>
    obtain ⟨tokens, user'⟩ := credential
    simp [Session.setUser, eq_comm]

theorem storesOwn_iff (api : Api) (call : ProfileCall) (o : Outside E) (c : Client) (e : E) :
    StoresOwn api call o c e ↔ ∀ user credential,
      ((call.request api).run.alone o.respond c e).result = .ok user →
      ((call.request api).run.alone o.respond c e).state.session.credential = some credential →
      credential.user ≠ user →
      ((call.request api).run.alone o.respond c e).state.session.epoch = c.session.epoch := by
  obtain ⟨hsaid, -, hsession⟩ := call.perform_alone api o.respond c e
  have hepoch := call.perform_epoch api o.respond c e
  rw [StoresOwn, hsession]
  constructor
  · intro h user credential hok hcredential hother
    -- Something was sent, in the epoch in which the call began.
    have hasked : (call.perform api).run.asked o.respond c e ≠ [] := by
      intro hnone
      refine call.request_said api o c e hok ?_
      rw [← hsaid, Task.said_eq_asked, hnone, List.map_nil]
    obtain ⟨x, hx⟩ := List.exists_mem_of_ne_nil _ hasked
    have hchanged : store ((call.request api).run.alone o.respond c e).result
        ((call.request api).run.alone o.respond c e).state.session ≠
          ((call.request api).run.alone o.respond c e).state.session := by
      rw [hok]
      exact setUser_ne_iff.2 ⟨credential, hcredential, hother⟩
    exact (h hchanged x hx).symm.trans (hepoch x hx)
  · intro h hchanged x hx
    cases hresult : ((call.request api).run.alone o.respond c e).result with
    | error f => exact absurd (by rw [hresult]; rfl) hchanged
    | ok user =>
      rw [hresult] at hchanged
      obtain ⟨credential, hcredential, hother⟩ := setUser_ne_iff.1 hchanged
      exact (hepoch x hx).trans (h user credential hresult hcredential hother).symm

/-- Whatever is answered, and however others change the session meanwhile, a call for the own profile
stores it with whoever is signed in when the answer is there. -/
theorem profile_stored (api : Api) (call : ProfileCall) (o : Outside E) (c : Client) (e : E) :
    ProfileStored api call o c e ((call.request api).run.alone o.respond c e)
      ((call.perform api).run.alone o.respond c e) := by
  obtain ⟨hsaid, hresult, hsession⟩ := call.perform_alone api o.respond c e
  refine ⟨hsaid, hresult, call.perform_epoch api o.respond c e, fun f hf => ?_, fun user hok => ?_,
    storesOwn_iff api call o c e⟩
  · rw [hsession, hf]
    rfl
  · rw [hsession, hok]
    rfl

/-! ## Somebody else meanwhile -/

namespace Replaced

/-- Where the server is. -/
def api : Api :=
  ⟨⟨"https".toList, some ⟨[], none, .name "api.test".toList, none⟩, .segments [[]], none, none⟩,
    30000, 120000⟩

/-- Who asks. -/
def lan : Profile := ⟨⟨"1"⟩, "lan", none, none, none, none⟩

/-- Who is signed in when the answer is there. -/
def minh : Profile := ⟨⟨"2"⟩, "minh", none, none, none, none⟩

/-- The client, when the first of them is signed in. -/
def client : Client := onSession (Session.signIn ⟨"a1", "r1"⟩ lan) (.start .usual)

/-- The server answers with the profile of who asked; until then the one signs out and the other in. -/
def server : Outside Unit := fun r e =>
  (e, ⟨0, [.signOut, .signIn ⟨"a2", "r2"⟩ minh], .ok ⟨200, .empty, lan.toJson.render.toUTF8, r.id, 1⟩⟩)

/-- A change of the own profile. -/
def rename : ProfileCall := .update ⟨some "Lan", none, none⟩

/-- A change of the picture in it. -/
def picture : ProfileCall := .avatar ⟨"lan.png", "image/png", ⟨#[0]⟩⟩

/-- The call stores the profile of the one with the tokens of the other. -/
structure Mixes (call : ProfileCall) : Prop where
  not_own : ¬ StoresOwn api call server client ()
  credential_eq : ((call.perform api).run.alone server.respond client ()).state.session.credential =
    some ⟨⟨"a2", "r2"⟩, lan⟩

theorem mixes_of_mem : ∀ call ∈ [.current, rename, picture], Mixes call := by
  have hleft : ∀ call ∈ [.current, rename, picture],
      let left := (call.request api).run.alone server.respond client ()
      left.result.toOption = some lan ∧ left.state.session.credential = some ⟨⟨"a2", "r2"⟩, minh⟩ ∧
        left.state.session.epoch ≠ client.session.epoch := by
    decide +kernel
  have hstored : ∀ call ∈ [.current, rename, picture],
      ((call.perform api).run.alone server.respond client ()).state.session.credential =
        some ⟨⟨"a2", "r2"⟩, lan⟩ := by
    decide +kernel
  refine fun call hcall => ⟨fun h => ?_, hstored call hcall⟩
  obtain ⟨hresult, hcredential, hepoch⟩ := hleft call hcall
  have hok := toOption_eq_some_iff.1 hresult
  exact hepoch ((storesOwn_iff api call server client ()).1 h lan _ hok hcredential (by decide))

/-- All three calls do. -/
theorem profile_of_another : Mixes .current ∧ Mixes rename ∧ Mixes picture :=
  ⟨mixes_of_mem _ (by simp), mixes_of_mem _ (by simp), mixes_of_mem _ (by simp)⟩

end Replaced

end TripClient.Api
