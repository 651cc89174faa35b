import TripClient.Proofs.Client.Coherence
import TripClient.Proofs.Client.OwnProfile

/-!
# What is remembered of a profile that is written

Whoever changes the own profile drops a user from the cache when the answer is there, whatever it is. But
that is the user who is signed in then (`ProfileWrite.perform_users`), not the one who was signed in when
the change was asked for, nor the one whose profile the server has sent. So what is remembered of these two
is dropped only if it is that of whoever is signed in at last (`evicts_iff`, `written_evicted`); if the
session ends or another begins meanwhile, the profile from before the change is given from the cache
(`Replaced.written_kept`).
-/

namespace TripClient.Api

open Client

variable {E : Type}

/-- The calls that change the own profile. -/
inductive ProfileWrite where
  | update (change : ProfileChange)
  | avatar (image : Attachment)

namespace ProfileWrite

/-- The call for the own profile that it is. -/
def call : ProfileWrite → ProfileCall
  | update change => .update change
  | avatar image => .avatar image

section
variable (api : Api) (w : ProfileWrite)

/-- Whoever is signed in when the answer is there is dropped. -/
theorem settle_users (outcome : Outcome Profile) (respond : Anyone E) (c : Client) (e : E) :
    ((w.call.settle outcome).alone respond c e).state.users =
      match c.session.user with
      | some me => c.users.erase me.id
      | none => c.users := by
  have hstore (c : Client) : ((storeProfile outcome).alone respond c e).state.users = c.users := by
    cases outcome <;> rfl
  have hsettle : w.call.settle outcome = settleProfile outcome := by cases w <;> rfl
  simp only [hsettle, settleProfile, Task.alone, id]
  cases c.session.user with
  | none => exact hstore c
  | some me => exact hstore (forgetUser me.id c)

/-- So at last the cache is as it was when the change was asked for, but for that user. -/
theorem perform_users (o : Outside E) (c : Client) (e : E) :
    ((w.call.perform api).run.alone o.respond c e).state.users =
      match ((w.call.request api).run.alone o.respond c e).state.session.user with
      | some me => c.users.erase me.id
      | none => c.users := by
  have hsame : SameDetails c ((w.call.request api).run.alone o.respond c e).state :=
    Keeps.alone sameDetails_requests SameDetails.trans
      ⟨Calling.keeps sameDetails_requests (w.call.request_calling api sameDetails_requests)⟩ o c e
  rw [ProfileCall.perform_eq, Task.alone_bind]
  dsimp only
  rw [settle_users, hsame.users]

/-- A user is remembered as before, unless it is the one who is signed in when the answer is there. -/
theorem perform_peek? (o : Outside E) (c : Client) (e : E) (id : UserId) :
    ((w.call.perform api).run.alone o.respond c e).state.users.peek? id =
      if ((w.call.request api).run.alone o.respond c e).state.session.user.map (·.id) = some id then none
      else c.users.peek? id := by
  rw [perform_users]
  cases ((w.call.request api).run.alone o.respond c e).state.session.user with
  | none => rfl
  | some me =>
    simp only [Option.map_some, Option.some.injEq]
    split
    · next heq => exact heq ▸ Cache.peek?_erase me.id c.users
    · next hne => exact Cache.peek?_erase_of_ne me.id c.users (Ne.symm hne)

end

end ProfileWrite

/-! ## Reading a user again -/

/-- Whoever reads the profile of the user next gets what the server says then. -/
def Refetched (api : Api) (id : UserId) (c : Client) : Prop :=
  ∀ (E : Type) (o : Outside E) (e : E),
    let read := (api.user id false).run.alone o.respond c e
    let fetched := (Shelf.users.fetch api id).run.alone o.respond c e
    read.said = fetched.said ∧ read.result = fetched.result

/-- That is so if and only if the user is not remembered. -/
theorem refetched_iff {api : Api} {id : UserId} {c : Client} :
    Refetched api id c ↔ c.users.peek? id = none := by
  have hread : (api.user id false).run =
      Cache.getOrFetch Client.users withUsers id false (Shelf.users.fetch api id).run := rfl
  constructor
  · intro h
    cases hv : c.users.peek? id with
    | none => rfl
    | some user =>
      -- Nothing is asked for what is remembered, but nothing is fetched without a request.
      let o : Outside Unit := fun r e => (e, ⟨0, [], .error (.timeout 0 r.id)⟩)
      obtain ⟨hsaid, hresult⟩ := h Unit o ()
      rw [hread, Cache.getOrFetch_alone_of_known hv] at hsaid hresult
      exact absurd hsaid.symm (Shelf.users.fetch_said api o id c () user hresult.symm)
  · intro hnone E o e
    have hsame : Cache.lookedUp Client.users withUsers id false c = c :=
      Cache.lookedUp_of_missed (fun _ => rfl) (.inr hnone)
    rw [hread, Cache.getOrFetch_alone (.inr hnone), hsame]
    generalize (Shelf.users.fetch api id).run.alone o.respond c e = fetched
    obtain ⟨said, state, responder, result⟩ := fetched
    cases result <;> exact ⟨rfl, rfl⟩

/-! ## What is dropped -/

/-- The change is one of the profile of that user: of who was signed in when it was asked for, or of whose
profile the server has sent. -/
def Concerns (c : Client) (user : Profile) (id : UserId) : Prop :=
  c.session.user.map (·.id) = some id ∨ user.id = id

/-- A change that succeeds leaves nothing of the profile as it was before. -/
def Evicts (api : Api) (w : ProfileWrite) (o : Outside E) (c : Client) (e : E) : Prop :=
  let got := (w.call.perform api).run.alone o.respond c e
  ∀ user, got.result = .ok user → ∀ id, Concerns c user id →
    got.state.users.peek? id = none ∧ Refetched api id got.state

/-- That is so if and only if, of the users whom it concerns, none was remembered but the one who is signed
in when the answer is there. -/
theorem evicts_iff {api : Api} {w : ProfileWrite} {o : Outside E} {c : Client} {e : E} :
    Evicts api w o c e ↔
      ∀ user, ((w.call.request api).run.alone o.respond c e).result = .ok user →
        ∀ id, Concerns c user id → c.users.contains id →
          ((w.call.request api).run.alone o.respond c e).state.session.user.map (·.id) = some id := by
  obtain ⟨-, hresult, -⟩ := w.call.perform_alone api o.respond c e
  simp only [Evicts, refetched_iff, and_self, hresult, w.perform_peek? api]
  refine forall_congr' fun user => imp_congr_right fun _ => forall_congr' fun id =>
    imp_congr_right fun _ => ?_
  rw [Cache.contains]
  split
  · next heq => simp [heq]
  · next hne => simp [hne]

/-- What is promised of a change of the own profile, by what its request leaves. -/
structure WrittenEvicted (api : Api) (w : ProfileWrite) (o : Outside E) (c : Client) (e : E)
    (left got : Solo Client Http.Request (fun _ => Http.Answer) E (Outcome Profile)) : Prop where
  result_eq : got.result = left.result
  /-- Whether it succeeds or not, whoever is signed in when the answer is there is dropped, and nobody
  else. -/
  peek?_eq : ∀ id, got.state.users.peek? id =
    if left.state.session.user.map (·.id) = some id then none else c.users.peek? id
  /-- Who is not remembered is asked for, and whoever is remembered is not. -/
  refetched_iff : ∀ id, Refetched api id got.state ↔ got.state.users.peek? id = none
  /-- If it succeeds, the users whom it concerns are dropped if and only if those of them who were
  remembered are signed in when the answer is there. -/
  evicts_iff : Evicts api w o c e ↔ ∀ user, left.result = .ok user → ∀ id, Concerns c user id →
    c.users.contains id → left.state.session.user.map (·.id) = some id

/-- Whatever is answered, and however others change the session meanwhile, a change of the own profile
drops whoever is signed in when the answer is there. -/
theorem written_evicted (api : Api) (w : ProfileWrite) (o : Outside E) (c : Client) (e : E) :
    WrittenEvicted api w o c e ((w.call.request api).run.alone o.respond c e)
      ((w.call.perform api).run.alone o.respond c e) where
  result_eq := (w.call.perform_alone api o.respond c e).2.1
  peek?_eq := w.perform_peek? api o c e
  refetched_iff _ := Api.refetched_iff
  evicts_iff := Api.evicts_iff

/-! ## Somebody else, or nobody, meanwhile -/

namespace Replaced

/-- The client, when the first user is signed in and remembered. -/
def knowing : Client := withUsers (Cache.insert lan.id lan client.users) client

/-- The server answers with the profile of who asked; the session is changed until then. -/
def serverAmid (changes : List Session.Change) : Outside Unit := fun r e =>
  (e, ⟨0, changes, .ok ⟨200, .empty, lan.toJson.render.toUTF8, r.id, 1⟩⟩)

/-- A change of the own profile. -/
def newName : ProfileWrite := .update ⟨some "Lan", none, none⟩

/-- A change of the picture in it. -/
def newPicture : ProfileWrite := .avatar ⟨"lan.png", "image/png", ⟨#[0]⟩⟩

/-- The session ends meanwhile. -/
def ending : List Session.Change := [.signOut]

/-- Somebody else signs in meanwhile. -/
def another : List Session.Change := [.signOut, .signIn ⟨"a2", "r2"⟩ minh]

/-- The change succeeds, and what was remembered before it is remembered still. -/
structure Outlives (w : ProfileWrite) (changes : List Session.Change) : Prop where
  not_evicts : ¬ Evicts api w (serverAmid changes) knowing ()
  kept : ((w.call.perform api).run.alone (serverAmid changes).respond knowing ()).state.users.peek? lan.id =
    some lan

theorem outlives_of_mem : ∀ w ∈ [newName, newPicture], ∀ changes ∈ [ending, another], Outlives w changes := by
  have hleft : ∀ w ∈ [newName, newPicture], ∀ changes ∈ [ending, another],
      let left := (w.call.request api).run.alone (serverAmid changes).respond knowing ()
      left.result.toOption = some lan ∧ left.state.session.user.map (·.id) ≠ some lan.id := by
    decide +kernel
  have hknown : knowing.users.peek? lan.id = some lan := by decide +kernel
  intro w hw changes hchanges
  obtain ⟨hresult, hother⟩ := hleft w hw changes hchanges
  have hok := toOption_eq_some_iff.1 hresult
  refine ⟨fun h => hother (evicts_iff.1 h lan hok lan.id (.inr rfl) ?_), ?_⟩
  · rw [Cache.contains, hknown, Option.isSome_some]
  · rw [w.perform_peek?, if_neg hother, hknown]

/-- That is so for both calls, whether the session ends or another begins. -/
theorem written_kept :
    Outlives newName ending ∧ Outlives newName another ∧ Outlives newPicture ending ∧ Outlives newPicture another :=
  ⟨outlives_of_mem _ (by simp) _ (by simp), outlives_of_mem _ (by simp) _ (by simp),
    outlives_of_mem _ (by simp) _ (by simp), outlives_of_mem _ (by simp) _ (by simp)⟩

end Replaced

end TripClient.Api
