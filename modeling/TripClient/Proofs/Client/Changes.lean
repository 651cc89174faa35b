import TripClient.Proofs.Client.Shape
import TripClient.Proofs.Client.SignIn
import TripClient.Proofs.Session.Refreshing

/-!
# What operations change

What is kept by all changes that operations make is kept by every operation, whatever is answered and
whatever others do meanwhile (`perform_keeps`, `Keeps.alone`): by those of one shape as their parts keep
it (`Calling.keeps`), and by signing in and out (`signIn_keeps`, `endSession_keeps`).
-/

namespace TripClient

namespace Client

variable {α β : Type} {W : Client → Client → Prop}

/-- Every change of the state by the work is one that `W` allows. -/
structure Keeps (W : Client → Client → Prop) (w : Work α) : Prop where
  within : w.run.Within W

theorem Keeps.bind {w : Work α} {k : α → Work β} (hw : Keeps W w) (hk : ∀ a, Keeps W (k a)) :
    Keeps W (w >>= k) := by
  constructor
  rw [run_bind]
  refine hw.within.bind fun outcome => ?_
  cases outcome with
  | ok a => exact (hk a).within
  | error f => trivial

theorem Keeps.map {w : Work α} (hw : Keeps W w) (f : α → β) : Keeps W (f <$> w) := by
  constructor
  rw [run_map]
  exact hw.within.bind fun _ => trivial

theorem Silent.keeps {P : α → Prop} {w : Work α} (hw : Silent W P w) : Keeps W w :=
  ⟨Task.Local.within hw⟩

theorem keeps_ofOutcome (outcome : Outcome α) : Keeps W (Work.ofOutcome outcome) := ⟨trivial⟩

/-- What gives an outcome and changes the state at once. -/
theorem keeps_act {change : Client → Client} {outcome : Client → Outcome α} (h : ∀ c, W c (change c)) :
    Keeps W (Work.ofStep (.act change fun c => .done (outcome c))) :=
  ⟨h, fun _ => trivial⟩

/-- Work leads to a state that is allowed, whatever is answered and whatever others do meanwhile. -/
theorem Keeps.alone {E : Type} (hW : AllowsRequests W) (trans : ∀ c c' c'', W c c' → W c' c'' → W c c'')
    {w : Work α} (hw : Keeps W w) (o : Outside E) (c : Client) (e : E) :
    W c (w.run.alone o.respond c e).state :=
  hw.within.alone hW.refl trans
    (fun _ _ c => hW.session c _ (Session.leads_applyAll _ c.session)) c e

end Client

namespace Api

open Client

section
variable {W : Client → Client → Prop} {α : Type} (hW : AllowsRequests W) (api : Api)
include hW

/-! ## Requests in the name of the session -/

theorem authorizedWith_keeps {build : Work Http.Request} (hbuild : Keeps W build) :
    Keeps W (api.authorizedWith build) := by
  refine ⟨Session.authorized_within.zoom (fun c s hs => hW.session c s hs) fun q => ?_⟩
  cases q with
  | attempt token => exact attempt_within hbuild.within token
  | exchange token => exact exchange_within hW.made api token

variable {api}

/-- What has the shape of an operation changes no more than is allowed. -/
theorem Calling.keeps {t : Step α} (h : Calling api W t) : t.Within W := by
  induction h with
  | quiet ht => exact ht.within
  | authorized r => exact (authorizedWith_keeps hW api (keeps_ofOutcome (.ok r))).within
  | before ht _ ih => exact (ht.mono (fun _ _ h => h.allowed) fun _ => id).within.bind ih
  | after _ hf ih => exact ih.bind fun a => (hf a).within

/-! ## Signing in and out -/

variable (api)

theorem signIn_keeps (way : SignIn) : Keeps W (way.perform api) := by
  have hprepare : Keeps W (api.prepare way) := ⟨(prepare_public hW.made api way).within⟩
  rw [perform_eq]
  exact hprepare.bind fun found =>
    keeps_act fun c => hW.session c _ ((Session.Change.signIn found.1 found.2).leads c.session)

omit hW in
/-- Whoever is signed in is signed out, after the server has been told. -/
theorem endSession_eq :
    api.endSession = .act id fun c =>
      if c.session.isSignedIn then
        (api.authorizedWith api.revocation).run.bind fun _ =>
          .act (onSession Session.signOut) fun _ => .done ()
      else .act (onSession Session.signOut) fun _ => .done () := by
  refine congrArg (Task.act id) (funext fun c => ?_)
  change (Task.done c.session.isSignedIn).bind _ = _
  rw [Task.bind]
  cases c.session.isSignedIn <;> rfl

theorem endSession_keeps : api.endSession.Within W := by
  have hrevocation : Keeps W api.revocation :=
    (keeps_act hW.refl).bind fun token =>
      (requestWith_made hW.made api .post ["auth", "logout"] (refreshBody token)).keeps
  have hsignOut : (Task.act (onSession Session.signOut) fun _ => .done () : Step Unit).Within W :=
    ⟨fun c => hW.session c _ (Session.Change.signOut.leads c.session), fun _ => trivial⟩
  rw [endSession_eq]
  refine ⟨hW.refl, fun c => ?_⟩
  dsimp only
  split
  · exact (authorizedWith_keeps hW api hrevocation).within.bind fun _ => hsignOut
  · exact hsignOut

end

end Api

namespace Operation

open Client

/-- What is kept by all changes of operations is kept by each operation. -/
theorem perform_keeps {W : Client → Client → Prop} (hW : Allows W) (api : Api) {op : Operation}
    (hop : op.Reads W) : Keeps W (op.perform api) := by
  cases h : op.signsInOrOut with
  | false => exact ⟨Api.Calling.keeps hW.requests (perform_calling hW api h hop)⟩
  | true =>
    have hend : api.endSession.Within W := Api.endSession_keeps hW.requests api
    cases op with
    | login username password => exact (Api.signIn_keeps hW.requests api (.login username password)).map _
    | register registration => exact (Api.signIn_keeps hW.requests api (.register registration)).map _
    | endSession => exact ⟨hend.bind fun _ => trivial⟩
    | logout =>
      exact ⟨(hend.bind fun _ => (Api.clearCaches_local hW).within).bind fun _ => trivial⟩
    | _ => cases h

end Operation

end TripClient
