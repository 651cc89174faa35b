import TripClient.Proofs.Http.Insertion
import TripClient.Proofs.Success

/-!
# Building requests

A request is built in steps, and a step that is refused leaves it as it was (`build`). What a step that is
accepted does can be read off the step: it puts in at most one header, and may give the request a body or a
waiting time, within the limits (`Step.Does`). So whatever steps are tried in whatever order, a request
keeps its limits, and its body and its waiting time are the last that were accepted (`built_sound`).

The type of a body is a header, which comes with a JSON body, but does not go with it: a form that takes the
place of a JSON body leaves the type of what it replaces (`typed_iff`).
-/

namespace TripClient.Http

theorem Headers.with?_eq_ok_iff {name value : String} {h h' : Headers} :
    h.with? name value = .ok h' ↔ h.insert name value = (h', .ok ()) := by
  unfold with?
  split
  · next h₁ heq => rw [heq, Except.ok.injEq, Prod.mk.injEq, and_iff_left rfl]
  · next h₁ e heq => exact ⟨nofun, fun hok => by rw [heq] at hok; cases hok⟩

/-- A header is put in if it may be, and there is room. -/
theorem Headers.exists_with?_iff {name value : String} {h : Headers} :
    (∃ h', h.with? name value = .ok h') ↔
      (IsName name ∧ IsValue value) ∧ (h.without name).size < 100 := by
  rw [← insert_eq_ok_iff]
  constructor
  · rintro ⟨h', hok⟩
    rw [with?_eq_ok_iff.1 hok]
  · intro hok
    exact ⟨_, with?_eq_ok_iff.2 (Prod.ext rfl hok)⟩

/-- A header has no bearing on what stands under another name. -/
theorem Headers.get?_with?_of_ne {name name' value : String} {h h' : Headers}
    (hok : h.with? name value = .ok h') (hother : ¬ sameName name name') :
    h'.get? name' = h.get? name' := by
  rw [sameName_comm] at hother
  rw [← get?_without_of_ne hother, without_with? hok, get?_without_of_ne hother]

namespace Request

variable {r r' : Request} {f : Form} {value : Except Json.Cause Json} {milliseconds : Nat}

/-! ## Single steps -/

theorem checkMethod_eq_ok : r.checkMethod = .ok () ↔ r.method.allowsBody := by
  unfold checkMethod
  split
  · next h => exact ⟨fun _ => h, fun _ => rfl⟩
  · next h => exact ⟨nofun, fun hallows => absurd hallows h⟩

theorem checkSize_eq_ok {size : Nat} : checkSize size = .ok () ↔ size ≤ maxBodyBytes := by
  unfold checkSize
  split
  · next h => exact ⟨nofun, fun hle => absurd h (Nat.not_lt.2 hle)⟩
  · next h => exact ⟨fun _ => Nat.not_lt.1 h, fun _ => rfl⟩

/-- A value that can be written becomes the body, and its type a header. -/
theorem withWritten_eq_ok : r.withWritten value = .ok r' ↔ r.method.allowsBody ∧ ∃ v, value = .ok v ∧
    v.render.utf8ByteSize ≤ maxBodyBytes ∧ ∃ headers,
      r.headers.with? "Content-Type" "application/json" = .ok headers ∧
      r' = { r with headers, body := .json v.render } := by
  unfold withWritten
  rw [bind_eq_ok]
  constructor
  · rintro ⟨_, hmethod, h⟩
    refine ⟨checkMethod_eq_ok.1 hmethod, ?_⟩
    cases value with
    | error cause => cases h
    | ok v =>
      obtain ⟨_, hsize, h⟩ := bind_eq_ok.1 h
      obtain ⟨headers, hput, h⟩ := bind_eq_ok.1 h
      exact ⟨v, rfl, checkSize_eq_ok.1 hsize, headers, hput, (Except.ok.inj h).symm⟩
  · rintro ⟨hmethod, v, rfl, hsize, headers, hput, rfl⟩
    refine ⟨(), checkMethod_eq_ok.2 hmethod, bind_eq_ok.2 ⟨(), checkSize_eq_ok.2 hsize, ?_⟩⟩
    exact bind_eq_ok.2 ⟨headers, hput, rfl⟩

theorem withForm_eq_ok : r.withForm f = .ok r' ↔
    r.method.allowsBody ∧ f.size ≤ maxBodyBytes ∧ r' = { r with body := .form f } := by
  unfold withForm
  rw [bind_eq_ok]
  constructor
  · rintro ⟨_, hmethod, h⟩
    obtain ⟨_, hsize, h⟩ := bind_eq_ok.1 h
    exact ⟨checkMethod_eq_ok.1 hmethod, checkSize_eq_ok.1 hsize, (Except.ok.inj h).symm⟩
  · rintro ⟨hmethod, hsize, rfl⟩
    exact ⟨(), checkMethod_eq_ok.2 hmethod, bind_eq_ok.2 ⟨(), checkSize_eq_ok.2 hsize, rfl⟩⟩

theorem withTimeout_eq_ok : r.withTimeout milliseconds = .ok r' ↔
    (1 ≤ milliseconds ∧ milliseconds ≤ maxTimeout) ∧ r' = { r with timeout := milliseconds } := by
  unfold withTimeout
  split
  · next h => exact ⟨nofun, fun hok => by omega⟩
  · next hpos =>
    split
    · next h => exact ⟨nofun, fun hok => by omega⟩
    · next hmax =>
      refine ⟨fun h => ⟨by omega, (Except.ok.inj h).symm⟩, ?_⟩
      rintro ⟨-, rfl⟩
      rfl

/-- A step in which a request is built. -/
inductive Step where
  | header (name value : String)
  | bearer (token : String)
  /-- A JSON body; `value` is an error if there is no text for it. -/
  | json (value : Except Json.Cause Json)
  | form (f : Form)
  | timeout (milliseconds : Nat)

namespace Step

/-- The request after a step, or why the step is refused. -/
def apply : Step → Request → Except Error Request
  | header name value, r => r.withHeader name value
  | bearer token, r => r.withBearer token
  | json value, r => r.withWritten value
  | form f, r => r.withForm f
  | timeout milliseconds, r => r.withTimeout milliseconds

/-- The header that a step puts in. -/
def header? : Step → Option (String × String)
  | header name value => some (name, value)
  | bearer token => some ("Authorization", "Bearer " ++ token)
  | json _ => some ("Content-Type", "application/json")
  | form _ | timeout _ => none

/-- The body that a step gives. -/
def body? : Step → Option Body
  | json (.ok v) => some (.json v.render)
  | form f => some (.form f)
  | header _ _ | bearer _ | json (.error _) | timeout _ => none

/-- The waiting time that a step gives. -/
def timeout? : Step → Option Nat
  | timeout milliseconds => some milliseconds
  | header _ _ | bearer _ | json _ | form _ => none

/-- What a step does to a request that accepts it. -/
structure Does (s : Step) (r r' : Request) : Prop where
  eq : r' = { r with
    headers := r'.headers
    body := s.body?.getD r.body
    timeout := s.timeout?.getD r.timeout }
  put : ∀ e ∈ s.header?, r.headers.with? e.1 e.2 = .ok r'.headers
  kept : s.header? = none → r'.headers = r.headers
  fits : ∀ b ∈ s.body?, r.method.allowsBody ∧ b.size ≤ maxBodyBytes
  waits : ∀ t ∈ s.timeout?, 1 ≤ t ∧ t ≤ maxTimeout
  /-- What cannot be written is never accepted. -/
  written : ∀ value, s = json value → ∃ v, value = .ok v

/-- A header changes nothing else. -/
theorem does_of_withHeader {name value : String} {s : Step} (hs : s.header? = some (name, value))
    (hbody : s.body? = none) (htimeout : s.timeout? = none) (hjson : ∀ value, s ≠ json value)
    (h : r.withHeader name value = .ok r') : s.Does r r' := by
  obtain ⟨hput, heq⟩ := withHeader_eq h
  refine ⟨by rw [hbody, htimeout]; exact heq, ?_, ?_, ?_, ?_, ?_⟩
  · intro e he
    rw [hs] at he
    cases he
    exact hput
  · rw [hs]
    nofun
  · rw [hbody]
    nofun
  · rw [htimeout]
    nofun
  · exact fun value heq => absurd heq (hjson value)

theorem does_of_apply {s : Step} (h : s.apply r = .ok r') : s.Does r r' := by
  cases s with
  | header name value => exact does_of_withHeader rfl rfl rfl nofun h
  | bearer token => exact does_of_withHeader rfl rfl rfl nofun h
  | json value =>
    obtain ⟨hmethod, v, rfl, hsize, headers, hput, rfl⟩ := withWritten_eq_ok.1 h
    refine ⟨rfl, ?_, nofun, ?_, nofun, ?_⟩
    · rintro e ⟨⟩
      exact hput
    · rintro b ⟨⟩
      exact ⟨hmethod, hsize⟩
    · rintro value ⟨⟩
      exact ⟨v, rfl⟩
  | form f =>
    obtain ⟨hmethod, hsize, rfl⟩ := withForm_eq_ok.1 h
    refine ⟨rfl, nofun, fun _ => rfl, ?_, nofun, nofun⟩
    rintro b ⟨⟩
    exact ⟨hmethod, hsize⟩
  | timeout milliseconds =>
    obtain ⟨hwaits, rfl⟩ := withTimeout_eq_ok.1 h
    refine ⟨rfl, nofun, fun _ => rfl, nofun, ?_, nofun⟩
    rintro t ⟨⟩
    exact hwaits

end Step

/-! ## Runs of steps -/

/-- The request after a step that is tried. -/
def step (r : Request) (s : Step) : Request :=
  match s.apply r with
  | .ok r' => r'
  | .error _ => r

/-- The request after some steps that are tried. -/
def build (r : Request) (steps : List Step) : Request := steps.foldl step r

/-- Those of the steps tried that are accepted, in their order. -/
def accepted (r : Request) : List Step → List Step
  | [] => []
  | s :: rest =>
    match s.apply r with
    | .ok r' => s :: r'.accepted rest
    | .error _ => r.accepted rest

/-- The last body that steps give. -/
def lastBody? (steps : List Step) : Option Body := (steps.filterMap Step.body?).getLast?

/-- The last waiting time that steps give. -/
def lastTimeout? (steps : List Step) : Option Nat := (steps.filterMap Step.timeout?).getLast?

/-- What every step preserves that is accepted holds after all steps. -/
theorem build_induction (p : Request → Prop) {steps : List Step}
    (hstep : ∀ s ∈ steps, ∀ r r', s.Does r r' → p r → p r') (hr : p r) : p (r.build steps) := by
  induction steps generalizing r with
  | nil => exact hr
  | cons s rest ih =>
    refine ih (fun s hs => hstep s (List.mem_cons_of_mem _ hs)) ?_
    unfold step
    split
    · next h => exact hstep s List.mem_cons_self r _ (Step.does_of_apply h) hr
    · exact hr

/-- A part of a request that some of the steps set is what the last of them sets that is accepted. -/
theorem build_last {α : Type} (part : Request → α) (set? : Step → Option α) {steps : List Step}
    (hset : ∀ s ∈ steps, ∀ r r', s.Does r r' → part r' = (set? s).getD (part r)) (r : Request) :
    part (r.build steps) = ((r.accepted steps).filterMap set?).getLast?.getD (part r) := by
  induction steps generalizing r with
  | nil => rfl
  | cons s rest ih =>
    have hrest := ih fun s hs => hset s (List.mem_cons_of_mem _ hs)
    have hcons : r.build (s :: rest) = (r.step s).build rest := rfl
    rw [hcons, hrest, step, accepted]
    split
    · next r' h =>
      rw [hset s List.mem_cons_self r r' (Step.does_of_apply h), List.filterMap_cons]
      cases set? s with
      | none => rfl
      | some a => rw [List.getLast?_cons, Option.getD_some, Option.getD_some]
    · rfl

/-- A step among those accepted was accepted by some request. -/
theorem does_of_mem_accepted {steps : List Step} {s : Step} (hs : s ∈ r.accepted steps) :
    s ∈ steps ∧ ∃ r₀ r₁, s.Does r₀ r₁ := by
  induction steps generalizing r with
  | nil => cases hs
  | cons s' rest ih =>
    rw [accepted] at hs
    split at hs
    · next r' h =>
      rcases List.mem_cons.1 hs with rfl | hs
      · exact ⟨List.mem_cons_self, r, r', Step.does_of_apply h⟩
      · exact (ih hs).imp_left (List.mem_cons_of_mem _)
    · exact (ih hs).imp_left (List.mem_cons_of_mem _)

/-! ## Limits -/

/-- The limits that every request keeps. -/
structure Sound (r : Request) : Prop where
  bodiless : r.method = .get ∨ r.method = .delete → r.body = .empty
  small : r.body.size ≤ 50 * 1024 * 1024
  waits : 1 ≤ r.timeout ∧ r.timeout ≤ 300000

theorem sound_plain (method : Method) (a : Address) (id : String) : Sound (plain method a id) where
  bodiless _ := rfl
  small := Nat.zero_le _
  waits := by
    show 1 ≤ usualTimeout ∧ usualTimeout ≤ 300000
    decide

theorem Sound.does {s : Step} (hs : Sound r) (h : s.Does r r') : Sound r' := by
  rw [h.eq]
  refine ⟨fun hmethod => ?_, ?_, ?_⟩
  · cases hbody : s.body? with
    | none => exact hs.bodiless hmethod
    | some b =>
      have hallows := (h.fits b hbody).1
      rcases hmethod with hmethod | hmethod
      all_goals
        rw [hmethod] at hallows
        cases hallows
  · cases hbody : s.body? with
    | none => exact hs.small
    | some b => exact (h.fits b hbody).2
  · cases htimeout : s.timeout? with
    | none => exact hs.waits
    | some t => exact h.waits t htimeout

theorem isName_contentType : Headers.IsName "Content-Type" :=
  Headers.nameRefusal?_eq_none_iff.1 (by decide +kernel)

theorem isValue_json : Headers.IsValue "application/json" := by
  have hnone : Headers.valueRefusal? "Content-Type" "application/json" = none := by decide +kernel
  exact Headers.valueRefusal?_eq_none_iff.1 hnone

/-- A JSON body is accepted if the method allows it, there is a text for it that is not too large, and
there is room for its type. -/
theorem exists_withWritten_iff : (∃ r', r.withWritten value = .ok r') ↔ r.method.allowsBody ∧
    ∃ v, value = .ok v ∧ v.render.utf8ByteSize ≤ 50 * 1024 * 1024 ∧
      (r.headers.without "Content-Type").size < 100 := by
  have hroom : (∃ headers, r.headers.with? "Content-Type" "application/json" = .ok headers) ↔
      (r.headers.without "Content-Type").size < 100 := by
    rw [Headers.exists_with?_iff, and_iff_right ⟨isName_contentType, isValue_json⟩]
  constructor
  · rintro ⟨r', h⟩
    obtain ⟨hmethod, v, rfl, hsize, headers, hput, -⟩ := withWritten_eq_ok.1 h
    exact ⟨hmethod, v, rfl, hsize, hroom.1 ⟨headers, hput⟩⟩
  · rintro ⟨hmethod, v, rfl, hsize, hless⟩
    obtain ⟨headers, hput⟩ := hroom.2 hless
    exact ⟨_, withWritten_eq_ok.2 ⟨hmethod, v, rfl, hsize, headers, hput, rfl⟩⟩

/-- A form is accepted if the method allows a body and it is not too large. -/
theorem exists_withForm_iff :
    (∃ r', r.withForm f = .ok r') ↔ r.method.allowsBody ∧ f.size ≤ 50 * 1024 * 1024 := by
  constructor
  · rintro ⟨r', h⟩
    obtain ⟨hmethod, hsize, -⟩ := withForm_eq_ok.1 h
    exact ⟨hmethod, hsize⟩
  · rintro ⟨hmethod, hsize⟩
    exact ⟨_, withForm_eq_ok.2 ⟨hmethod, hsize, rfl⟩⟩

/-- A token is accepted if it may stand in a header, and there is room for it. -/
theorem exists_withBearer_iff {token : String} : (∃ r', r.withBearer token = .ok r') ↔
    Headers.IsValue ("Bearer " ++ token) ∧ (r.headers.without "Authorization").size < 100 := by
  have hname : Headers.IsName "Authorization" := Headers.nameRefusal?_eq_none_iff.1 (by decide +kernel)
  have hput : (∃ headers, r.headers.with? "Authorization" ("Bearer " ++ token) = .ok headers) ↔
      Headers.IsValue ("Bearer " ++ token) ∧ (r.headers.without "Authorization").size < 100 := by
    rw [Headers.exists_with?_iff, and_iff_right hname]
  rw [← hput]
  constructor
  · rintro ⟨r', h⟩
    exact ⟨_, (withHeader_eq h).1⟩
  · rintro ⟨headers, h⟩
    exact ⟨{ r with headers }, by rw [withBearer, withHeader, h]; rfl⟩

/-- What is true of a request that was built from nothing but a method and an address, whatever steps were
tried, of which some may have been refused. -/
theorem built_sound (method : Method) (a : Address) (id : String) (steps : List Step) :
    let r := (plain method a id).build steps
    let done := (plain method a id).accepted steps
    (r.method = method ∧ r.address = a ∧ r.id = id) ∧ Sound r ∧
      r.body = (lastBody? done).getD .empty ∧ r.timeout = (lastTimeout? done).getD 30000 ∧
      (∀ value, (∃ r', r.withWritten value = .ok r') ↔ method.allowsBody ∧
        ∃ v, value = .ok v ∧ v.render.utf8ByteSize ≤ 50 * 1024 * 1024 ∧
          (r.headers.without "Content-Type").size < 100) ∧
      ∀ f, (∃ r', r.withForm f = .ok r') ↔ method.allowsBody ∧ f.size ≤ 50 * 1024 * 1024 := by
  intro r done
  have hsame : r.method = method ∧ r.address = a ∧ r.id = id := by
    refine build_induction (fun r => r.method = method ∧ r.address = a ∧ r.id = id)
      (fun s _ r r' h hr => ?_) ⟨rfl, rfl, rfl⟩
    rw [h.eq]
    exact hr
  have hsound : Sound r :=
    build_induction Sound (fun s _ r r' h hr => hr.does h) (sound_plain method a id)
  have hbody : r.body = (lastBody? done).getD .empty := by
    refine build_last body Step.body? (fun s _ r r' h => ?_) _
    rw [h.eq]
  have htimeout : r.timeout = (lastTimeout? done).getD 30000 := by
    refine build_last timeout Step.timeout? (fun s _ r r' h => ?_) _
    rw [h.eq]
  refine ⟨hsame, hsound, hbody, htimeout, fun value => ?_, fun f => ?_⟩
  · rw [exists_withWritten_iff, hsame.1]
  · rw [exists_withForm_iff, hsame.1]

/-! ## The type of a body -/

/-- A request says of a JSON body what it is, and says nothing of any other body. -/
def Typed (r : Request) : Prop :=
  r.headers.get? "Content-Type" =
    match r.body with
    | .json _ => some "application/json"
    | .empty | .form _ => none

/-- Steps gave a JSON body, but the last body that they gave is a form. -/
def Overwritten (steps : List Step) : Prop :=
  (∃ value, Step.json value ∈ steps) ∧ ∃ f, lastBody? steps = some (.form f)

/-- The type that a step says the body has. -/
def Step.type? : Step → Option (Option String)
  | json _ => some (some "application/json")
  | header _ _ | bearer _ | form _ | timeout _ => none

/-- What a step that puts in no type of its own does to the type. -/
theorem Step.Does.contentType {s : Step} (h : s.Does r r')
    (hother : ∀ name value, s = header name value → ¬ Headers.sameName name "Content-Type") :
    r'.headers.get? "Content-Type" = (Step.type? s).getD (r.headers.get? "Content-Type") := by
  cases s with
  | header name value => exact Headers.get?_with?_of_ne (h.put _ rfl) (hother name value rfl)
  | bearer token =>
    have hauthorization : ¬ Headers.sameName "Authorization" "Content-Type" := by decide +kernel
    exact Headers.get?_with?_of_ne (h.put _ rfl) hauthorization
  | json value => exact Headers.get?_with? (h.put _ rfl)
  | form f => rw [h.kept rfl]; rfl
  | timeout milliseconds => rw [h.kept rfl]; rfl

section
variable (method : Method) (a : Address) (id : String) {steps : List Step}
  (hother : ∀ name value, Step.header name value ∈ steps → ¬ Headers.sameName name "Content-Type")
include hother

/-- There is a type exactly if a JSON body was ever accepted. -/
theorem contentType_build :
    (∃ value, Step.json value ∈ (plain method a id).accepted steps) ∧
      ((plain method a id).build steps).headers.get? "Content-Type" = some "application/json" ∨
    (¬ ∃ value, Step.json value ∈ (plain method a id).accepted steps) ∧
      ((plain method a id).build steps).headers.get? "Content-Type" = none := by
  have hset : ∀ s ∈ steps, ∀ r r', s.Does r r' → r'.headers.get? "Content-Type" =
      (Step.type? s).getD (r.headers.get? "Content-Type") :=
    fun s hs r r' h => h.contentType fun name value heq => hother name value (heq ▸ hs)
  have hlast := build_last (fun r => r.headers.get? "Content-Type") Step.type? hset (plain method a id)
  have hnone : (plain method a id).headers.get? "Content-Type" = none := rfl
  rw [hnone] at hlast
  cases htypes : (((plain method a id).accepted steps).filterMap Step.type?).getLast? with
  | none =>
    rw [htypes] at hlast
    refine .inr ⟨?_, hlast⟩
    rintro ⟨value, hmem⟩
    rw [List.getLast?_eq_none_iff, List.filterMap_eq_nil_iff] at htypes
    exact nomatch htypes _ hmem
  | some t =>
    rw [htypes] at hlast
    obtain ⟨s, hs, ht⟩ := List.mem_filterMap.1 (List.mem_of_getLast? htypes)
    cases s with
    | json value =>
      cases ht
      exact .inl ⟨⟨value, hs⟩, hlast⟩
    | header | bearer | form | timeout => cases ht

/-- The type of a body is right unless a form has taken the place of a JSON body. -/
theorem typed_iff : Typed ((plain method a id).build steps) ↔
    ¬ Overwritten ((plain method a id).accepted steps) := by
  have hbody := (built_sound method a id steps).2.2.1
  have htype := contentType_build method a id hother
  unfold Typed Overwritten
  rw [hbody]
  cases hlast : lastBody? ((plain method a id).accepted steps) with
  | none =>
    have hnone : ¬ ∃ value, Step.json value ∈ (plain method a id).accepted steps := by
      rintro ⟨value, hmem⟩
      obtain ⟨-, _, _, hdoes⟩ := does_of_mem_accepted hmem
      obtain ⟨v, rfl⟩ := hdoes.written value rfl
      rw [lastBody?, List.getLast?_eq_none_iff, List.filterMap_eq_nil_iff] at hlast
      exact nomatch hlast _ hmem
    rcases htype with ⟨hjson, -⟩ | ⟨-, htype⟩
    · exact absurd hjson hnone
    · exact ⟨fun _ h => hnone h.1, fun _ => htype⟩
  | some b =>
    obtain ⟨s, hs, hb⟩ := List.mem_filterMap.1 (List.mem_of_getLast? hlast)
    cases s with
    | json value =>
      obtain ⟨-, _, _, hdoes⟩ := does_of_mem_accepted hs
      obtain ⟨v, rfl⟩ := hdoes.written value rfl
      cases hb
      rcases htype with ⟨-, htype⟩ | ⟨hnone, -⟩
      · refine ⟨fun _ h => ?_, fun _ => htype⟩
        obtain ⟨f, hform⟩ := h.2
        cases hform
      · exact absurd ⟨_, hs⟩ hnone
    | form f =>
      cases hb
      rcases htype with ⟨hjson, htype⟩ | ⟨hnone, htype⟩
      · refine ⟨fun h => ?_, fun h => absurd ⟨hjson, f, rfl⟩ h⟩
        rw [htype] at h
        cases h
      · exact ⟨fun _ h => hnone h.1, fun _ => htype⟩
    | header | bearer | timeout => cases hb

end

/-- An address for which requests are built. -/
def somewhere : Address := ⟨"https://api.example.com/groups/", "https", "api.example.com"⟩

/-- A form, then a JSON body in its place, then the owner of a token. -/
def retyped : List Step :=
  [.form ⟨[("name", "Hanoi trip")], []⟩, .json (.ok (.object [])), .bearer "token123"]

/-- A JSON body that takes the place of a form brings its type. -/
theorem retyped_not_overwritten :
    (∀ name value, Step.header name value ∈ retyped → ¬ Headers.sameName name "Content-Type") ∧
      Typed ((plain .post somewhere "1").build retyped) ∧
      ¬ Overwritten ((plain .post somewhere "1").accepted retyped) := by
  have hother : ∀ name value, Step.header name value ∈ retyped →
      ¬ Headers.sameName name "Content-Type" := by
    intro name value h
    simp [retyped] at h
  have htyped : Typed ((plain .post somewhere "1").build retyped) := by
    unfold Typed
    decide +kernel
  exact ⟨hother, htyped, (typed_iff .post somewhere "1" hother).1 htyped⟩

/-- A form that takes the place of a JSON body keeps the type `application/json`. -/
theorem form_typed_as_json : ∃ r : Request,
    r = (plain .post somewhere "1").build
      [.json (.ok (.object [])), .form ⟨[("name", "Hanoi trip")], []⟩] ∧
    (∃ f, r.body = .form f) ∧ r.headers.get? "Content-Type" = some "application/json" ∧ ¬ Typed r := by
  refine ⟨_, rfl, ?_, by decide +kernel, ?_⟩
  · have hform : (match ((plain .post somewhere "1").build
        [.json (.ok (.object [])), .form ⟨[("name", "Hanoi trip")], []⟩]).body with
        | .form _ => true
        | .empty | .json _ => false) = true := by decide +kernel
    split at hform
    · next f hbody => exact ⟨f, hbody⟩
    · cases hform
    · cases hform
  · unfold Typed
    decide +kernel

end Request

end TripClient.Http
