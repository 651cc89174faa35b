import TripClient.Cache
import TripClient.Http.Request
import TripClient.Http.Response
import TripClient.Session.Basic
import TripClient.Settings
import TripClient.Travel.Group
import TripClient.Travel.Plan

/-!
# Clients

A client has a session and remembers details of users, groups and plans. Its operations are tasks on
that state; the only questions they ask are requests to the server. What does not change in the life
of a client, the place of the server and the waiting times, is its `Api`.
-/

namespace TripClient

/-- The state of a client. -/
structure Client where
  session : Session
  users : Cache UserId Profile
  groups : Cache GroupId Group
  plans : Cache PlanId Plan
  /-- How many requests have been made. -/
  made : Nat

/-- Where the server is, and how long to wait for it, in milliseconds. -/
structure Api where
  base : Url
  requestTimeout : Nat
  uploadTimeout : Nat

namespace Client

/-- A task on the state of a client. -/
abbrev Step (α : Type) : Type := Task Client Http.Request (fun _ => Http.Answer) α

/-- A task on the state of a client that may fail. -/
abbrev Work (α : Type) : Type := ExceptT Failure (Task Client Http.Request fun _ => Http.Answer) α

/-- A task that may fail, by its outcome. -/
def Work.ofStep {α : Type} (t : Step (Outcome α)) : Work α := ExceptT.mk t

/-- An outcome that is known already. -/
def Work.ofOutcome {α : Type} (o : Outcome α) : Work α := Work.ofStep (.done o)

/-- The result of something that has to do with requests. -/
def Work.ofHttp {α : Type} (r : Except Http.Error α) : Work α := .ofOutcome (r.mapError .ofHttp)

/-- Does something, and changes the state whatever came of it. -/
def Work.andThen {α : Type} (w : Work α) (change : Client → Client) : Work α := .ofStep do
  let outcome ← w.run
  Task.change change
  return outcome

/-- The client with another session. -/
def withSession (session : Session) (c : Client) : Client := { c with session }

/-- Changes the session. -/
def onSession (f : Session → Session) (c : Client) : Client := c.withSession (f c.session)

/-- The client with another cache of users. -/
def withUsers (users : Cache UserId Profile) (c : Client) : Client := { c with users }

/-- The client with another cache of groups. -/
def withGroups (groups : Cache GroupId Group) (c : Client) : Client := { c with groups }

/-- The client with another cache of plans. -/
def withPlans (plans : Cache PlanId Plan) (c : Client) : Client := { c with plans }

/-- Drops a user from the cache. -/
def forgetUser (id : UserId) (c : Client) : Client := c.withUsers (c.users.erase id)

/-- Drops a group from the cache. -/
def forgetGroup (id : GroupId) (c : Client) : Client := c.withGroups (c.groups.erase id)

/-- Drops a plan from the cache. -/
def forgetPlan (id : PlanId) (c : Client) : Client := c.withPlans (c.plans.erase id)

/-- A client that nobody has used. -/
def start (s : Settings) : Client where
  session := .initial
  users := .empty s.cacheCapacity
  groups := .empty s.cacheCapacity
  plans := .empty s.cacheCapacity
  made := 0

end Client

/-- The place of the server and the waiting times in settings, unless the settings are refused. -/
def Api.ofSettings (s : Settings) : Outcome Api := do
  s.check
  return ⟨← s.base, s.requestTimeout, s.uploadTimeout⟩

end TripClient
