import TripClient.Client.Exchange
import TripClient.Text.Blank
import TripClient.Travel.Attachment

/-!
# Users

Reading profiles, and changing the own one.
-/

namespace TripClient.Api

open Client

/-- The profile of a user. -/
def user (api : Api) (id : UserId) (force : Bool) : Work Profile :=
  .ofStep (Cache.getOrFetch Client.users withUsers id force
    (api.item Profile.decoder ["users", id.text] "user").run)

/-- Users that a text is about; nothing but blanks is about nobody. -/
def searchUsers (api : Api) (text : String) : Work (List Profile) :=
  if Text.isBlankText text then return []
  else api.list Profile.decoder ["users", "search"] [("q", Text.trim text)] "users"

/-- What a change of the own profile leads to: it is dropped from the cache, and the session gets the
new one if there is one. -/
def changedProfile (w : Work Profile) : Work Profile := .ofStep do
  let outcome ← w.run
  match ← Task.look (·.session.user) with
  | some me => Task.change (forgetUser me.id)
  | none => pure ()
  match outcome with
  | .ok profile => Task.change (onSession (Session.setUser profile))
  | .error _ => pure ()
  return outcome

/-- Changes the own profile. -/
def updateProfile (api : Api) (change : ProfileChange) : Work Profile :=
  changedProfile (api.send Profile.decoder .patch ["auth", "me"] change.toJson "user")

/-- Changes the picture in the own profile. -/
def uploadAvatar (api : Api) (image : Attachment) : Work Profile :=
  changedProfile (api.upload Profile.decoder .patch ["auth", "me", "avatar"]
    ⟨[], [image.toPart "avatar"]⟩ "user")

end TripClient.Api
