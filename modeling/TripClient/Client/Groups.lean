import TripClient.Client.Exchange
import TripClient.Travel.Attachment
import TripClient.Travel.Group

/-!
# Groups

Reading groups, and changing them. Whatever changes a group drops it from the cache, even if it
failed, because the server may have changed it nevertheless.
-/

namespace TripClient.Api

open Client

/-- The groups of whoever is signed in. -/
def groups (api : Api) : Work (List Group) := api.list Group.decoder ["groups"] [] "groups"

/-- The details of a group. -/
def group (api : Api) (id : GroupId) (force : Bool) : Work Group :=
  .ofStep (Cache.getOrFetch Client.groups withGroups id force
    (api.item Group.decoder ["groups", id.text] "group").run)

/-- Creates a group. -/
def createGroup (api : Api) (draft : GroupDraft) : Work Group :=
  api.send Group.decoder .post ["groups"] draft.toJson "group"

/-- Changes a group. -/
def updateGroup (api : Api) (id : GroupId) (draft : GroupDraft) : Work Group :=
  (api.send Group.decoder .patch ["groups", id.text] draft.toJson "group").andThen (forgetGroup id)

/-- Deletes a group. -/
def deleteGroup (api : Api) (id : GroupId) : Work Unit :=
  (api.order .delete ["groups", id.text]).andThen (forgetGroup id)

/-- Becomes a member of a group. -/
def joinGroup (api : Api) (id : GroupId) : Work Unit :=
  (api.order .post ["groups", id.text, "join"]).andThen (forgetGroup id)

/-- Is a member of a group no longer. -/
def leaveGroup (api : Api) (id : GroupId) : Work Unit :=
  (api.order .post ["groups", id.text, "leave"]).andThen (forgetGroup id)

/-- The members of a group. -/
def members (api : Api) (id : GroupId) : Work (List Profile) :=
  api.list Profile.decoder ["groups", id.text, "members"] [] "members"

/-- Changes the picture of a group. -/
def uploadCover (api : Api) (id : GroupId) (image : Attachment) : Work Group :=
  (api.upload Group.decoder .post ["groups", id.text, "cover"]
    ⟨[], [image.toPart "cover_image"]⟩ "group").andThen (forgetGroup id)

end TripClient.Api
