import TripClient.Travel.Profile

/-!
# Plans

A plan is a journey of a group, with a list of activities.
-/

namespace TripClient

/-- A number or `null`. -/
def Json.ofFloat? : Option Float → Json
  | none => .null
  | some x => .number (.float x)

/-- One thing to do on a journey. -/
structure Activity where
  id : ActivityId
  title : String
  description : Option String
  startTime : Option String
  endTime : Option String
  location : Option String
  latitude : Option Float
  longitude : Option Float

namespace Activity

/-- The fields of an activity. -/
def shape : Json.Shape Activity :=
  Activity.mk
    <$> Json.Shape.ofField (.required "id" Id.decoder)
    <*> Json.Shape.ofField (.required "title" .text ["name"])
    <*> Json.Shape.ofField (.optional "description" .text)
    <*> Json.Shape.ofField (.optional "start_time" .text ["start"])
    <*> Json.Shape.ofField (.optional "end_time" .text ["end"])
    <*> Json.Shape.ofField (.optional "location" .text ["location_name"])
    <*> Json.Shape.ofField (.optional "latitude" .float)
    <*> Json.Shape.ofField (.optional "longitude" .float)

/-- How an activity is read. -/
def decoder : Json.Decoder Activity := shape.decode "Activity"

/-- An activity as JSON. -/
def toJson (a : Activity) : Json :=
  .ofMembers [
    ("id", a.id.toJson),
    ("title", .string a.title),
    ("description", .ofText? a.description),
    ("start_time", .ofText? a.startTime),
    ("end_time", .ofText? a.endTime),
    ("location", .ofText? a.location),
    ("latitude", .ofFloat? a.latitude),
    ("longitude", .ofFloat? a.longitude)]

end Activity

/-- A journey of a group. -/
structure Plan where
  id : PlanId
  title : String
  group : Option GroupId
  description : Option String
  destination : Option String
  startDate : Option String
  endDate : Option String
  activities : List Activity

namespace Plan

/-- The fields of a plan. -/
def shape : Json.Shape Plan :=
  Plan.mk
    <$> Json.Shape.ofField (.required "id" Id.decoder)
    <*> Json.Shape.ofField (.required "title" .text ["name"])
    <*> Json.Shape.ofField (.optional "group" Id.decoder ["group_id"])
    <*> Json.Shape.ofField (.optional "description" .text)
    <*> Json.Shape.ofField (.optional "destination" .text)
    <*> Json.Shape.ofField (.optional "start_date" .text)
    <*> Json.Shape.ofField (.optional "end_date" .text)
    <*> Json.Shape.ofField (.withDefault "activities" (.list Activity.decoder) [])

/-- How a plan is read. -/
def decoder : Json.Decoder Plan := shape.decode "Plan"

/-- A plan as JSON. -/
def toJson (p : Plan) : Json :=
  .ofMembers [
    ("id", p.id.toJson),
    ("title", .string p.title),
    ("group", Id.toJson? p.group),
    ("description", .ofText? p.description),
    ("destination", .ofText? p.destination),
    ("start_date", .ofText? p.startDate),
    ("end_date", .ofText? p.endDate),
    ("activities", .array (p.activities.map Activity.toJson))]

end Plan

/-- What is said of a plan when it is created or changed; what is absent is left open. -/
structure PlanDraft where
  title : Option String
  description : Option String
  destination : Option String
  startDate : Option String
  endDate : Option String

/-- The body that creates or changes a plan. -/
def PlanDraft.toJson (d : PlanDraft) : Json :=
  .object (Json.given [
    ("title", d.title),
    ("description", d.description),
    ("destination", d.destination),
    ("start_date", d.startDate),
    ("end_date", d.endDate)])

/-- What is said of an activity when it is created or changed; what is absent is left open. -/
structure ActivityDraft where
  title : Option String
  description : Option String
  startTime : Option String
  endTime : Option String
  location : Option String

/-- The body that creates or changes an activity. -/
def ActivityDraft.toJson (d : ActivityDraft) : Json :=
  .object (Json.given [
    ("title", d.title),
    ("description", d.description),
    ("start_time", d.startTime),
    ("end_time", d.endTime),
    ("location", d.location)])

end TripClient
