import TripClient.Client.Exchange
import TripClient.Travel.Plan

/-!
# Plans

Reading plans and their activities, and changing them. A plan holds its activities, so whatever
changes one of them drops the plan from the cache too.
-/

namespace TripClient.Api

open Client

/-- The plans of a group. -/
def plans (api : Api) (group : GroupId) : Work (List Plan) :=
  api.list Plan.decoder ["groups", group.text, "plans"] [] "plans"

/-- The details of a plan. -/
def plan (api : Api) (id : PlanId) (force : Bool) : Work Plan :=
  .ofStep (Cache.getOrFetch Client.plans withPlans id force
    (api.item Plan.decoder ["plans", id.text] "plan").run)

/-- Creates a plan of a group. -/
def createPlan (api : Api) (group : GroupId) (draft : PlanDraft) : Work Plan :=
  api.send Plan.decoder .post ["groups", group.text, "plans"] draft.toJson "plan"

/-- Changes a plan. -/
def updatePlan (api : Api) (id : PlanId) (draft : PlanDraft) : Work Plan :=
  (api.send Plan.decoder .patch ["plans", id.text] draft.toJson "plan").andThen (forgetPlan id)

/-- Deletes a plan. -/
def deletePlan (api : Api) (id : PlanId) : Work Unit :=
  (api.order .delete ["plans", id.text]).andThen (forgetPlan id)

/-- The activities of a plan. -/
def activities (api : Api) (plan : PlanId) : Work (List Activity) :=
  api.list Activity.decoder ["plans", plan.text, "activities"] [] "activities"

/-- Adds an activity to a plan. -/
def addActivity (api : Api) (plan : PlanId) (draft : ActivityDraft) : Work Activity :=
  (api.send Activity.decoder .post ["plans", plan.text, "activities"] draft.toJson
    "activity").andThen (forgetPlan plan)

/-- Changes an activity of a plan. -/
def updateActivity (api : Api) (plan : PlanId) (id : ActivityId) (draft : ActivityDraft) :
    Work Activity :=
  (api.send Activity.decoder .patch ["plans", plan.text, "activities", id.text] draft.toJson
    "activity").andThen (forgetPlan plan)

/-- Deletes an activity of a plan. -/
def deleteActivity (api : Api) (plan : PlanId) (id : ActivityId) : Work Unit :=
  (api.order .delete ["plans", plan.text, "activities", id.text]).andThen (forgetPlan plan)

end TripClient.Api
