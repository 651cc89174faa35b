import TripClient.Answer.Listing
import TripClient.Client.Basic
import TripClient.Client.Tokens
import TripClient.Session.Refresh

/-!
# Requests to the server

A request is made for an endpoint (`Api.request`) and sent, either as it is (`Client.fetch`) or in
the name of the session (`Api.authorized`). An answer counts only if its status is a success; its
body is JSON, and no body stands for `null`.
-/

namespace TripClient

namespace Client

/-- The digits of a number in base sixteen, with zeros in front if there are fewer than `width`. -/
def hexText (width n : Nat) : String :=
  let digits := Nat.toDigits 16 n
  String.ofList (List.replicate (width - digits.length) '0' ++ digits)

/-- The id of the request that was made after `n` others. -/
def requestId (n : Nat) : String := "00000000-0000-4000-8000-" ++ hexText 12 n

/-- The id of a new request. -/
def newId : Step String :=
  Task.atomic fun c => ({ c with made := c.made + 1 }, requestId c.made)

/-- The value in the answer to a request. -/
def valueOf (r : Http.Request) (answer : Http.Answer) : Outcome Json := do
  let response ← answer.mapError .ofHttp
  if !response.isSuccess then
    throw (((Failure.ofStatus response.status response.body).withInternal
      (r.method.name ++ " " ++ r.address.path)).withContext "request_id" response.requestId)
  if !response.hasBody then return .null
  (response.read .any).mapError .ofHttp

/-- Sends a request as it is. -/
def fetch (r : Http.Request) : Work Json := .ofStep do
  let answer ← Task.query r
  return valueOf r answer

end Client

namespace Api

open Client

/-- Named values behind a path. -/
abbrev Query := List (String × String)

/-- The address of an endpoint. -/
def endpoint (api : Api) (segments : List String) (query : Query) : Outcome Http.Address :=
  (Http.Address.ofUrl (api.base.endpoint segments query)).mapError .ofHttp

/-- A new request for an endpoint. -/
def request (api : Api) (method : Http.Method) (segments : List String) (query : Query := []) :
    Work Http.Request := do
  let address ← Work.ofOutcome (api.endpoint segments query)
  let id ← newId
  .ofHttp ((Http.Request.plain method address id).withTimeout api.requestTimeout)

/-- A new request with a JSON body. -/
def requestWith (api : Api) (method : Http.Method) (segments : List String) (body : Json) :
    Work Http.Request := do
  let r ← api.request method segments
  .ofHttp (r.withJson body)

/-- The body that says which token to exchange or to revoke. -/
def refreshBody (refreshToken : String) : Json := .object [("refresh", .string refreshToken)]

/-- The tokens in the answer to an exchange. The old token stays if there is no new one. -/
def newTokens (refreshToken : String) (v : Json) : Outcome TokenPair :=
  match Tokens.find? v with
  | some (access, refresh) => .ok ⟨access, refresh.getD refreshToken⟩
  | none => .error (.decode "refresh response has no access token")

/-- Exchanges a token for new ones. -/
def exchange (api : Api) (refreshToken : String) : Work TokenPair := do
  let r ← api.requestWith .post ["auth", "token", "refresh"] (refreshBody refreshToken)
  let v ← fetch r
  .ofOutcome (newTokens refreshToken v)

/-- Sends a request with a token, if there is one. -/
def attempt (build : Work Http.Request) (token : Option String) : Work Json := do
  let r ← build
  match token with
  | some t => fetch (← Work.ofHttp (r.withBearer t))
  | none => fetch r

/-- What the session needs for a request in its name. -/
def answer (api : Api) (build : Work Http.Request) :
    (q : Session.Question Json) → Step (Session.Answer q)
  | .attempt token => (attempt build token).run
  | .exchange token => (api.exchange token).run

/-- Sends a request in the name of the session. It is built for each attempt, so that it may say what
the session is then. -/
def authorizedWith (api : Api) (build : Work Http.Request) : Work Json :=
  .ofStep (Session.authorized.within Client.session Client.withSession (api.answer build))

/-- Sends a request in the name of the session. -/
def authorized (api : Api) (r : Http.Request) : Work Json := api.authorizedWith (pure r)

variable {α : Type}

/-- Gets a page of things. -/
def page (api : Api) (d : Json.Decoder α) (segments : List String) (query : Query) (name : String) :
    Work (Page α) := do
  let r ← api.request .get segments query
  let v ← api.authorized r
  .ofOutcome (Page.ofJson d (some name) v)

/-- Gets a list of things. -/
def list (api : Api) (d : Json.Decoder α) (segments : List String) (query : Query) (name : String) :
    Work (List α) := do
  return (← api.page d segments query name).items

/-- Gets one thing. -/
def item (api : Api) (d : Json.Decoder α) (segments : List String) (name : String) : Work α := do
  let r ← api.request .get segments
  let v ← api.authorized r
  .ofOutcome (Answer.item d (some name) v)

/-- Sends a JSON body, and gets one thing. -/
def send (api : Api) (d : Json.Decoder α) (method : Http.Method) (segments : List String)
    (body : Json) (name : String) : Work α := do
  let r ← api.requestWith method segments body
  let v ← api.authorized r
  .ofOutcome (Answer.item d (some name) v)

/-- Sends a request, perhaps with a JSON body, whose answer says no more than that it was fulfilled. -/
def order (api : Api) (method : Http.Method) (segments : List String) (body : Option Json := none) :
    Work Unit := do
  let r ← match body with
    | some v => api.requestWith method segments v
    | none => api.request method segments
  let _ ← api.authorized r

/-- Sends a form, for which there is more time, and gets one thing. -/
def upload (api : Api) (d : Json.Decoder α) (method : Http.Method) (segments : List String)
    (form : Http.Form) (name : String) : Work α := do
  let r ← api.request method segments
  let r ← Work.ofHttp (r.withTimeout api.uploadTimeout)
  let r ← Work.ofHttp (r.withForm form)
  let v ← api.authorized r
  .ofOutcome (Answer.item d (some name) v)

end Api

end TripClient
