import TripClient.Client.Exchange
import TripClient.Text.Blank
import TripClient.Text.Quoted

/-!
# Signing in and out

Who signs in or registers gets tokens and a profile; the session changes only once both are there.
Signing out always ends the session here, whatever the server says to it.
-/

namespace TripClient

/-- What somebody registers with. -/
structure Registration where
  username : String
  email : String
  password : String
  displayName : Option String

namespace Registration

/-- The body that registers somebody. -/
def toJson (r : Registration) : Json :=
  .object ([("username", .string r.username), ("email", .string r.email),
    ("password", .string r.password)] ++ Json.given [("full_name", r.displayName)])

/-- A registration in messages, which never show the password. -/
def summary (r : Registration) : String :=
  "RegisterRequest \x7b username: " ++ Text.quoted r.username ++ ", email: " ++
    Text.quoted r.email ++ ", password: \"[REDACTED]\" \x7d"

end Registration

namespace Api

open Client

/-- The body that signs somebody in. -/
def loginBody (username password : String) : Json :=
  .object [("username", .string (Text.trim username)), ("password", .string password)]

/-- Refuses a user name of blanks and an empty password. -/
def checkSignIn (username password : String) : Outcome Unit :=
  if Text.isBlankText username || password.isEmpty then
    .error (.invalidRequest "Username and password are required")
  else .ok ()

/-- Gets the profile of the owner of a token. -/
def profileOf (api : Api) (access : String) : Work Profile := do
  let r ← api.request .get ["auth", "me"]
  let r ← Work.ofHttp (r.withBearer access)
  let v ← fetch r
  .ofOutcome (Answer.item Profile.decoder (some "user") v)

/-- The tokens in the answer to a sign-in; both have to be there. -/
def signInTokens (v : Json) : Outcome TokenPair :=
  match Tokens.find? v with
  | none => .error (.decode "authentication response has no access token")
  | some (_, none) => .error (.decode "authentication response has no refresh token")
  | some (access, some refresh) => .ok ⟨access, refresh⟩

/-- The profile that an answer has under `user`. -/
def profileIn? (v : Json) : Option Json :=
  match v.get? "user" with
  | some .null => none
  | user => user

/-- Signs in whom the answer of the server is about. -/
def establish (api : Api) (v : Json) : Work Profile := do
  let tokens ← Work.ofOutcome (signInTokens v)
  let user ← match profileIn? v with
    | some u => Work.ofOutcome (Answer.item Profile.decoder none u)
    | none => api.profileOf tokens.access
  Work.ofStep do
    Task.change (onSession (Session.signIn tokens user))
    return .ok user

/-- Signs somebody in. -/
def login (api : Api) (username password : String) : Work Profile := do
  Work.ofOutcome (checkSignIn username password)
  let r ← api.requestWith .post ["auth", "login"] (loginBody username password)
  api.establish (← fetch r)

/-- Registers somebody, who is then signed in. -/
def register (api : Api) (registration : Registration) : Work Profile := do
  Work.ofOutcome (checkSignIn registration.username registration.password)
  let r ← api.requestWith .post ["auth", "register"] registration.toJson
  api.establish (← fetch r)

/-- The request to revoke the tokens of the session as it is then. -/
def revocation (api : Api) : Work Http.Request := do
  let token ← Work.ofStep (Task.look fun c => c.session.refreshToken.elim
    (.error Session.notSignedIn) .ok)
  api.requestWith .post ["auth", "logout"] (refreshBody token)

/-- Ends the session, after telling the server. -/
def endSession (api : Api) : Step Unit := do
  if ← Task.look (·.session.isSignedIn) then
    let _ ← (api.authorizedWith api.revocation).run
  Task.change (onSession Session.signOut)

/-- Drops all that is remembered. -/
def clearCaches : Step Unit := do
  Task.change fun c => c.withUsers c.users.clear
  Task.change fun c => c.withGroups c.groups.clear
  Task.change fun c => c.withPlans c.plans.clear

/-- Ends the session, so that nothing is left for whoever comes next. -/
def logout (api : Api) : Step Unit := do
  api.endSession
  clearCaches

/-- Gets the profile of whoever is signed in, as the server has it now. -/
def currentUser (api : Api) : Work Profile := do
  let user ← api.item Profile.decoder ["auth", "me"] "user"
  Work.ofStep do
    Task.change (onSession (Session.setUser user))
    return .ok user

end Api

end TripClient
