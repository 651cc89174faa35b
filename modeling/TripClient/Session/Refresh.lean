import TripClient.Failure.Basic
import TripClient.Session.Basic
import TripClient.Task

/-!
# Requests in the name of a session

A request is made with the token of the session (`authorized`). If the server no longer accepts the
token, the tokens are exchanged for new ones (`refresh`), and the request is made once more. The gate
lets one exchange run at a time; who waited for it finds out by the generation that another has
exchanged the tokens already, and by the epoch that the session is over.
-/

namespace TripClient.Session

/-- What a request in the name of a session needs from outside. -/
inductive Question (β : Type) where
  /-- Make the request with this token. -/
  | attempt (token : Option String)
  /-- Exchange this token for new ones. -/
  | exchange (refreshToken : String)

/-- What comes back. -/
abbrev Answer {β : Type} : Question β → Type
  | .attempt _ => Outcome β
  | .exchange _ => Outcome TokenPair

/-- A task on the session. -/
abbrev Work (β α : Type) : Type := Task Session (Question β) Answer α

variable {β : Type}

/-- Makes the request. -/
def attempt (token : Option String) : Work β (Outcome β) :=
  Task.query (Question.attempt token)

/-- Asks for new tokens. -/
def askForTokens (refreshToken : String) : Work β (Outcome TokenPair) :=
  Task.query (Question.exchange refreshToken)

/-- The failure of who comes too late. -/
def ended : Failure := .unauthorized "Session has ended"

/-- The failure of who is not signed in. -/
def notSignedIn : Failure := .unauthorized "Not signed in"

/-- The outcome for who exchanged the tokens, given the session in which the new ones arrived. -/
def exchanged (epoch : Nat) (tokens : TokenPair) (s : Session) : Outcome String :=
  if s.epoch ≠ epoch then .error ended
  else if s.isSignedIn then .ok tokens.access
  else .error notSignedIn

/-- Exchanges the tokens of the session of that epoch. If that fails, the session is over. -/
def exchangeTokens (epoch : Nat) (refreshToken : String) : Work β (Outcome String) := do
  match ← askForTokens refreshToken with
  | .ok tokens => Task.atomic fun s => (s.exchange epoch tokens, s.exchanged epoch tokens)
  | .error f =>
    Task.change (expire epoch)
    return .error f

/-- Gets a token for who has found that the one of the snapshot is no longer accepted. Whoever holds
the gate sees the session as it is then: it may be over, or have new tokens by now. -/
def refresh (observed : Snapshot) : Work β (Outcome String) :=
  .gated do
    let s ← Task.look id
    if s.epoch ≠ observed.epoch then return .error ended
    else if s.generation ≠ observed.generation then
      let token ← Task.look accessToken
      return token.elim (.error ended) .ok
    else match s.refreshToken with
      | none => return .error notSignedIn
      | some token => exchangeTokens observed.epoch token

/-- Makes a request, and once more with a new token if the first is no longer accepted. If there is no
new token the first failure stands. -/
def authorized : Work β (Outcome β) := do
  let observed ← Task.look snapshot
  match ← attempt observed.token with
  | .ok b => return .ok b
  | .error f =>
    if f.isUnauthorized then
      match ← refresh observed with
      | .ok token => attempt (some token)
      | .error _ => return .error f
    else return .error f

end TripClient.Session
