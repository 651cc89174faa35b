import TripClient.Travel.Profile

/-!
# Sessions

The session says who is signed in and with which tokens. Two counters mark its history: the epoch
moves whenever someone signs in or the session ends, and the generation also when the tokens are
exchanged for new ones. Observers are told of every sign-in and every end.

Observers are told in the step in which the session changes (`Session.signIn`, `Session.finish`).
Between the two the lock on the session is released, and who looks then sees the session as it is and
the status as it was; no step here is so short.
-/

namespace TripClient

/-- The tokens of a session: one to make requests with, one to get the next two. -/
structure TokenPair where
  access : String
  refresh : String
  deriving DecidableEq

namespace TokenPair

/-- A token to make requests with, in messages. -/
def hiddenAccess : String := "AccessToken([REDACTED])"

/-- A token to get the next two with, in messages. -/
def hiddenRefresh : String := "RefreshToken([REDACTED])"

/-- Tokens in messages, which never show them. -/
def summary (_ : TokenPair) : String :=
  "TokenPair \x7b access: " ++ hiddenAccess ++ ", refresh: " ++ hiddenRefresh ++ " \x7d"

end TokenPair

/-- Who is signed in, and with which tokens. -/
structure Credential where
  tokens : TokenPair
  user : Profile
  deriving DecidableEq

/-- Who is signed in, in messages, which never show a token. -/
def Credential.summary (c : Credential) : String :=
  "Credential \x7b access: " ++ TokenPair.hiddenAccess ++ ", refresh: " ++ TokenPair.hiddenRefresh ++
    ", user: " ++ c.user.summary ++ " \x7d"

/-- What observers are told. -/
inductive SessionStatus where
  | signedOut
  | signedIn (user : UserId)
  /-- The session ended because its tokens could not be exchanged. -/
  | expired
  deriving DecidableEq

/-- The state of the session. -/
structure Session where
  credential : Option Credential
  epoch : Nat
  generation : Nat
  /-- What observers were told last. -/
  status : SessionStatus
  /-- How often observers were told. -/
  notices : Nat
  deriving DecidableEq

/-- What a request remembers of the session it was made in. -/
structure Snapshot where
  token : Option String
  epoch : Nat
  generation : Nat
  deriving DecidableEq

namespace Session

/-- Nobody has signed in yet. -/
def initial : Session := ⟨none, 0, 0, .signedOut, 0⟩

/-- Tells observers. -/
def tell (status : SessionStatus) (s : Session) : Session :=
  { s with status, notices := s.notices + 1 }

/-- Somebody signs in, whoever was before. Observers are told in the same step, although that is done
just after the lock on the session is released. -/
def signIn (tokens : TokenPair) (user : Profile) (s : Session) : Session :=
  tell (.signedIn user.id)
    { s with
      credential := some ⟨tokens, user⟩
      epoch := s.epoch + 1
      generation := s.generation + 1 }

/-- The session ends. Observers are told in the same step, although that is done just after the lock on
the session is released. -/
def finish (status : SessionStatus) (s : Session) : Session :=
  tell status
    { s with credential := none, epoch := s.epoch + 1, generation := s.generation + 1 }

/-- Signs out. -/
def signOut (s : Session) : Session := s.finish .signedOut

/-- Ends the session of that epoch, unless another began. -/
def expire (epoch : Nat) (s : Session) : Session :=
  if s.epoch = epoch then s.finish .expired else s

/-- Replaces the profile of whoever is signed in. -/
def setUser (user : Profile) (s : Session) : Session :=
  { s with credential := s.credential.map fun c => { c with user } }

/-- Replaces the tokens of the session of that epoch, unless another began. -/
def exchange (epoch : Nat) (tokens : TokenPair) (s : Session) : Session :=
  match s.credential with
  | some c =>
    if s.epoch = epoch then
      { s with credential := some { c with tokens }, generation := s.generation + 1 }
    else s
  | none => s

/-- Whether somebody is signed in. -/
def isSignedIn (s : Session) : Bool := s.credential.isSome

/-- The token to make requests with. -/
def accessToken (s : Session) : Option String := s.credential.map (·.tokens.access)

/-- The token to get the next two with. -/
def refreshToken (s : Session) : Option String := s.credential.map (·.tokens.refresh)

/-- The profile of whoever is signed in. -/
def user (s : Session) : Option Profile := s.credential.map (·.user)

/-- The session in messages, which never show a token. -/
def summary (s : Session) : String :=
  "SessionStore \x7b signed_in: " ++ toString s.isSignedIn ++ ", epoch: " ++ toString s.epoch ++
    ", generation: " ++ toString s.generation ++ " \x7d"

/-- What a request remembers. -/
def snapshot (s : Session) : Snapshot := ⟨s.accessToken, s.epoch, s.generation⟩

end Session

end TripClient
