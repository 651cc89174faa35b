import TripClient.Url.Host
import TripClient.Url.Query

/-!
# URLs

A URL has a scheme; it may have an authority, which names a host; it has a path, and may have a query
and a fragment. All parts are kept as they are written, with their escapes. `toChars` writes a URL.
-/

namespace TripClient

/-- The part of a URL that names a host. -/
structure Url.Authority where
  username : List Char
  /-- A password, which is not empty. -/
  password : Option (List Char)
  host : Url.Host
  /-- A port, unless it is the usual one. -/
  port : Option Nat
  deriving DecidableEq

/-- The path of a URL. -/
inductive Url.Path where
  /-- Segments, each behind a slash. -/
  | segments (segments : List (List Char))
  /-- A text without segments. -/
  | text (cs : List Char)
  deriving DecidableEq

/-- A URL. -/
structure Url where
  scheme : List Char
  authority : Option Url.Authority
  path : Url.Path
  query : Option (List Char)
  fragment : Option (List Char)
  deriving DecidableEq

namespace Url

/-- The schemes of the web other than `file`, with their usual ports. -/
def usualPorts : List (List Char × Nat) :=
  [("http".toList, 80), ("https".toList, 443), ("ws".toList, 80), ("wss".toList, 443),
    ("ftp".toList, 21)]

/-- The scheme of files. -/
def fileScheme : List Char := "file".toList

/-- Whether a scheme is one of the web, where a URL always has a host and a path. -/
def isWeb (scheme : List Char) : Bool := (usualPorts.lookup scheme).isSome

namespace Authority

/-- Whether there is a user name or a password. -/
def hasCredentials (a : Authority) : Bool := !a.username.isEmpty || a.password.isSome

/-- A user name and a password, as they stand before the host. -/
def credentialsText (a : Authority) : List Char :=
  if a.hasCredentials then
    a.username ++ (match a.password with | some p => ':' :: p | none => []) ++ ['@']
  else []

/-- Writes an authority. -/
def toChars (a : Authority) : List Char :=
  a.credentialsText ++ a.host.toChars ++
    match a.port with
    | some n => ':' :: (Decimal.digitText n).toList
    | none => []

end Authority

namespace Path

/-- Writes a path. -/
def toChars : Path → List Char
  | .segments ss => ss.flatMap ('/' :: ·)
  | .text cs => cs

/-- Whether a path would be taken for an authority. -/
def startsWithGap : Path → Bool
  | .segments ([] :: _ :: _) => true
  | _ => false

end Path

/-- Writes a URL. -/
def toChars (u : Url) : List Char :=
  u.scheme ++ ':' ::
    (match u.authority with
    | some a => '/' :: '/' :: a.toChars
    | none => if u.path.startsWithGap then ['/', '.'] else []) ++
    u.path.toChars ++
    (match u.query with | some q => '?' :: q | none => []) ++
    (match u.fragment with | some f => '#' :: f | none => [])

/-- The text of a URL. -/
def render (u : Url) : String := String.ofList u.toChars

/-- The host of a URL. -/
def host? (u : Url) : Option Host := u.authority.map (·.host)

/-- Whether a URL holds a user name or a password. -/
def hasCredentials (u : Url) : Bool := (u.authority.map Authority.hasCredentials).getD false

end Url

end TripClient
