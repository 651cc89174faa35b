import TripClient.Url.Path

/-!
# Reading URLs

A URL is read from outside inwards: blanks and controls around it do not count, and neither do tabs
and ends of lines anywhere; then fragment, query and scheme are cut off. What is left is an authority
and a path, or a path alone. On the web a backslash is as good as a slash.
-/

namespace TripClient.Url

/-- Characters that do not count around a URL. -/
def isOutside (c : Char) : Bool := c.toNat ≤ 0x20

/-- Characters that do not count anywhere. -/
def isIgnored (c : Char) : Bool := c == '\t' || c == '\n' || c == '\r'

/-- A text without the characters that do not count. -/
def clean (cs : List Char) : List Char :=
  (((cs.dropWhile isOutside).reverse.dropWhile isOutside).reverse).filter (!isIgnored ·)

/-- Whether a character may stand in a scheme. -/
def isSchemeChar (c : Char) : Bool := c.isAlphanum || c == '+' || c == '-' || c == '.'

/-- The scheme before the first colon, and what follows it. -/
def cutScheme? (cs : List Char) : Option (List Char × List Char) :=
  match Text.cut (· == ':') cs with
  | (scheme, some rest) =>
    if (scheme.head?.map Char.isAlpha).getD false && scheme.all isSchemeChar then
      some (scheme.map Char.toLower, rest)
    else none
  | (_, none) => none

/-- Whether a character parts the segments of a path on the web. -/
def isWebSlash (c : Char) : Bool := c == '/' || c == '\\'

/-- Whether a character parts the segments of any other path. -/
def isSlash (c : Char) : Bool := c == '/'

/-- What stands before the last at sign, if there is one, and what follows it. -/
def cutCredentials (cs : List Char) : Option (List Char) × List Char :=
  match Text.cut (· == '@') cs.reverse with
  | (host, some credentials) => (some credentials.reverse, host.reverse)
  | (_, none) => (none, cs)

/-- The host before the first colon that stands outside brackets, and what follows it; `inside` says
whether a bracket is open. -/
def cutPort (inside : Bool) : List Char → List Char × Option (List Char)
  | [] => ([], none)
  | c :: cs =>
    if c == ':' && !inside then ([], some cs)
    else
      let (host, port) := cutPort (c == '[' || (inside && c != ']')) cs
      (c :: host, port)

/-- Reads a port: digits, up to the end or to a backslash. Gives no port if there are no digits, and
what is left of the text. -/
def readPort (cs : List Char) : Except Error (Option Nat × List Char) :=
  let digits := cs.takeWhile Char.isDigit
  let rest := cs.dropWhile Char.isDigit
  let n := digits.foldl (fun n c => n * 10 + (c.toNat - '0'.toNat)) 0
  if 65535 < n || !(rest.isEmpty || rest.head? == some '\\') then .error .badPort
  else .ok (if digits.isEmpty then none else some n, rest)

/-- Reads a host of a scheme. -/
def readHost (scheme cs : List Char) : Except Error Host :=
  if !isWeb scheme then Host.ofOther cs
  else if cs.isEmpty then .error .emptyHost
  else Host.ofWeb cs

/-- Reads an authority, and gives what is left of its text; `ends` says that the URL ends with it. -/
def readAuthority (scheme : List Char) (ends : Bool) (cs : List Char) :
    Except Error (Authority × List Char) := do
  let (credentials, rest) := cutCredentials cs
  if credentials == some [] && rest.isEmpty && !ends then throw .emptyHost
  let (username, password) := Text.cut (· == ':') (credentials.getD [])
  let username := Percent.encode Percent.inUserinfo username
  let password := (password.filter (!·.isEmpty)).map (Percent.encode Percent.inUserinfo)
  let (hostText, portText) := cutPort false rest
  let host ← readHost scheme hostText
  let nameless := host == .name []
  if nameless && portText.isSome then throw .emptyHost
  let (port, left) ← match portText with
    | some t => readPort t
    | none => .ok (none, [])
  let a : Authority :=
    ⟨username, password, host, port.filter fun n => usualPorts.lookup scheme != some n⟩
  if nameless && a.hasCredentials then throw .emptyHost
  return (a, left)

/-- The path behind an authority, or of a file. On the web there is always one. -/
def readPath (web : Bool) (cs : List Char) : Path :=
  let slash := if web then isWebSlash else isSlash
  match cs with
  | [] => .segments (if web then [[]] else [])
  | c :: rest => .segments (Path.ofChars slash (if slash c then rest else c :: rest))

/-- Reads a URL of the web behind its scheme. -/
def readWeb (scheme : List Char) (ends : Bool) (cs : List Char) :
    Except Error (Authority × Path) := do
  let cs := cs.dropWhile isWebSlash
  let authority := cs.takeWhile (!isWebSlash ·)
  let rest := cs.dropWhile (!isWebSlash ·)
  let (a, left) ← readAuthority scheme (ends && rest.isEmpty) authority
  return (a, readPath true (left ++ rest))

/-- A host that a file may have; the own one is left out. -/
def readFileHost (cs : List Char) : Except Error Host :=
  if cs.isEmpty then .ok (.name [])
  else do
    let host ← Host.ofWeb cs
    return if host == .name "localhost".toList then .name [] else host

/-- A file on a drive has no host, and its drive is written with a colon. -/
def onDrive (a : Authority) (ss : List (List Char)) : Authority × Path :=
  match ss with
  | [c, d] :: rest =>
    if Path.isDrive [c, d] then ({ a with host := .name [] }, .segments ([c, ':'] :: rest))
    else (a, .segments ss)
  | _ => (a, .segments ss)

/-- Reads the URL of a file behind its scheme. -/
def readFile (cs : List Char) : Except Error (Authority × Path) := do
  let (hostText, rest) :=
    match cs with
    | a :: b :: rest =>
      if isWebSlash a && isWebSlash b then
        let host := rest.takeWhile (!isWebSlash ·)
        if host.length == 2 && Path.isDrive host then ([], rest)
        else (host, rest.dropWhile (!isWebSlash ·))
      else ([], cs)
    | _ => ([], cs)
  let host ← readFileHost hostText
  match readPath true rest with
  | .segments ss => return onDrive ⟨[], none, host, none⟩ ss
  | p => return (⟨[], none, host, none⟩, p)

/-- Reads any other URL behind its scheme. -/
def readOther (scheme : List Char) (ends : Bool) (cs : List Char) :
    Except Error (Option Authority × Path) :=
  match cs with
  | '/' :: '/' :: rest => do
    let authority := rest.takeWhile (!isSlash ·)
    let rest := rest.dropWhile (!isSlash ·)
    let (a, left) ← readAuthority scheme (ends && rest.isEmpty) authority
    return (some a, readPath false (left ++ rest))
  | '/' :: rest => .ok (none, .segments (Path.ofChars isSlash rest))
  | _ => .ok (none, .text (Percent.encode Percent.inAny cs))

/-- Reads a URL. -/
def parse (s : String) : Except Error Url := do
  let (cs, fragment) := Text.cut (· == '#') (clean s.toList)
  let (cs, query) := Text.cut (· == '?') cs
  let ends := query.isNone && fragment.isNone
  match cutScheme? cs with
  | none => throw .noScheme
  | some (scheme, rest) =>
    let web := isWeb scheme || scheme == fileScheme
    let (authority, path) ←
      if isWeb scheme then (readWeb scheme ends rest).map fun (a, p) => (some a, p)
      else if scheme == fileScheme then (readFile rest).map fun (a, p) => (some a, p)
      else readOther scheme ends rest
    return {
      scheme, authority, path
      query := query.map (Percent.encode (if web then Percent.inWebQuery else Percent.inQuery))
      fragment := fragment.map (Percent.encode Percent.inFragment) }

end TripClient.Url
