/-!
# Media types

A media type is written as a type and a subtype with a slash between them, and then parameters, each
behind a semicolon. The value of a parameter may stand in quotes.
-/

namespace TripClient.Http.MediaType

/-- The marks that may stand in a word. -/
def marks : List Char :=
  ['!', '#', '$', '%', '&', '\'', '*', '+', '-', '.', '^', '_', '\x60', '|', '~']

/-- Whether a character may stand in a word. -/
def isWordChar (c : Char) : Bool := c.isAlphanum || marks.contains c

/-- Whether a character may stand in quotes. -/
def isQuotable (c : Char) : Bool := 0x20 ≤ c.toNat && c.toNat != 0x7f

/-- What follows the word at the front. -/
def behindWord (s : List Char) : List Char := s.dropWhile isWordChar

/-- What follows a semicolon, perhaps with blanks before it; nothing follows the end. -/
def behindSemicolon? : List Char → Option (List Char)
  | [] => some []
  | ';' :: rest => some rest
  | ' ' :: rest => behindSemicolon? rest
  | _ => none

/-- What follows a value in quotes and the semicolon behind it. The first character of the value may
be a quote itself. -/
def behindQuoted? : List Char → Option (List Char)
  | [] => none
  | c :: rest =>
    if isQuotable c then
      let inner := rest.dropWhile fun c => c != '"' && isQuotable c
      match inner with
      | '"' :: rest => behindSemicolon? rest
      | _ => none
    else none

/-- What follows a value and the semicolon behind it. -/
def behindValue? : List Char → Option (List Char)
  | '"' :: rest => behindQuoted? rest
  | s =>
    match behindWord s with
    | [] => some []
    | ';' :: rest => if behindWord s = s then none else some rest
    | _ => none

/-- Whether a text is a list of parameters. -/
def isParameters : (fuel : Nat) → List Char → Bool
  | _, [] => true
  | 0, _ => false
  | fuel + 1, ' ' :: rest => isParameters fuel rest
  | fuel + 1, s =>
    match behindWord s with
    | '=' :: rest =>
      if behindWord s = s then false
      else match behindValue? rest with
        | some rest => isParameters fuel rest
        | none => false
    | _ => false

/-- Whether a text is a subtype, perhaps with parameters. -/
def isSubtype (s : List Char) : Bool :=
  match behindWord s with
  | [] => true
  | ';' :: rest => behindWord s != s && isParameters rest.length rest
  | _ => false

/-- Whether a text is a media type. -/
def isValid (text : String) : Bool :=
  let s := text.toList
  match behindWord s with
  | '/' :: rest => behindWord s != s && isSubtype rest
  | _ => false

end TripClient.Http.MediaType
