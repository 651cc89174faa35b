import TripClient.Failure.Basic
import TripClient.Http.Form

/-!
# Attachments

A file that is to be sent has a plain name, at least one byte, and not too many. Its type follows
from the ending of its name unless it is given.
-/

namespace TripClient

/-- A file that may be sent. -/
structure Attachment where
  fileName : String
  contentType : String
  bytes : ByteArray

namespace Attachment

/-- The greatest size of a file. -/
def maxBytes : Nat := 10 * 1024 * 1024

/-- What follows the last point of a name, if it has one. -/
def ending? (fileName : String) : Option String :=
  let reversed := fileName.toList.reverse
  if reversed.contains '.' then
    some (String.ofList (reversed.takeWhile (· != '.')).reverse)
  else none

/-- The type of a file with that name. -/
def typeOf (fileName : String) : String :=
  match ((ending? fileName).getD "").map Char.toLower with
  | "jpg" | "jpeg" => "image/jpeg"
  | "png" => "image/png"
  | "gif" => "image/gif"
  | "webp" => "image/webp"
  | "heic" => "image/heic"
  | "pdf" => "application/pdf"
  | "mp4" => "video/mp4"
  | "txt" => "text/plain"
  | _ => "application/octet-stream"

/-- A file to send, after checking its name and its size. -/
def check (fileName contentType : String) (bytes : ByteArray) : Outcome Attachment :=
  if Text.isBlankText fileName || fileName.toList.any (fun c => c == '/' || c == '\\') then
    .error (.invalidRequest "Attachment needs a plain file name")
  else if bytes.isEmpty then .error (.invalidRequest "Attachment is empty")
  else if bytes.size > maxBytes then
    .error (.invalidRequest s!"Attachment is {bytes.size} bytes, the limit is {maxBytes}")
  else .ok ⟨fileName, contentType, bytes⟩

/-- A file to send; without a type the ending of its name decides. -/
def ofBytes (fileName : String) (contentType : Option String) (bytes : ByteArray) :
    Outcome Attachment :=
  check fileName (contentType.getD (typeOf fileName)) bytes

/-- A file in messages: its size stands for its bytes. -/
def summary (a : Attachment) : String :=
  "Attachment \x7b file_name: " ++ Text.quoted a.fileName ++ ", content_type: " ++
    Text.quoted a.contentType ++ ", size_bytes: " ++ toString a.bytes.size ++ " \x7d"

/-- The part of a form that carries the file. -/
def toPart (field : String) (a : Attachment) : Http.FilePart :=
  ⟨field, a.fileName, a.contentType, a.bytes⟩

end Attachment

end TripClient
