import TripClient.Text.Quoted

/-!
# Forms

A form with files is sent as a body of several parts.
-/

namespace TripClient.Http

/-- One file of a form. -/
structure FilePart where
  field : String
  fileName : String
  contentType : String
  bytes : ByteArray

/-- A file in messages: its size stands for its bytes. -/
def FilePart.summary (p : FilePart) : String :=
  "FilePart \x7b field_name: " ++ Text.quoted p.field ++ ", file_name: " ++ Text.quoted p.fileName ++
    ", content_type: " ++ Text.quoted p.contentType ++ ", size_bytes: " ++ toString p.bytes.size ++
    " \x7d"

/-- A form: named texts, then files. -/
structure Form where
  fields : List (String × String)
  files : List FilePart

/-- How many bytes a form holds, not counting what separates its parts. -/
def Form.size (f : Form) : Nat :=
  f.fields.foldr (fun (name, value) n => name.utf8ByteSize + value.utf8ByteSize + n)
    (f.files.foldr (fun p n => p.bytes.size + n) 0)

end TripClient.Http
