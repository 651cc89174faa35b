import TripClient.Text.Pieces
import TripClient.Url.Domain.Label

/-!
# Domain names

The name of a host as it is looked up. Its characters are replaced and composed, each label takes
its ASCII form, and none of the characters that have a meaning in addresses may be left. Points may
follow each other, and hyphens may stand anywhere. A name that is in ASCII form stays as it is.
-/

namespace TripClient.Url.Domain

/-- Characters that no domain name holds, once its characters were replaced. -/
def isForbidden (c : Char) : Bool :=
  c.toNat ≤ 0x20 || c.toNat == 0x7F || c.isUpper ||
    ['%', '#', '/', ':', '<', '>', '?', '@', '[', '\\', ']', '^', '|'].contains c

/-- The labels of a name, after its characters were replaced and composed. -/
def labels? (cs : List Char) : Option (List Label) := do
  let replaced ← cs.mapM replace?
  (Text.pieces (· == '.') (Text.compose replaced.flatten)).mapM Label.ofChars?

/-- The ASCII form of a domain name. -/
def toAscii? (cs : List Char) : Option (List Char) := do
  let labels ← labels? cs
  if labels.any fun l => l.ascii.any isForbidden then none
  else if labels.any Label.hasRight && !labels.all Label.keepsDirection then none
  else some (Text.join '.' (labels.map Label.ascii))

end TripClient.Url.Domain
