/-!
# Texts in pieces

A text with separators is a list of pieces, and a list of pieces is a text with separators
(`join_pieces`). No piece holds a separator.
-/

namespace TripClient.Text

/-- The pieces between the separators; there is always at least one. -/
def pieces (isSeparator : Char → Bool) : List Char → List (List Char)
  | [] => [[]]
  | c :: cs =>
    if isSeparator c then [] :: pieces isSeparator cs
    else match pieces isSeparator cs with
      | [] => [[c]]
      | p :: ps => (c :: p) :: ps

/-- Pieces with a separator between each two. -/
def join (separator : Char) : List (List Char) → List Char
  | [] => []
  | [p] => p
  | p :: q :: ps => p ++ separator :: join separator (q :: ps)

/-- What stands before the first character that satisfies `stop`, and what follows that character;
nothing follows if there is none. -/
def cut (stop : Char → Bool) : List Char → List Char × Option (List Char)
  | [] => ([], none)
  | c :: cs =>
    if stop c then ([], some cs)
    else
      let (before, after) := cut stop cs
      (c :: before, after)

/-- There is a first piece. -/
theorem pieces_ne_nil (isSeparator : Char → Bool) (cs : List Char) :
    pieces isSeparator cs ≠ [] := by
  unfold pieces
  split
  · simp
  · split
    · simp
    · split <;> simp

/-- A separator between the pieces of a text gives the text back. -/
theorem join_pieces (separator : Char) (cs : List Char) :
    join separator (pieces (· == separator) cs) = cs := by
  induction cs with
  | nil => rfl
  | cons c cs ih =>
    unfold pieces
    obtain ⟨p, ps, hp⟩ := List.exists_cons_of_ne_nil (pieces_ne_nil (· == separator) cs)
    rw [hp] at ih ⊢
    split
    · next h =>
      rw [beq_iff_eq] at h
      simp [join, ih, h]
    · cases ps with
      | nil => simpa [join] using ih
      | cons q qs => simpa [join] using ih

end TripClient.Text
