import TripClient.Http.Transport
import TripClient.Proofs.Success

/-!
# What is taken in of a body

A chunk is taken in exactly if what is held does not pass the cap with it, and one that is left out changes
nothing (`push_of_le`, `push_of_lt`). So chunks are taken in as a whole if they are not too much together
(`pushAll_of_le`); otherwise there is a first one that is too much, and what is before it is held
(`pushAll_of_lt`). Neither depends on where the chunks are cut, and so does not whether there is a body, and
which (`read_capped`).

Sizes are counted up to the greatest number there is. That has no bearing on the answer unless the cap is
that number, and a size is more (`Seen`). The cap of what sends requests never is (`Transport.cap_bounds`), so
no response has a larger body than the settings allow (`Transport.body_of_receive`).
-/

namespace TripClient.Http

namespace Intake

variable {cap size : Nat} {i : Intake} {chunk : List UInt8} {chunks : List (List UInt8)}

/-! ## Sizes -/

/-- Whether it can be seen if a size is more than the cap: there is a number beyond the cap, or one for the
size. -/
def Seen (cap size : Nat) : Prop := cap < Settings.maxWord ∨ size ≤ Settings.maxWord

theorem Seen.mono {size' : Nat} (h : Seen cap size') (hle : size ≤ size') : Seen cap size :=
  h.imp_right (Nat.le_trans hle)

/-- A size that is more than the cap is so as it is counted. -/
theorem Seen.lt_counted (h : Seen cap size) (hlt : cap < size) : cap < counted size := by
  refine Nat.lt_min.2 ⟨hlt, ?_⟩
  rcases h with h | h
  · exact h
  · exact Nat.lt_of_lt_of_le hlt h

theorem checkSize_of_le (h : size ≤ cap) : checkSize cap size = .ok () :=
  if_neg (Nat.not_lt.2 (Nat.le_trans (Nat.min_le_left _ _) h))

theorem checkSize_of_lt (hseen : Seen cap size) (h : cap < size) :
    checkSize cap size = .error (.responseTooLarge (counted size) cap) :=
  if_pos (hseen.lt_counted h)

/-! ## One chunk -/

/-- A chunk is taken in that is not too much. -/
theorem push_of_le (h : i.held.length + chunk.length ≤ i.cap) :
    i.push chunk = (⟨i.cap, i.held ++ chunk⟩, .ok ()) := by
  rw [push, checkSize_of_le h]

/-- A chunk that is too much is left out. -/
theorem push_of_lt (hseen : Seen i.cap (i.held.length + chunk.length))
    (h : i.cap < i.held.length + chunk.length) : i.push chunk =
      (i, .error (.responseTooLarge (counted (i.held.length + chunk.length)) i.cap)) := by
  rw [push, checkSize_of_lt hseen h]

/-- What is held stays as it is if a chunk is left out. -/
theorem push_of_error (herror : (i.push chunk).2 ≠ .ok ()) : (i.push chunk).1 = i := by
  unfold push at herror ⊢
  split
  · rfl
  · next hok =>
    rw [hok] at herror
    exact absurd rfl herror

/-! ## All chunks -/

/-- Chunks are taken in that are not too much together. -/
theorem pushAll_of_le (h : i.held.length + chunks.flatten.length ≤ i.cap) :
    i.pushAll chunks = (⟨i.cap, i.held ++ chunks.flatten⟩, .ok ()) := by
  induction chunks generalizing i with
  | nil => rw [List.flatten_nil, List.append_nil, pushAll]
  | cons chunk rest ih =>
    rw [List.flatten_cons, List.length_append, ← Nat.add_assoc] at h
    have hrest : (i.held ++ chunk).length + rest.flatten.length ≤ i.cap := by
      rwa [List.length_append]
    rw [pushAll, push_of_le (Nat.le_trans (Nat.le_add_right _ _) h)]
    exact (ih hrest).trans (by rw [List.flatten_cons, List.append_assoc])

/-- Chunks that are taken in are followed by the others. -/
theorem pushAll_append {i' : Intake} {taken rest : List (List UInt8)}
    (h : i.pushAll taken = (i', .ok ())) : i.pushAll (taken ++ rest) = i'.pushAll rest := by
  induction taken generalizing i with
  | nil =>
    cases h
    rfl
  | cons chunk taken ih =>
    rw [List.cons_append, pushAll]
    rw [pushAll] at h
    split at h
    · exact ih h
    · cases h

/-- Where chunks come to more than the cap together, there is a first one with which they do. -/
theorem exists_passing {n : Nat} (hn : n ≤ cap) (h : cap < n + chunks.flatten.length) :
    ∃ taken chunk rest, chunks = taken ++ chunk :: rest ∧
      n + taken.flatten.length ≤ cap ∧ cap < n + taken.flatten.length + chunk.length := by
  induction chunks generalizing n with
  | nil => exact absurd h (Nat.not_lt.2 hn)
  | cons chunk rest ih =>
    by_cases hchunk : n + chunk.length ≤ cap
    · rw [List.flatten_cons, List.length_append, ← Nat.add_assoc] at h
      obtain ⟨taken, passing, rest', rfl, hle, hlt⟩ := ih hchunk h
      refine ⟨chunk :: taken, passing, rest', rfl, ?_, ?_⟩
      · rwa [List.flatten_cons, List.length_append, ← Nat.add_assoc]
      · rwa [List.flatten_cons, List.length_append, ← Nat.add_assoc]
    · exact ⟨[], chunk, rest, rfl, hn, Nat.lt_of_not_le hchunk⟩

/-- Of chunks that are too much together, those at the front are taken in that are not. -/
theorem pushAll_of_lt (hheld : i.held.length ≤ i.cap)
    (hseen : Seen i.cap (i.held.length + chunks.flatten.length))
    (h : i.cap < i.held.length + chunks.flatten.length) :
    ∃ (taken : List (List UInt8)) (size : Nat), taken <+: chunks ∧
      i.held.length + taken.flatten.length ≤ i.cap ∧ i.cap < size ∧
      i.pushAll chunks = (⟨i.cap, i.held ++ taken.flatten⟩, .error (.responseTooLarge size i.cap)) := by
  obtain ⟨taken, chunk, rest, rfl, hle, hlt⟩ := exists_passing hheld h
  -- The size that is too much is counted, as it is no more than that of all chunks.
  have hpassing : (i.held ++ taken.flatten).length + chunk.length ≤
      i.held.length + (taken ++ chunk :: rest).flatten.length := by
    simp only [List.flatten_append, List.flatten_cons, List.length_append]
    omega
  have hchunk : Seen i.cap ((i.held ++ taken.flatten).length + chunk.length) := hseen.mono hpassing
  rw [← List.length_append] at hlt
  refine ⟨taken, _, List.prefix_append _ _, hle, hchunk.lt_counted hlt, ?_⟩
  rw [pushAll_append (pushAll_of_le hle), pushAll, push_of_lt hchunk hlt]

/-- No more is ever held than the cap. -/
theorem length_held_pushAll (hheld : i.held.length ≤ i.cap)
    (hseen : Seen i.cap (i.held.length + chunks.flatten.length)) :
    (i.pushAll chunks).1.held.length ≤ i.cap := by
  rcases Nat.lt_or_ge i.cap (i.held.length + chunks.flatten.length) with h | h
  · obtain ⟨taken, size, -, hle, -, heq⟩ := pushAll_of_lt hheld hseen h
    rwa [heq, List.length_append]
  · rwa [pushAll_of_le h, List.length_append]

/-! ## Whole bodies -/

variable {declared : Option Nat}

/-- What a body is of which neither the declared length nor the length is more than the cap. -/
structure Fits (cap : Nat) (declared : Option Nat) (chunks : List (List UInt8)) : Prop where
  declared : ∀ size ∈ declared, size ≤ cap
  length : chunks.flatten.length ≤ cap

theorem checkDeclared_of_le (h : ∀ size ∈ declared, size ≤ cap) : checkDeclared cap declared = .ok () := by
  cases declared with
  | none => rfl
  | some size => exact checkSize_of_le (h size rfl)

theorem checkDeclared_of_not_le (hseen : ∀ size ∈ declared, Seen cap size)
    (h : ¬ ∀ size ∈ declared, size ≤ cap) :
    ∃ size, cap < size ∧ checkDeclared cap declared = .error (.responseTooLarge size cap) := by
  cases declared with
  | none => exact absurd nofun h
  | some size =>
    have hlt : cap < size := Nat.lt_of_not_le fun hle => h fun _ hsize => Option.some.inj hsize ▸ hle
    exact ⟨_, (hseen size rfl).lt_counted hlt, checkSize_of_lt (hseen size rfl) hlt⟩

/-- Nothing is held at first. -/
theorem length_held_empty_add (cap n : Nat) : (empty cap).held.length + n = n := Nat.zero_add n

/-- A body that fits is all chunks together. -/
theorem read_of_fits (h : Fits cap declared chunks) : read cap declared chunks = .ok chunks.flatten := by
  have hle : (empty cap).held.length + chunks.flatten.length ≤ cap := by
    rw [length_held_empty_add]
    exact h.length
  rw [read, checkDeclared_of_le h.declared, ok_bind, pushAll_of_le hle]
  rfl

/-- There is no body if it does not fit. -/
theorem read_of_not_fits (hdeclared : ∀ size ∈ declared, Seen cap size)
    (hchunks : Seen cap chunks.flatten.length) (h : ¬ Fits cap declared chunks) :
    ∃ size, cap < size ∧ read cap declared chunks = .error (.responseTooLarge size cap) := by
  by_cases hle : ∀ size ∈ declared, size ≤ cap
  · have hlt : cap < chunks.flatten.length := Nat.lt_of_not_le fun hlength => h ⟨hle, hlength⟩
    rw [← length_held_empty_add cap chunks.flatten.length] at hchunks hlt
    obtain ⟨taken, size, -, -, hsize, hall⟩ := pushAll_of_lt (i := empty cap) (Nat.zero_le cap) hchunks hlt
    refine ⟨size, hsize, ?_⟩
    rw [read, checkDeclared_of_le hle, ok_bind, hall]
    rfl
  · obtain ⟨size, hsize, hrefused⟩ := checkDeclared_of_not_le hdeclared hle
    refine ⟨size, hsize, ?_⟩
    rw [read, hrefused]
    rfl

/-- There is a body exactly if it fits, and it is all chunks together. -/
theorem read_eq_ok_iff {body : List UInt8} (hdeclared : ∀ size ∈ declared, Seen cap size)
    (hchunks : Seen cap chunks.flatten.length) :
    read cap declared chunks = .ok body ↔ Fits cap declared chunks ∧ body = chunks.flatten := by
  by_cases hfits : Fits cap declared chunks
  · rw [read_of_fits hfits, Except.ok.injEq, and_iff_right hfits, eq_comm]
  · obtain ⟨size, -, hrefused⟩ := read_of_not_fits hdeclared hchunks hfits
    rw [hrefused]
    exact ⟨nofun, fun h => absurd h.1 hfits⟩

/-- What a cap does to a body that is read. -/
structure Capped (cap : Nat) (declared : Option Nat) (chunks : List (List UInt8)) : Prop where
  /-- The body is all chunks together exactly if it fits. -/
  whole : read cap declared chunks = .ok chunks.flatten ↔ Fits cap declared chunks
  /-- If it does not fit that is the error, which tells the cap and a size beyond it. -/
  refused : ¬ Fits cap declared chunks →
    ∃ size, cap < size ∧ read cap declared chunks = .error (.responseTooLarge size cap)
  /-- However many chunks have arrived, no more is held than the cap. -/
  held : ∀ arrived, arrived <+: chunks → ((empty cap).pushAll arrived).1.held.length ≤ cap
  /-- A chunk that is left out changes nothing, whatever is held. -/
  kept : ∀ (i : Intake) (chunk : List UInt8), (i.push chunk).2 ≠ .ok () → (i.push chunk).1 = i
  /-- Whether there is a body, and which, does not depend on where the chunks are cut. -/
  recut : ∀ chunks' : List (List UInt8), chunks'.flatten = chunks.flatten →
    (read cap declared chunks').toOption = (read cap declared chunks).toOption

/-- A body is read in full or not at all, as its size and the declared one are within the cap, however it
is cut into chunks; and there is never more of it held than the cap. -/
theorem read_capped (hdeclared : ∀ size ∈ declared, Seen cap size)
    (hchunks : Seen cap chunks.flatten.length) : Capped cap declared chunks where
  whole := (read_eq_ok_iff hdeclared hchunks).trans (and_iff_left rfl)
  refused := read_of_not_fits hdeclared hchunks
  held arrived harrived := by
    have hle : arrived.flatten.length ≤ chunks.flatten.length := by
      obtain ⟨rest, rfl⟩ := harrived
      rw [List.flatten_append, List.length_append]
      exact Nat.le_add_right _ _
    have hseen : Seen cap ((empty cap).held.length + arrived.flatten.length) := by
      rw [length_held_empty_add]
      exact hchunks.mono hle
    exact length_held_pushAll (Nat.zero_le cap) hseen
  kept _ _ := push_of_error
  recut chunks' hsame := by
    have hfits : Fits cap declared chunks' ↔ Fits cap declared chunks := by
      constructor
      · intro h
        exact ⟨h.declared, hsame ▸ h.length⟩
      · intro h
        exact ⟨h.declared, hsame ▸ h.length⟩
    have hchunks' : Seen cap chunks'.flatten.length := hsame ▸ hchunks
    refine Option.ext fun body => ?_
    rw [toOption_eq_some_iff, toOption_eq_some_iff, read_eq_ok_iff hdeclared hchunks,
      read_eq_ok_iff hdeclared hchunks', hfits, hsame]

/-- Nine bytes in four chunks, one of them empty. -/
def nine : List (List UInt8) := [[49, 50, 51, 52], [53, 54, 55, 56], [], [57]]

/-- Nine bytes that are said to be eight. -/
theorem nine_capped :
    (∀ size ∈ some 8, Seen 8 size) ∧ Seen 8 nine.flatten.length ∧ Capped 8 (some 8) nine := by
  have hseen {size : Nat} : Seen 8 size := .inl (by decide)
  exact ⟨fun _ _ => hseen, hseen, read_capped (fun _ _ => hseen) hseen⟩

example : read 8 (some 8) nine = .error (.responseTooLarge 9 8) := by rfl

end Intake

namespace Transport

/-- The cap is no more than the settings allow, and never the greatest number there is. -/
theorem cap_bounds {s : Settings} {t : Transport} (h : ofSettings s = .ok t) :
    t.cap ≤ s.maxResponseBytes ∧ t.cap < Settings.maxWord := by
  unfold ofSettings at h
  split at h
  · cases h
    exact ⟨Nat.min_le_left _ _, Nat.lt_of_le_of_lt (Nat.min_le_right _ _) (by decide)⟩
  · cases h

/-- The body of a response that is received is all that arrived, and no more than the settings allow. -/
theorem body_of_receive {s : Settings} {t : Transport} {r : Request} {a : Arrival} {response : Response}
    (ht : ofSettings s = .ok t) (h : t.receive r a = .ok response) :
    response.body.data = a.chunks.flatten.toArray ∧ response.body.size ≤ s.maxResponseBytes := by
  obtain ⟨hcap, hlt⟩ := cap_bounds ht
  have hseen {size : Nat} : Intake.Seen t.cap size := .inl hlt
  obtain ⟨body, hread, h⟩ := bind_eq_ok.1 h
  obtain ⟨-, h⟩ := throw_else_eq_ok.1 h
  cases h
  obtain ⟨hfits, rfl⟩ := (Intake.read_eq_ok_iff (fun _ _ => hseen) hseen).1 hread
  exact ⟨rfl, Nat.le_trans hfits.length hcap⟩

end Transport

end TripClient.Http
