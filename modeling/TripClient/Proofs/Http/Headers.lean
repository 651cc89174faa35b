import TripClient.Http.Request

/-!
# Putting headers in

A header that is put in stands behind those of all other names (`Headers.with?_eq`), so it is what its
name has (`Headers.get?_with?`), and the other names have what they had (`Headers.without_with?`).
Nothing else of a request changes with it (`Request.withHeader_eq`).
-/

namespace TripClient.Http

namespace Headers

variable {name value : String} {h h' : Headers}

theorem sameName_self (name : String) : sameName name name := beq_self_eq_true _

/-- A header that is put in stands behind those of all other names. -/
theorem with?_eq (hok : h.with? name value = .ok h') :
    h' = ⟨(h.without name).entries ++ [(name, value)]⟩ := by
  unfold with? insert at hok
  split at hok
  · next h₁ heq =>
    split at heq
    · cases heq
    · dsimp only at heq
      split at heq
      · cases heq
      · cases heq
        exact (Except.ok.inj hok).symm
  · cases hok

/-- Leaving a name out twice is leaving it out. -/
theorem without_without (name : String) (h : Headers) : (h.without name).without name = h.without name := by
  simp [without]

/-- A header that is put in has no bearing on the headers of other names. -/
theorem without_with? (hok : h.with? name value = .ok h') : h'.without name = h.without name := by
  have hleft := without_without name h
  rw [with?_eq hok]
  simp only [without, mk.injEq] at hleft ⊢
  rw [List.filter_append, hleft, List.filter_cons_of_neg (by simp [sameName_self]), List.filter_nil,
    List.append_nil]

/-- No header of a name is found among those of all other names. -/
theorem get?_without (name : String) (h : Headers) : (h.without name).get? name = none := by
  simp [get?, without]

/-- A name has the value that was put in. -/
theorem get?_with? (hok : h.with? name value = .ok h') : h'.get? name = some value := by
  have hnone : (h.without name).entries.find? (fun e => sameName e.1 name) = none :=
    Option.map_eq_none_iff.1 (get?_without name h)
  rw [with?_eq hok, get?, List.find?_append, hnone, Option.none_or,
    List.find?_cons_of_pos (by exact sameName_self name), Option.map_some]

end Headers

namespace Request

variable {r r' : Request}

/-- A header changes nothing of a request but its headers. -/
theorem withHeader_eq {name value : String} (hok : r.withHeader name value = .ok r') :
    r.headers.with? name value = .ok r'.headers ∧ r' = { r with headers := r'.headers } := by
  unfold withHeader at hok
  cases hw : r.headers.with? name value with
  | error e => rw [hw] at hok; cases hok
  | ok headers => rw [hw] at hok; cases hok; exact ⟨rfl, rfl⟩

end Request

end TripClient.Http
