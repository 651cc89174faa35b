import TripClient.Proofs.Url.OfWeb

/-!
# Named values are read back

A query of named values is read as the pairs that it was written for (`Query.toPairs?_ofPairs`), whatever
their texts are: a name or a value is read back from how it is written (`Query.decode?_encode`), and neither
`&` nor `=` is written in one (`Query.not_mem_encode`), so that the pairs, and names and values in them, are
cut where they were joined.
-/

namespace TripClient.Url.Query

/-- Characters that are written by their bytes. -/
def isEscaped (c : Char) : Bool := !(c == ' ' || isPlain c)

/-- Characters beyond ASCII and controls are written by their bytes. -/
theorem isEscaped_of_inAny (c : Char) (h : Percent.inAny c) : isEscaped c := by
  rw [isEscaped, Bool.not_eq_true', Bool.or_eq_false_iff, beq_eq_false_iff_ne, Bool.eq_false_iff]
  refine ⟨?_, fun hplain => not_inWebQuery_of_isPlain hplain ?_⟩
  · rintro rfl
    exact absurd h (by decide)
  · rw [Percent.inWebQuery, Percent.inQuery, h, Bool.true_or, Bool.true_or]

/-- What a name or a value is written with: characters that stand for themselves, plus signs, and escapes. -/
theorem mem_encode {s : String} {c : Char} (h : c ∈ encode s) :
    isPlain c ∨ c = '+' ∨ c = '%' ∨ ∃ n < 16, c = Percent.hexDigit n := by
  obtain ⟨d, -, hmem⟩ := List.mem_flatMap.1 h
  split at hmem
  · exact .inr (.inl (List.mem_singleton.1 hmem))
  · split at hmem
    · next hplain =>
      rw [List.mem_singleton.1 hmem]
      exact .inl hplain
    · exact .inr (.inr (Percent.eq_of_mem_escapeChar hmem))

/-- The signs between names and values are not written in them. -/
theorem not_mem_encode {s : String} {c : Char} (hc : c = '&' ∨ c = '=') : c ∉ encode s := by
  have hdigit : ∀ n : Fin 16, '&' ≠ Percent.hexDigit n ∧ '=' ≠ Percent.hexDigit n := by decide
  intro hmem
  rcases mem_encode hmem with hplain | rfl | rfl | ⟨n, hn, rfl⟩
  · rcases hc with rfl | rfl <;> exact absurd hplain (by decide)
  · exact absurd hc (by decide)
  · exact absurd hc (by decide)
  · exact hc.elim (fun heq => (hdigit ⟨n, hn⟩).1 heq.symm) fun heq => (hdigit ⟨n, hn⟩).2 heq.symm

/-- With blanks for plus signs, a name or a value is its escaped text: a plus sign of its own is escaped. -/
theorem map_encode (s : String) :
    (encode s).map (fun c => if c == '+' then ' ' else c) = Percent.encode isEscaped s.toList := by
  have hescape (c : Char) :
      (Percent.escapeChar c).map (fun c => if c == '+' then ' ' else c) = Percent.escapeChar c := by
    have hdigit : ∀ n : Fin 16, Percent.hexDigit n ≠ '+' := by decide
    refine (List.map_congr_left fun d hd => if_neg ?_).trans (List.map_id _)
    rw [beq_iff_eq]
    rcases Percent.eq_of_mem_escapeChar hd with rfl | ⟨n, hn, rfl⟩
    · decide
    · exact hdigit ⟨n, hn⟩
  rw [encode, Percent.encode, List.map_flatMap]
  refine congrArg (List.flatMap · s.toList) (funext fun c => ?_)
  by_cases hblank : c = ' '
  · rw [hblank]
    decide
  by_cases hplain : isPlain c
  · have hplus : c ≠ '+' := by
      rintro rfl
      exact absurd hplain (by decide)
    simp [isEscaped, hblank, hplain, hplus]
  · simpa [isEscaped, hblank, hplain] using hescape c

/-- A name or a value is read back. -/
theorem decode?_encode (s : String) : decode? (encode s) = some s := by
  have hread := @Percent.decode?_encode isEscaped (by decide) isEscaped_of_inAny s.toList
  rw [decode?, map_encode, hread, Option.map_some, String.ofList_toList]

/-- A pair is read back. -/
theorem decodePair?_encodePair (p : String × String) : decodePair? (encodePair p) = some p := by
  have hcut : Text.cut (· == '=') (encodePair p) = (encode p.1, some (encode p.2)) :=
    Text.cut_append (fun c hc heq => not_mem_encode (.inr (eq_of_beq heq)) hc) rfl _
  rw [decodePair?, hcut]
  simp only [Option.getD_some, decode?_encode]
  rfl

/-- Named values are read back. -/
theorem toPairs?_ofPairs (pairs : List (String × String)) : toPairs? (ofPairs pairs) = some pairs := by
  cases pairs with
  | nil => rfl
  | cons p rest =>
    have hsign : ∀ cs ∈ (p :: rest).map encodePair, ∀ c ∈ cs, ¬ (c == '&') := by
      intro cs hcs c hc heq
      obtain ⟨pair, -, rfl⟩ := List.mem_map.1 hcs
      rw [eq_of_beq heq] at hc
      rcases List.mem_append.1 hc with hc | hc
      · exact not_mem_encode (.inl rfl) hc
      · rcases List.mem_cons.1 hc with heq | hc
        · exact absurd heq (by decide)
        · exact not_mem_encode (.inl rfl) hc
    have hpieces : Text.pieces (· == '&') (ofPairs (p :: rest)) = (p :: rest).map encodePair :=
      Text.pieces_join rfl (List.cons_ne_nil _ _) hsign
    have hfilter : ((p :: rest).map encodePair).filter (!·.isEmpty) = (p :: rest).map encodePair := by
      refine List.filter_eq_self.2 fun cs hcs => ?_
      obtain ⟨pair, -, rfl⟩ := List.mem_map.1 hcs
      simp [encodePair]
    rw [toPairs?, hpieces, hfilter, List.mapM_map]
    exact (mapM_eq_some_map fun pair _ => decodePair?_encodePair pair).trans (by rw [List.map_id'])

end TripClient.Url.Query
