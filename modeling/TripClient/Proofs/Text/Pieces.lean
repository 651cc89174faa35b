import TripClient.Text.Pieces

/-!
# Texts are cut where they were joined

The pieces of a text hold no separator (`not_isSeparator_of_mem`), and pieces that hold none are found
again in the text that joins them (`pieces_join`). What follows behind a mark is cut off there
(`cut_behind`).
-/

namespace TripClient.Text

/-- What is joined holds the separator, and what the pieces hold. -/
theorem mem_join {separator c : Char} {ps : List (List Char)} (h : c ∈ join separator ps) :
    c = separator ∨ ∃ p ∈ ps, c ∈ p := by
  fun_induction join separator ps with
  | case1 => cases h
  | case2 p => exact .inr ⟨p, List.mem_cons_self, h⟩
  | case3 p q ps ih =>
    rcases List.mem_append.1 h with hp | h
    · exact .inr ⟨p, List.mem_cons_self, hp⟩
    rcases List.mem_cons.1 h with heq | h
    · exact .inl heq
    · obtain heq | ⟨r, hr, hc⟩ := ih h
      · exact .inl heq
      · exact .inr ⟨r, List.mem_cons_of_mem _ hr, hc⟩

/-- What a piece holds is held by what is joined. -/
theorem mem_join_of_mem {separator c : Char} {ps : List (List Char)} {p : List Char} (hp : p ∈ ps)
    (hc : c ∈ p) : c ∈ join separator ps := by
  fun_induction join separator ps with
  | case1 => cases hp
  | case2 q => rwa [← List.mem_singleton.1 hp]
  | case3 q r ps ih =>
    rcases List.mem_cons.1 hp with rfl | hp
    · exact List.mem_append_left _ hc
    · exact List.mem_append_right _ (List.mem_cons_of_mem separator (ih hp))

/-- No piece holds a separator. -/
theorem not_isSeparator_of_mem {isSeparator : Char → Bool} {cs p : List Char}
    (hp : p ∈ pieces isSeparator cs) {c : Char} (hc : c ∈ p) : ¬ isSeparator c := by
  induction cs generalizing p with
  | nil =>
    rw [pieces, List.mem_singleton] at hp
    rw [hp] at hc
    cases hc
  | cons d ds ih =>
    unfold pieces at hp
    split at hp
    · rcases List.mem_cons.1 hp with rfl | hp
      · cases hc
      · exact ih hp hc
    · next hd =>
      obtain ⟨q, qs, hpieces⟩ := List.exists_cons_of_ne_nil (pieces_ne_nil isSeparator ds)
      rw [hpieces] at hp ih
      rcases List.mem_cons.1 hp with rfl | hp
      · rcases List.mem_cons.1 hc with rfl | hc
        · exact hd
        · exact ih List.mem_cons_self hc
      · exact ih (List.mem_cons_of_mem _ hp) hc

/-- The pieces of a text that starts with a piece and a separator. -/
theorem pieces_append {isSeparator : Char → Bool} {p : List Char} (hp : ∀ c ∈ p, ¬ isSeparator c)
    {separator : Char} (hseparator : isSeparator separator) (rest : List Char) :
    pieces isSeparator (p ++ separator :: rest) = p :: pieces isSeparator rest := by
  induction p with
  | nil => rw [List.nil_append, pieces, if_pos hseparator]
  | cons c p ih =>
    have hc : ¬ isSeparator c := hp c List.mem_cons_self
    rw [List.cons_append, pieces, if_neg hc, ih fun d hd => hp d (List.mem_cons_of_mem c hd)]

/-- A text without separators is one piece. -/
theorem pieces_eq_singleton {isSeparator : Char → Bool} {p : List Char}
    (hp : ∀ c ∈ p, ¬ isSeparator c) : pieces isSeparator p = [p] := by
  induction p with
  | nil => rfl
  | cons c p ih =>
    rw [pieces, if_neg (hp c List.mem_cons_self), ih fun d hd => hp d (List.mem_cons_of_mem c hd)]

/-- Pieces that were joined are cut again. -/
theorem pieces_join {isSeparator : Char → Bool} {separator : Char} {ps : List (List Char)}
    (hseparator : isSeparator separator) (hne : ps ≠ []) (hps : ∀ p ∈ ps, ∀ c ∈ p, ¬ isSeparator c) :
    pieces isSeparator (join separator ps) = ps := by
  fun_induction join separator ps with
  | case1 => exact absurd rfl hne
  | case2 p => exact pieces_eq_singleton (hps p List.mem_cons_self)
  | case3 p q ps ih =>
    rw [pieces_append (hps p List.mem_cons_self) hseparator,
      ih (List.cons_ne_nil _ _) fun r hr => hps r (List.mem_cons_of_mem p hr)]

/-! ## Cuts -/

section
variable {stop : Char → Bool}

/-- A text is cut where it stops first. -/
theorem cut_append {front : List Char} (hfront : ∀ c ∈ front, ¬ stop c) {c : Char} (hc : stop c)
    (rest : List Char) : cut stop (front ++ c :: rest) = (front, some rest) := by
  induction front with
  | nil => exact if_pos hc
  | cons d front ih =>
    obtain ⟨hd, hfront⟩ := List.forall_mem_cons.1 hfront
    rw [List.cons_append, cut, if_neg hd, ih hfront]

/-- A text that does not stop is not cut. -/
theorem cut_eq_self {cs : List Char} (h : ∀ c ∈ cs, ¬ stop c) : cut stop cs = (cs, none) := by
  induction cs with
  | nil => rfl
  | cons c cs ih =>
    obtain ⟨hc, hcs⟩ := List.forall_mem_cons.1 h
    rw [cut, if_neg hc, ih hcs]

/-- What may follow behind a mark. -/
def behind (mark : Char) : Option (List Char) → List Char
  | some cs => mark :: cs
  | none => []

/-- Every text is what stands before a mark, and what may follow behind it. -/
theorem exists_behind (mark : Char) (cs : List Char) :
    ∃ front part, cs = front ++ behind mark part ∧ mark ∉ front := by
  induction cs with
  | nil => exact ⟨[], none, rfl, List.not_mem_nil⟩
  | cons c cs ih =>
    by_cases hc : c = mark
    · exact ⟨[], some cs, by rw [hc]; rfl, List.not_mem_nil⟩
    · obtain ⟨front, part, rfl, hfront⟩ := ih
      exact ⟨c :: front, part, rfl, List.not_mem_cons_of_ne_of_not_mem (Ne.symm hc) hfront⟩

/-- What may follow behind a mark is cut off there. -/
theorem cut_behind {front : List Char} {mark : Char} (h : mark ∉ front) (part : Option (List Char)) :
    cut (· == mark) (front ++ behind mark part) = (front, part) := by
  have hfront : ∀ c ∈ front, ¬ (c == mark) := fun c hc heq => h (eq_of_beq heq ▸ hc)
  cases part with
  | none => rw [behind, List.append_nil, cut_eq_self hfront]
  | some rest => exact cut_append hfront (beq_self_eq_true mark) rest

end

end TripClient.Text
