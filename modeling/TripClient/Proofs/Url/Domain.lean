import TripClient.Proofs.Success
import TripClient.Proofs.Text.Pieces
import TripClient.Proofs.Url.Punycode
import TripClient.Url.Domain.Name

/-!
# Domain names in ASCII form

The ASCII form of a label is read as the same label, unless it is too long to be read
(`Label.ofChars?_ascii`). So the ASCII form of a name is its own ASCII form, unless a label of it is too
long, and then it has none (`toAscii?_ascii`). Its characters are those that `IsPlain` admits: ASCII,
neither capital nor forbidden.
-/

namespace TripClient.Url.Domain

open Punycode (isAscii)

/-! ## Labels -/

namespace Label

/-- Whether a label in ASCII is short enough to be read, if it starts like an ASCII form. -/
def isShort : List Char → Bool
  | 'x' :: 'n' :: '-' :: '-' :: code => code.length ≤ maxCode
  | _ => true

/-- A label says itself, or it has an ASCII form, which it is or is given. -/
theorem ofChars?_cases {cs : List Char} {l : Label} (h : ofChars? cs = some l) :
    l.ascii = cs ∧ cs.all isAscii ∧ isShort cs ∨
      l = ⟨['x', 'n', '-', '-'] ++ Punycode.encode cs, cs⟩ ∧ isWellFormed cs := by
  unfold ofChars? at h
  split at h
  · next code =>
    split at h
    · cases h
    · next hlength =>
      obtain ⟨said, hsaid, h⟩ := Option.bind_eq_some_iff.1 h
      split at h
      · cases h
        refine .inl ⟨rfl, ?_, decide_eq_true (Nat.not_lt.1 hlength)⟩
        unfold Punycode.decode? at hsaid
        dsimp only at hsaid
        split at hsaid
        · cases hsaid
        · next hascii =>
          have hcode : code.all isAscii = true := by simpa using hascii
          simp only [List.all_cons, hcode]
          decide
      · cases h
  · next hstart =>
    split at h
    · next hascii =>
      cases h
      refine .inl ⟨rfl, hascii, ?_⟩
      unfold isShort
      split
      · exact absurd rfl (hstart _)
      · rfl
    · split at h
      · next hwell =>
        cases h
        exact .inr ⟨rfl, hwell⟩
      · cases h

/-- The ASCII form of a label is read as the same label if it is short enough. -/
theorem ofChars?_ascii {cs : List Char} {l : Label} (h : ofChars? cs = some l) :
    ofChars? l.ascii = if isShort l.ascii then some l else none := by
  rcases ofChars?_cases h with ⟨heq, -, hshort⟩ | ⟨rfl, hwell⟩
  · rw [heq, if_pos hshort, h]
  · rw [List.cons_append, List.cons_append, List.cons_append, List.cons_append, List.nil_append]
    by_cases hlength : maxCode < (Punycode.encode cs).length
    · rw [ofChars?, if_pos hlength, isShort, decide_eq_false (Nat.not_le.2 hlength),
        if_neg Bool.false_ne_true]
    · rw [ofChars?, if_neg hlength, isShort, decide_eq_true (Nat.not_lt.1 hlength), if_pos rfl,
        Punycode.decode?_encode, Option.bind_eq_bind, Option.bind_some, if_pos hwell]

/-- The ASCII form of a label is in ASCII. -/
theorem all_ascii {cs : List Char} {l : Label} (h : ofChars? cs = some l) : l.ascii.all isAscii := by
  rcases ofChars?_cases h with ⟨heq, hascii, -⟩ | ⟨rfl, -⟩
  · rw [heq, hascii]
  · rw [List.all_append, Punycode.encode_ascii]
    decide

/-- A label without points has none in its ASCII form. -/
theorem point_not_mem_ascii {cs : List Char} {l : Label} (h : ofChars? cs = some l) (hcs : '.' ∉ cs) :
    '.' ∉ l.ascii := by
  rcases ofChars?_cases h with ⟨heq, -⟩ | ⟨rfl, -⟩
  · rwa [heq]
  · have hdigit : ∀ k : Fin 36, '.' ≠ Punycode.digitChar k := by decide
    intro hmem
    rcases List.mem_append.1 hmem with hmem | hmem
    · exact absurd hmem (by decide)
    · rcases Punycode.mem_encode hmem with ⟨hmem, -⟩ | heq | ⟨k, hk, heq⟩
      · exact hcs hmem
      · exact absurd heq (by decide)
      · exact hdigit ⟨k, hk⟩ heq

/-- A label in ASCII that does not start like an ASCII form says itself. -/
theorem ofChars?_of_ascii {cs : List Char} (hascii : cs.all isAscii) (hx : cs.head? ≠ some 'x') :
    ofChars? cs = some ⟨cs, cs⟩ := by
  unfold ofChars?
  split
  · exact absurd rfl hx
  · rw [if_pos hascii]

end Label

/-! ## Names -/

/-- Whether a character may stand in an ASCII form. -/
def IsPlain (c : Char) : Prop := isAscii c ∧ ¬ isForbidden c

theorem lt_toNat_of_isPlain {c : Char} (h : IsPlain c) : 0x20 < c.toNat := by
  refine Nat.not_le.1 fun hle => h.2 ?_
  rw [isForbidden, decide_eq_true hle, Bool.true_or, Bool.true_or, Bool.true_or]

/-- A character that is no capital letter has no small one. -/
theorem toLower_of_not_isUpper {c : Char} (h : ¬ c.isUpper) : c.toLower = c :=
  dif_neg fun hcapital => h (decide_eq_true hcapital)

/-- Plain characters stand for themselves. -/
theorem replace?_of_plain {c : Char} (h : IsPlain c) : replace? c = some [c] := by
  have hascii : c.toNat < 0x80 := by simpa [isAscii] using h.1
  have hcapital : ¬ c.isUpper := fun hupper => h.2 (by simp [isForbidden, hupper])
  rw [replace?, if_pos hascii, toLower_of_not_isUpper hcapital]

/-- A text of plain characters is cut into its labels as it is. -/
theorem labels?_of_plain {cs : List Char} (h : ∀ c ∈ cs, IsPlain c) :
    labels? cs = (Text.pieces (· == '.') cs).mapM Label.ofChars? := by
  have hcompose : Text.compose cs = cs := by
    refine if_pos (List.all_eq_true.2 fun c hc => ?_)
    simpa [isAscii] using (h c hc).1
  have hflat : (cs.map ([·])).flatten = cs := by
    rw [← List.flatMap_def, List.flatMap_singleton']
  rw [labels?, mapM_eq_some_map fun c hc => replace?_of_plain (h c hc), Option.bind_eq_bind,
    Option.bind_some, hflat, hcompose]

/-- What a name says in ASCII form: its labels, none of which holds a forbidden character, and of
which all keep their direction if one is written from right to left. -/
theorem toAscii?_eq_some {cs ascii : List Char} (h : toAscii? cs = some ascii) :
    ∃ labels, labels? cs = some labels ∧ (∀ l ∈ labels, ∀ c ∈ l.ascii, ¬ isForbidden c) ∧
      (labels.any Label.hasRight → labels.all Label.keepsDirection) ∧
      ascii = Text.join '.' (labels.map Label.ascii) := by
  obtain ⟨labels, hlabels, h⟩ := Option.bind_eq_some_iff.1 h
  split at h
  · cases h
  · next hforbidden =>
    split at h
    · cases h
    · next hdirection =>
      cases h
      refine ⟨labels, hlabels, ?_, ?_, rfl⟩
      · intro l hl c hc hmem
        exact hforbidden (List.any_eq_true.2 ⟨l, hl, List.any_eq_true.2 ⟨c, hc, hmem⟩⟩)
      · intro hright
        rw [hright, Bool.true_and, Bool.not_eq_true', Bool.not_eq_false] at hdirection
        exact hdirection

/-- The characters of an ASCII form. -/
theorem isPlain_of_mem {cs ascii : List Char} (h : toAscii? cs = some ascii) {c : Char}
    (hc : c ∈ ascii) : IsPlain c := by
  obtain ⟨labels, hlabels, hforbidden, -, rfl⟩ := toAscii?_eq_some h
  obtain ⟨replaced, -, hlabels⟩ := Option.bind_eq_some_iff.1 hlabels
  rcases Text.mem_join hc with rfl | ⟨_, hlabel, hc⟩
  · exact ⟨by decide, by decide⟩
  · obtain ⟨l, hl, rfl⟩ := List.mem_map.1 hlabel
    obtain ⟨p, -, hp⟩ := exists_of_mem_mapM hlabels hl
    exact ⟨List.all_eq_true.1 (Label.all_ascii hp) c hc, hforbidden l hl c hc⟩

/-- A name of plain characters is in ASCII form unless a label starts like one. -/
theorem toAscii?_of_plain {cs : List Char} (h : ∀ c ∈ cs, IsPlain c)
    (hx : ∀ p ∈ Text.pieces (· == '.') cs, p.head? ≠ some 'x') : toAscii? cs = some cs := by
  have hlabel : ∀ p ∈ Text.pieces (· == '.') cs, ∀ c ∈ p, IsPlain c := fun p hp c hc =>
    h c (by rw [← Text.join_pieces '.' cs]; exact Text.mem_join_of_mem hp hc)
  have hlabels : labels? cs = some ((Text.pieces (· == '.') cs).map fun p => ⟨p, p⟩) := by
    rw [labels?_of_plain h]
    refine mapM_eq_some_map fun p hp => Label.ofChars?_of_ascii ?_ (hx p hp)
    exact List.all_eq_true.2 fun c hc => (hlabel p hp c hc).1
  have hforbidden : ((Text.pieces (· == '.') cs).map fun p => (⟨p, p⟩ : Label)).any
      (fun l => l.ascii.any isForbidden) = false := by
    simp only [List.any_eq_false, List.mem_map, forall_exists_index, and_imp]
    rintro _ p hp rfl hany
    obtain ⟨c, hc, hmem⟩ := List.any_eq_true.1 hany
    exact (hlabel p hp c hc).2 hmem
  have hright : ((Text.pieces (· == '.') cs).map fun p => (⟨p, p⟩ : Label)).any Label.hasRight =
      false := by
    simp only [List.any_eq_false, List.mem_map, forall_exists_index, and_imp]
    rintro _ p hp rfl hany
    obtain ⟨c, hc, hmem⟩ := List.any_eq_true.1 hany
    rw [(hlabel p hp c hc).1] at hmem
    cases hmem
  rw [toAscii?, hlabels, Option.bind_eq_bind, Option.bind_some, hforbidden, hright,
    if_neg Bool.false_ne_true, Bool.false_and, if_neg Bool.false_ne_true, List.map_map]
  exact congrArg some ((congrArg (Text.join '.') (List.map_id' _)).trans (Text.join_pieces '.' cs))

/-- The labels of a name are cut again in its ASCII form. -/
theorem pieces_join_ascii {cs : List Char} {labels : List Label} (h : labels? cs = some labels) :
    Text.pieces (· == '.') (Text.join '.' (labels.map Label.ascii)) = labels.map Label.ascii := by
  obtain ⟨replaced, -, hlabels⟩ := Option.bind_eq_some_iff.1 h
  have hpoint : ∀ p ∈ labels.map Label.ascii, ∀ c ∈ p, ¬ (c == '.') := by
    intro _ hlabel c hc heq
    obtain ⟨l, hl, rfl⟩ := List.mem_map.1 hlabel
    obtain ⟨p, hmem, hp⟩ := exists_of_mem_mapM hlabels hl
    refine Label.point_not_mem_ascii hp (fun hpoint => ?_) (eq_of_beq heq ▸ hc)
    exact Text.not_isSeparator_of_mem hmem hpoint (beq_self_eq_true '.')
  have hne : labels.map Label.ascii ≠ [] := by
    have hlength := length_of_mapM hlabels
    have hpieces := List.length_pos_iff.2 (Text.pieces_ne_nil (· == '.') (Text.compose replaced.flatten))
    exact List.ne_nil_of_length_pos (by rw [List.length_map]; omega)
  exact Text.pieces_join (beq_self_eq_true '.') hne hpoint

/-- Whether all labels of a name in ASCII form are short enough to be read. -/
def readable (ascii : List Char) : Bool := (Text.pieces (· == '.') ascii).all Label.isShort

/-- The ASCII form of a name is its own ASCII form if it can be read, and else it has none. -/
theorem toAscii?_ascii {cs ascii : List Char} (h : toAscii? cs = some ascii) :
    toAscii? ascii = if readable ascii then some ascii else none := by
  have hplain := fun c => isPlain_of_mem h (c := c)
  obtain ⟨labels, hlabels, hforbidden, hdirection, hascii⟩ := toAscii?_eq_some h
  have hcut := pieces_join_ascii hlabels
  obtain ⟨replaced, -, hlabels⟩ := Option.bind_eq_some_iff.1 hlabels
  have hread : ∀ l ∈ labels,
      Label.ofChars? l.ascii = if Label.isShort l.ascii then some l else none := by
    intro l hl
    obtain ⟨p, -, hp⟩ := exists_of_mem_mapM hlabels hl
    exact Label.ofChars?_ascii hp
  rw [toAscii?, labels?_of_plain hplain, readable, hascii, hcut]
  by_cases hshort : (labels.map Label.ascii).all Label.isShort
  · have hagain : (labels.map Label.ascii).mapM Label.ofChars? = some labels := by
      rw [List.mapM_map]
      refine (mapM_eq_some_map fun l hl => ?_).trans (congrArg some (List.map_id' labels))
      refine (hread l hl).trans (if_pos ?_)
      exact List.all_eq_true.1 hshort _ (List.mem_map_of_mem hl)
    rw [hagain, Option.bind_eq_bind, Option.bind_some, if_neg, if_neg, if_pos hshort]
    · rw [Bool.and_eq_true, Bool.not_eq_true', not_and, Bool.not_eq_false]
      exact hdirection
    · simpa using hforbidden
  · obtain ⟨_, hmem, hlong⟩ := List.all_eq_false.1 (Bool.eq_false_iff.2 hshort)
    obtain ⟨l, hl, rfl⟩ := List.mem_map.1 hmem
    rw [mapM_eq_none hmem ((hread l hl).trans (if_neg hlong)), if_neg hshort]
    rfl

end TripClient.Url.Domain
