import TripClient.Sorted

/-!
# What stands under a name

A list of pairs rises (`rising_ofList`), so it has each name once (`nodup_ofList`), and under it the value
that was put in last (`get?_ofList`). Who searches it from the front finds the least name first
(`Rising.findSome?_eq_some_iff`).
-/

namespace TripClient.Sorted

variable {α : Type} {name : String} {value : α} {pairs : List (String × α)}

section
variable {κ : Type} [BEq κ] [LawfulBEq κ] {name : κ} {pairs : List (κ × α)}

/-- A list has no pair of a name that is not among its names. -/
theorem lookup_eq_none_of_not_mem (h : name ∉ pairs.map Prod.fst) : pairs.lookup name = none := by
  rw [List.lookup_eq_none_iff]
  intro p hp
  rw [bne_iff_ne]
  rintro rfl
  exact h (List.mem_map_of_mem hp)

/-- Where each name stands once, a pair of the list is the one of its name. -/
theorem lookup_of_mem (hnodup : (pairs.map Prod.fst).Nodup) (h : (name, value) ∈ pairs) :
    pairs.lookup name = some value := by
  induction pairs with
  | nil => cases h
  | cons p rest ih =>
    obtain ⟨hp, hrest⟩ := List.nodup_cons.1 hnodup
    rw [List.lookup_cons]
    rcases List.mem_cons.1 h with rfl | hmem
    · rw [beq_self_eq_true]
    · have hne : (name == p.1) = false :=
        beq_false_of_ne fun heq => hp (heq ▸ List.mem_map_of_mem hmem)
      rw [hne]
      exact ih hrest hmem

end

/-- What stands under a name is a pair of the list. -/
theorem mem_of_get? (h : get? name pairs = some value) : (name, value) ∈ pairs := by
  obtain ⟨before, after, rfl, -⟩ := List.lookup_eq_some_iff.1 h
  exact List.mem_append_right _ List.mem_cons_self

/-- Under a name stands what was put in under it. -/
theorem get?_insert (n : String) (name : String) (value : α) (pairs : List (String × α)) :
    get? n (insert name value pairs) = if n == name then some value else get? n pairs := by
  induction pairs with
  | nil =>
    rw [insert, get?, List.lookup_cons]
    cases n == name <;> rfl
  | cons p rest ih =>
    obtain ⟨m, w⟩ := p
    unfold insert
    split
    · rw [get?, List.lookup_cons]
      cases n == name <;> rfl
    · split
      · next h =>
        rw [get?, get?, List.lookup_cons, List.lookup_cons, ← beq_iff_eq.1 h]
        cases n == name <;> rfl
      · next h =>
        rw [get?] at ih
        rw [get?, get?, List.lookup_cons, List.lookup_cons, ih]
        cases hm : n == m with
        | false => rfl
        | true =>
          obtain rfl := beq_iff_eq.1 hm
          have hne : (n == name) = false := beq_false_of_ne fun heq => h (beq_iff_eq.2 heq.symm)
          rw [hne]
          rfl

/-- Under a name stands what was given for it. -/
theorem get?_ofList (hnodup : (pairs.map Prod.fst).Nodup) (n : String) :
    get? n (ofList pairs) = pairs.lookup n := by
  have hfold (acc : List (String × α)) :
      get? n (pairs.foldl (fun sorted p => insert p.1 p.2 sorted) acc) =
        (pairs.lookup n).or (get? n acc) := by
    induction pairs generalizing acc with
    | nil => rfl
    | cons p rest ih =>
      obtain ⟨hp, hrest⟩ := List.nodup_cons.1 hnodup
      rw [List.foldl_cons, ih hrest, get?_insert, List.lookup_cons]
      cases h : n == p.1 with
      | false => rfl
      | true => rw [beq_iff_eq.1 h, lookup_eq_none_of_not_mem hp]; rfl
  rw [ofList, hfold []]
  exact Option.or_none

/-- The pairs of a list after one was put in. -/
theorem mem_insert {p : String × α} (h : p ∈ insert name value pairs) : p = (name, value) ∨ p ∈ pairs := by
  induction pairs with
  | nil => exact .inl (List.mem_singleton.1 h)
  | cons q rest ih =>
    unfold insert at h
    split at h
    · exact List.mem_cons.1 h
    · split at h
      · exact (List.mem_cons.1 h).imp_right (List.mem_cons_of_mem q)
      · rcases List.mem_cons.1 h with rfl | h
        · exact .inr List.mem_cons_self
        · exact (ih h).imp_right (List.mem_cons_of_mem q)

/-- The names of a list after one was put in. -/
theorem mem_names_insert {n : String} (h : n ∈ (insert name value pairs).map Prod.fst) :
    n = name ∨ n ∈ pairs.map Prod.fst := by
  obtain ⟨p, hp, rfl⟩ := List.mem_map.1 h
  exact (mem_insert hp).imp (congrArg Prod.fst) List.mem_map_of_mem

/-- Pairs rise by their names. -/
def Rising (pairs : List (String × α)) : Prop := (pairs.map Prod.fst).Pairwise (· < ·)

theorem rising_insert (h : Rising pairs) (name : String) (value : α) :
    Rising (insert name value pairs) := by
  induction pairs with
  | nil => simp [insert, Rising]
  | cons p rest ih =>
    obtain ⟨m, w⟩ := p
    obtain ⟨hm, hrest⟩ := List.pairwise_cons.1 h
    unfold insert
    split
    · next hlt =>
      refine List.pairwise_cons.2 ⟨fun n hn => ?_, h⟩
      rcases List.mem_cons.1 hn with rfl | hn
      · exact hlt
      · exact String.lt_trans hlt (hm n hn)
    · next hnlt =>
      split
      · next heq =>
        rw [beq_iff_eq.1 heq]
        exact List.pairwise_cons.2 ⟨hm, hrest⟩
      · next hne =>
        refine List.pairwise_cons.2 ⟨fun n hn => ?_, ih hrest⟩
        rcases mem_names_insert hn with rfl | hn
        · refine Decidable.byContradiction fun hnot => hne (beq_iff_eq.2 ?_)
          exact String.le_antisymm (String.not_lt.1 hnot) (String.not_lt.1 hnlt)
        · exact hm n hn

/-- A pair of a greater name than all goes to the end. -/
theorem insert_eq_append (h : ∀ n ∈ pairs.map Prod.fst, n < name) (value : α) :
    insert name value pairs = pairs ++ [(name, value)] := by
  induction pairs with
  | nil => rfl
  | cons p rest ih =>
    obtain ⟨m, w⟩ := p
    obtain ⟨hm, hrest⟩ := List.forall_mem_cons.1 (List.map_cons ▸ h)
    have hne : (name == m) = false := by
      rw [beq_eq_false_iff_ne]
      rintro rfl
      exact String.lt_irrefl _ hm
    rw [insert, if_neg fun hlt => String.lt_irrefl _ (String.lt_trans hm hlt), hne, if_neg Bool.false_ne_true,
      ih hrest, List.cons_append]

/-- Pairs that rise stay as they are. -/
theorem ofList_eq_self (h : Rising pairs) : ofList pairs = pairs := by
  have hfold (acc : List (String × α)) (hacc : Rising (acc ++ pairs)) :
      pairs.foldl (fun sorted p => insert p.1 p.2 sorted) acc = acc ++ pairs := by
    clear h
    induction pairs generalizing acc with
    | nil => exact (List.append_nil acc).symm
    | cons p rest ih =>
      have hless : ∀ n ∈ acc.map Prod.fst, n < p.1 := by
        intro n hn
        rw [Rising, List.map_append, List.map_cons] at hacc
        exact (List.pairwise_append.1 hacc).2.2 n hn p.1 List.mem_cons_self
      rw [List.foldl_cons, insert_eq_append hless, ih _ (by rwa [List.append_assoc]), List.append_assoc]
      rfl
  exact hfold [] h

/-- Pairs that were put in one after the other rise. -/
theorem rising_ofList (pairs : List (String × α)) : Rising (ofList pairs) := by
  have hfold (acc : List (String × α)) (hacc : Rising acc) :
      Rising (pairs.foldl (fun sorted p => insert p.1 p.2 sorted) acc) := by
    induction pairs generalizing acc with
    | nil => exact hacc
    | cons p rest ih => exact ih _ (rising_insert hacc p.1 p.2)
  exact hfold [] .nil

/-- Where pairs rise, each name stands once. -/
theorem Rising.nodup (h : Rising pairs) : (pairs.map Prod.fst).Nodup := by
  refine h.imp fun hlt heq => ?_
  subst heq
  exact String.lt_irrefl _ hlt

/-- Where pairs rise, the first that gives something is the one of the least name. -/
theorem Rising.findSome?_eq_some_iff {β : Type} {f : String × α → Option β} {b : β} (h : Rising pairs) :
    pairs.findSome? f = some b ↔ ∃ p ∈ pairs, f p = some b ∧ ∀ q ∈ pairs, q.1 < p.1 → f q = none := by
  rw [List.findSome?_eq_some_iff]
  constructor
  · rintro ⟨before, p, after, rfl, hp, hbefore⟩
    refine ⟨p, List.mem_append_right _ List.mem_cons_self, hp, fun q hmem hlt => ?_⟩
    rw [Rising, List.map_append, List.map_cons] at h
    have hafter := (List.pairwise_cons.1 (List.pairwise_append.1 h).2.1).1
    rcases List.mem_append.1 hmem with hmem | hmem
    · exact hbefore q hmem
    · rcases List.mem_cons.1 hmem with rfl | hmem
      · exact absurd hlt (String.lt_irrefl _)
      · exact absurd (String.lt_trans hlt (hafter _ (List.mem_map_of_mem hmem))) (String.lt_irrefl _)
  · rintro ⟨p, hmem, hp, hless⟩
    obtain ⟨before, after, rfl⟩ := List.append_of_mem hmem
    refine ⟨before, p, after, rfl, hp, fun q hq => hless q (List.mem_append_left _ hq) ?_⟩
    rw [Rising, List.map_append, List.map_cons] at h
    exact (List.pairwise_append.1 h).2.2 _ (List.mem_map_of_mem hq) _ List.mem_cons_self

/-- Each name stands once. -/
theorem nodup_ofList (pairs : List (String × α)) : ((ofList pairs).map Prod.fst).Nodup :=
  (rising_ofList pairs).nodup

/-- The pairs are some of those that were given. -/
theorem mem_of_mem_ofList {p : String × α} (h : p ∈ ofList pairs) : p ∈ pairs := by
  have hfold (acc : List (String × α))
      (hp : p ∈ pairs.foldl (fun sorted p => insert p.1 p.2 sorted) acc) : p ∈ pairs ∨ p ∈ acc := by
    clear h
    induction pairs generalizing acc with
    | nil => exact .inr hp
    | cons q rest ih =>
      rcases ih _ hp with hp | hp
      · exact .inl (List.mem_cons_of_mem q hp)
      · rcases mem_insert hp with rfl | hp
        · exact .inl List.mem_cons_self
        · exact .inr hp
  exact (hfold [] h).resolve_right List.not_mem_nil

/-- The names are those that were given. -/
theorem mem_names_ofList {n : String} (h : n ∈ (ofList pairs).map Prod.fst) :
    n ∈ pairs.map Prod.fst := by
  obtain ⟨p, hp, rfl⟩ := List.mem_map.1 h
  exact List.mem_map_of_mem (mem_of_mem_ofList hp)

end TripClient.Sorted
