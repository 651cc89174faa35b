import Mathlib.Data.List.Nodup
import Mathlib.Data.List.Pairwise
import TripClient.Proofs.Json.Record

/-!
# Spellings of fields

An object may say a field under any of its names, and hold members that say none. One that says no field
twice (`Single`) is read by what its members say: as long as they say the same fields and these have the same
values (`Respelled`), objects give the same record, or none (`Shape.decode_respelled`). For that, a shape has
to build records only of values that pass the checks of their fields, as those of fields do (`Shape.Checks`),
and no name may be that of two fields.
-/

namespace TripClient.Json

variable {α β : Type}

/-! ## Members under other names -/

section
variable (spellings : List (List String))

/-- Whether no two members say one field. The names of a field stand in one list. -/
def Single (members : List (String × Json)) : Prop :=
  members.Pairwise fun p q => ∀ ns ∈ spellings, p.1 ∈ ns → q.1 ∉ ns

instance (members : List (String × Json)) : Decidable (Single spellings members) :=
  inferInstanceAs (Decidable (List.Pairwise _ _))

/-- Whether two names are names of one field, or the same. -/
def SameField (n n' : String) : Prop := n = n' ∨ ∃ ns ∈ spellings, n ∈ ns ∧ n' ∈ ns

/-- Whether members say what others say: in any order, under the same or other names of their fields, and
beside members that say no field. -/
def Respelled (members members' : List (String × Json)) : Prop :=
  ∃ renamed extra,
    List.Forall₂ (fun p p' => SameField spellings p.1 p'.1 ∧ p'.2 = p.2) members renamed ∧
    (∀ p ∈ extra, ∀ ns ∈ spellings, p.1 ∉ ns) ∧ members'.Perm (renamed ++ extra)

end

/-- Members that say no field twice do so with fewer names. -/
theorem Single.mono {spellings spellings' : List (List String)} {members : List (String × Json)}
    (h : Single spellings members) (hsub : ∀ ns' ∈ spellings', ∃ ns ∈ spellings, ns' ⊆ ns) :
    Single spellings' members :=
  h.imp fun {p q} hpq ns' hns' hp hq => by
    obtain ⟨ns, hns, hle⟩ := hsub ns' hns'
    exact hpq ns hns (hle hp) (hle hq)

/-- Members with different names say no field twice that has one name. -/
theorem single_of_nodup {members : List (String × Json)} (h : (members.map Prod.fst).Nodup)
    {spellings : List (List String)} (hone : ∀ ns ∈ spellings, ns.length ≤ 1) : Single spellings members := by
  refine (List.pairwise_map.1 h).imp fun {p q} hpq ns hns hp hq => hpq ?_
  match ns, hone ns hns with
  | [n], _ => rw [List.mem_singleton.1 hp, List.mem_singleton.1 hq]

/-- If no name is that of two fields, names of one field are names of no other. -/
theorem SameField.mem_of_mem {spellings : List (List String)} (hnames : spellings.flatten.Nodup)
    {n n' : String} (h : SameField spellings n n') {ns : List String} (hns : ns ∈ spellings) (hn' : n' ∈ ns) :
    n ∈ ns := by
  rcases h with rfl | ⟨ms, hms, hn, hm'⟩
  · exact hn'
  · by_cases heq : ms = ns
    · exact heq ▸ hn
    · have hdisjoint : ms.Disjoint ns :=
        haveI : Std.Symm (List.Disjoint (α := String)) := ⟨fun _ _ h _ ha hb => h hb ha⟩
        (List.nodup_flatten.1 hnames).2.forall hms hns heq
      exact absurd hn' (hdisjoint hm')

/-- A renamed member has the name of a field under which the value stood before. -/
theorem exists_sameField_of_mem {spellings : List (List String)} {members renamed : List (String × Json)}
    (h : List.Forall₂ (fun p p' => SameField spellings p.1 p'.1 ∧ p'.2 = p.2) members renamed)
    {q' : String × Json} (hq' : q' ∈ renamed) : ∃ q ∈ members, SameField spellings q.1 q'.1 := by
  induction h with
  | nil => cases hq'
  | @cons p p' _ _ hp _ ih =>
    rcases List.mem_cons.1 hq' with rfl | hq'
    · exact ⟨p, List.mem_cons_self, hp.1⟩
    · obtain ⟨q, hq, hsame⟩ := ih hq'
      exact ⟨q, List.mem_cons_of_mem p hq, hsame⟩

/-- Members that say the same say no field twice if the others do not. -/
theorem Single.respelled {spellings : List (List String)} (hnames : spellings.flatten.Nodup)
    {members members' : List (String × Json)} (h : Single spellings members)
    (hsame : Respelled spellings members members') : Single spellings members' := by
  obtain ⟨renamed, extra, hrenamed, hextra, hperm⟩ := hsame
  refine (hperm.pairwise_iff fun hpq ns hns hq hp => hpq ns hns hp hq).2
    (List.pairwise_append.2 ⟨?_, ?_, ?_⟩)
  · clear hperm
    induction hrenamed with
    | nil => exact List.Pairwise.nil
    | cons hp hrest ih =>
      obtain ⟨hfirst, hmembers⟩ := List.pairwise_cons.1 h
      refine List.pairwise_cons.2 ⟨fun q' hq' ns hns hpn hqn => ?_, ih hmembers⟩
      obtain ⟨q, hq, hsame⟩ := exists_sameField_of_mem hrest hq'
      exact hfirst q hq ns hns (hp.1.mem_of_mem hnames hns hpn) (hsame.mem_of_mem hnames hns hqn)
  · exact List.pairwise_of_forall_mem_list fun p hp _ _ ns hns hpn => absurd hpn (hextra p hp ns hns)
  · exact fun p _ q hq ns hns _ => hextra q hq ns hns

/-- The value that members have under the names of a field. -/
def said (members : List (String × Json)) (ns : List String) : Option Json :=
  (members.find? fun p => ns.contains p.1).map Prod.snd

theorem said_cons (p : String × Json) (members : List (String × Json)) (ns : List String) :
    said (p :: members) ns = if p.1 ∈ ns then some p.2 else said members ns := by
  rw [said, List.find?_cons]
  by_cases h : p.1 ∈ ns
  · rw [List.contains_iff_mem.2 h, if_pos h]
    rfl
  · rw [Bool.eq_false_iff.2 (mt List.contains_iff_mem.1 h), if_neg h]
    rfl

theorem said_singleton (members : List (String × Json)) (n : String) : said members [n] = members.lookup n := by
  induction members with
  | nil => rfl
  | cons p members ih =>
    rw [said_cons, List.lookup_cons, ih]
    by_cases h : n = p.1
    · rw [if_pos (List.mem_singleton.2 h.symm), h, beq_self_eq_true]
    · rw [if_neg fun hmem => h (List.mem_singleton.1 hmem).symm, beq_false_of_ne h]

/-- Nothing is said by members that have other names. -/
theorem said_eq_none {members : List (String × Json)} {ns : List String}
    (h : ∀ p ∈ members, p.1 ∉ ns) : said members ns = none := by
  rw [said, Option.map_eq_none_iff, List.find?_eq_none]
  exact fun p hp => mt List.contains_iff_mem.1 (h p hp)

/-- Members with other names may be left out. -/
theorem said_filter {keep : String → Bool} {ns : List String} (hns : ∀ n ∈ ns, keep n)
    (members : List (String × Json)) : said (members.filter (keep ·.1)) ns = said members ns := by
  induction members with
  | nil => rfl
  | cons p members ih =>
    rw [said_cons]
    by_cases hp : keep p.1
    · rw [List.filter_cons, if_pos hp, said_cons, ih]
    · rw [List.filter_cons, if_neg hp, if_neg fun hmem => hp (hns _ hmem), ih]

/-- If no two members say a field, only one of its names can have a value. -/
theorem toList_said_cons {members : List (String × Json)} {n : String} {ns : List String} (hn : n ∉ ns)
    (h : Single [n :: ns] members) :
    (said members (n :: ns)).toList = (said members [n]).toList ++ (said members ns).toList := by
  induction members with
  | nil => rfl
  | cons p members ih =>
    obtain ⟨hp, hmembers⟩ := List.pairwise_cons.1 h
    have hnone {ms : List String} (hmem : p.1 ∈ n :: ns) (hms : ms ⊆ n :: ns) : said members ms = none :=
      said_eq_none fun q hq hqms => hp q hq _ List.mem_cons_self hmem (hms hqms)
    rw [said_cons, said_cons, said_cons]
    -- If the first member says the field, under `n` or under another name, then no later one does.
    by_cases hpn : p.1 = n
    · have hin : p.1 ∈ n :: ns := hpn ▸ List.mem_cons_self
      rw [if_pos hin, if_pos (List.mem_singleton.2 hpn), if_neg (hpn ▸ hn),
        hnone hin (List.subset_cons_self n ns)]
      rfl
    · rw [if_neg (mt List.mem_singleton.1 hpn)]
      by_cases hin : p.1 ∈ ns
      · have hin' : p.1 ∈ n :: ns := List.mem_cons_of_mem n hin
        rw [if_pos hin', if_pos hin, hnone hin' (List.cons_subset.2 ⟨List.mem_cons_self, List.nil_subset _⟩)]
        rfl
      · rw [if_neg (List.not_mem_cons_of_ne_of_not_mem hpn hin), if_neg hin]
        exact ih hmembers

/-- The values that members have under names, in the order of the names. -/
def under (members : List (String × Json)) (ns : List String) : List Json := ns.filterMap (members.lookup ·)

theorem under_cons (members : List (String × Json)) (n : String) (ns : List String) :
    under members (n :: ns) = (said members [n]).toList ++ under members ns := by
  rw [under, List.filterMap_cons, said_singleton]
  cases members.lookup n <;> rfl

/-- Nothing stands under names that are left out. -/
theorem under_filter {keep : String → Bool} {ns : List String} (hns : ∀ n ∈ ns, keep n = false)
    (members : List (String × Json)) : under (members.filter (keep ·.1)) ns = [] := by
  refine List.filterMap_eq_nil_iff.2 fun n hn => ?_
  rw [← said_singleton]
  refine said_eq_none fun p hp hmem => ?_
  rw [← List.mem_singleton.1 hmem] at hn
  exact absurd (List.mem_filter.1 hp).2 (by rw [hns _ hn]; exact Bool.false_ne_true)

/-- So the values under the names of a field are the one that is said, or none. -/
theorem toList_said {members : List (String × Json)} {ns : List String} (hns : ns.Nodup)
    (h : Single [ns] members) : (said members ns).toList = under members ns := by
  induction ns with
  | nil =>
    rw [said_eq_none fun _ _ => List.not_mem_nil]
    rfl
  | cons n ns ih =>
    obtain ⟨hn, hns⟩ := List.nodup_cons.1 hns
    have hsub : ∀ ms ∈ [ns], ∃ ms' ∈ [n :: ns], ms ⊆ ms' := fun ms hms =>
      ⟨n :: ns, List.mem_cons_self, List.mem_singleton.1 hms ▸ List.subset_cons_self n ns⟩
    rw [toList_said_cons hn h, ih hns (h.mono hsub), under_cons]

/-- Where no two pairs have one name, the value of a name does not depend on their order. -/
theorem lookup_eq_of_perm {γ : Type} {pairs pairs' : List (String × γ)} (h : pairs.Perm pairs')
    (hnodup : (pairs.map Prod.fst).Nodup) (n : String) : pairs.lookup n = pairs'.lookup n := by
  have hnodup' : (pairs'.map Prod.fst).Nodup := (h.map Prod.fst).nodup_iff.1 hnodup
  by_cases hn : n ∈ pairs.map Prod.fst
  · obtain ⟨⟨_, v⟩, hmem, rfl⟩ := List.mem_map.1 hn
    rw [Sorted.lookup_of_mem hnodup hmem, Sorted.lookup_of_mem hnodup' (h.mem_iff.1 hmem)]
  · rw [Sorted.lookup_eq_none_of_not_mem hn,
      Sorted.lookup_eq_none_of_not_mem (mt (h.map Prod.fst).mem_iff.2 hn)]

/-- The names of a field. -/
def Rule.names (r : Rule) : List String := r.name :: r.spellings

theorem Rule.accepts_iff {r : Rule} {n : String} : r.accepts n ↔ n ∈ r.names := by
  rw [accepts, names, Bool.or_eq_true, beq_iff_eq, List.contains_iff_mem, List.mem_cons, eq_comm]

/-! ## Values of which the first counts -/

/-- Whether all values are of one kind or `null`. -/
def OfKind (read? : Json → Option α) (values : List Json) : Prop :=
  ∀ v ∈ values, v = .null ∨ (read? v).isSome

/-- Whether what is said by values that are of one kind or `null` is said by the first that is not `null`. -/
def FirstOf (read? : Json → Option α) (values : List Json) (x : Option α) : Prop :=
  OfKind read? values ∧ x = values.findSome? read?

/-- The first of two lists of values is the first of the first list, or else of the second. -/
theorem FirstOf.append_iff {read? : Json → Option α} {values values' : List Json} {x : Option α} :
    FirstOf read? (values ++ values') x ↔
      ∃ y z, FirstOf read? values y ∧ FirstOf read? values' z ∧ x = y.or z := by
  constructor
  · rintro ⟨hkind, rfl⟩
    obtain ⟨hvalues, hvalues'⟩ := List.forall_mem_append.1 hkind
    exact ⟨_, _, ⟨hvalues, rfl⟩, ⟨hvalues', rfl⟩, List.findSome?_append⟩
  · rintro ⟨_, _, ⟨hvalues, rfl⟩, ⟨hvalues', rfl⟩, rfl⟩
    exact ⟨List.forall_mem_append.2 ⟨hvalues, hvalues'⟩, List.findSome?_append.symm⟩

namespace Shape

/-! ## Fields of names -/

section
variable {rules : List Rule}

/-- If no name is that of two fields, each is found under all of its names. -/
theorem find?_of_mem (hnames : (rules.map Rule.names).flatten.Nodup) {r : Rule} (hr : r ∈ rules) {n : String}
    (hn : n ∈ r.names) : rules.find? (·.accepts n) = some r := by
  induction rules with
  | nil => cases hr
  | cons first rules ih =>
    rw [List.map_cons, List.flatten_cons, List.nodup_append] at hnames
    obtain ⟨-, hrules, hdisjoint⟩ := hnames
    rcases List.mem_cons.1 hr with rfl | hr
    · exact List.find?_cons_of_pos (Rule.accepts_iff.2 hn)
    · have hfirst : n ∉ first.names := fun hmem =>
        hdisjoint n hmem n (List.mem_flatten.2 ⟨_, List.mem_map_of_mem hr, hn⟩) rfl
      rw [List.find?_cons, Bool.eq_false_iff.2 (mt Rule.accepts_iff.1 hfirst)]
      exact ih hrules hr

theorem mem_of_find? {r : Rule} {n : String} (h : rules.find? (·.accepts n) = some r) :
    r ∈ rules ∧ n ∈ r.names :=
  ⟨List.mem_of_find?_eq_some h, Rule.accepts_iff.1 (List.find?_some h :)⟩

/-- Names of one field find the same field. -/
theorem find?_of_sameField (hnames : (rules.map Rule.names).flatten.Nodup) {n n' : String}
    (h : SameField (rules.map Rule.names) n n') :
    rules.find? (·.accepts n') = rules.find? (·.accepts n) := by
  rcases h with rfl | ⟨ns, hns, hn, hn'⟩
  · rfl
  · obtain ⟨r, hr, rfl⟩ := List.mem_map.1 hns
    rw [find?_of_mem hnames hr hn, find?_of_mem hnames hr hn']

/-- Members that say the same give the same fields. -/
theorem assigned_of_respelled (hnames : (rules.map Rule.names).flatten.Nodup)
    {members members' : List (String × Json)} (h : Respelled (rules.map Rule.names) members members') :
    (assigned rules members').Perm (assigned rules members) := by
  obtain ⟨renamed, extra, hrenamed, hextra, hperm⟩ := h
  have hsame : assigned rules renamed = assigned rules members := by
    clear hperm
    unfold assigned
    induction hrenamed with
    | nil => rfl
    | cons hp _ ih =>
      rw [List.filterMap_cons, List.filterMap_cons, ih, find?_of_sameField hnames hp.1, hp.2]
  have hnone : assigned rules extra = [] := by
    refine List.filterMap_eq_nil_iff.2 fun p hp => ?_
    rw [Option.map_eq_none_iff, List.find?_eq_none]
    exact fun r hr => mt Rule.accepts_iff.1 (hextra p hp _ (List.mem_map_of_mem hr))
  rw [← hsame, ← List.append_nil (assigned rules renamed), ← hnone, assigned, assigned, assigned,
    ← List.filterMap_append]
  exact hperm.filterMap _

/-- Members of which no two say one field give each field once. -/
theorem nodup_assigned (hnames : (rules.map Rule.names).flatten.Nodup) {members : List (String × Json)}
    (h : Single (rules.map Rule.names) members) : ((assigned rules members).map Prod.fst).Nodup := by
  refine List.pairwise_map.2 (List.pairwise_filterMap.2 (h.imp fun {p q} hpq => ?_))
  rintro _ hp _ hq heq
  obtain ⟨r, hr, rfl⟩ := Option.map_eq_some_iff.1 hp
  obtain ⟨r', hr', rfl⟩ := Option.map_eq_some_iff.1 hq
  obtain ⟨hmem, hp⟩ := mem_of_find? hr
  obtain ⟨hmem', hq⟩ := mem_of_find? hr'
  have hsame : r = r' := by
    have heq : r.name = r'.name := heq
    have hfind := find?_of_mem hnames hmem' List.mem_cons_self
    rw [← heq, find?_of_mem hnames hmem List.mem_cons_self] at hfind
    exact Option.some_inj.1 hfind
  exact hpq r.names (List.mem_map_of_mem hmem) hp (hsame ▸ hq)

/-- A field is given what its names say. -/
theorem lookup_assigned (hnames : (rules.map Rule.names).flatten.Nodup) {n : String} {ns : List String}
    (h : n :: ns ∈ rules.map Rule.names) (members : List (String × Json)) :
    (assigned rules members).lookup n = said members (n :: ns) := by
  obtain ⟨r, hr, hrule⟩ := List.mem_map.1 h
  obtain ⟨rfl, rfl⟩ := List.cons.inj hrule
  change (assigned rules members).lookup r.name = said members r.names
  induction members with
  | nil => rfl
  | cons p members ih =>
    rw [assigned, List.filterMap_cons, said_cons]
    by_cases hp : p.1 ∈ r.names
    · rw [find?_of_mem hnames hr hp, if_pos hp, Option.map_some]
      exact List.lookup_cons_self
    · -- The member is no field, or another one, and so has another name.
      rw [if_neg hp, ← ih]
      cases hfind : rules.find? (·.accepts p.1) with
      | none => rfl
      | some r' =>
        obtain ⟨hmem, hp'⟩ := mem_of_find? hfind
        have hne : r.name ≠ r'.name := by
          intro heq
          have hsame := find?_of_mem hnames hmem List.mem_cons_self
          rw [← heq, find?_of_mem hnames hr List.mem_cons_self] at hsame
          exact hp (Option.some_inj.1 hsame ▸ hp')
        rw [Option.map_some]
        dsimp only
        rw [List.lookup_cons, beq_false_of_ne hne]
        rfl

/-- Members are taken for fields only if their values pass the checks of these fields. -/
theorem check_of_byName {members : Members} {es : List (String × Node)} (hlists : members.Lists es)
    {given : List (String × Node)} {result : List (String × Node) × Place}
    (h : byName rules given members = .ok result) :
    ∀ p ∈ es, ∀ r, rules.find? (·.accepts p.1) = some r → r.check p.2 = .ok () := by
  induction hlists generalizing given with
  | done stop => exact fun p hp => absurd hp List.not_mem_nil
  | @member key name v ms rest hname _ ih =>
    unfold byName at h
    rw [hname, ok_bind] at h
    cases hfind : rules.find? (·.accepts name) with
    | none =>
      rw [hfind] at h
      obtain ⟨_, -, h⟩ := bind_eq_ok.1 h
      refine List.forall_mem_cons.2 ⟨fun r hr => ?_, ih h⟩
      rw [hfind] at hr
      cases hr
    | some r =>
      rw [hfind] at h
      dsimp only at h
      split at h
      · cases h
      · cases hcheck : r.check v with
        | error p =>
          rw [hcheck] at h
          cases h
        | ok _ =>
          rw [hcheck] at h
          refine List.forall_mem_cons.2 ⟨fun r' hr' => ?_, ih h⟩
          obtain rfl := Option.some_inj.1 (hfind.symm.trans hr')
          exact hcheck

end

/-! ## Shapes that check what they build -/

/-- Whether the values of which a record is built pass the checks of their fields. -/
def Checks (s : Shape α) : Prop := ∀ look a, s.build look = .ok a → s.Reads look a

theorem Checks.field (f : Field α) : (ofField f).Checks := by
  intro look a h
  cases hlook : look f.name with
  | some n =>
    simp only [ofField, hlook] at h
    exact .field hlook h
  | none =>
    cases habsent : f.absent with
    | none => simp only [ofField, hlook, habsent, reduceCtorEq] at h
    | some b =>
      simp only [ofField, hlook, habsent, Except.ok.injEq] at h
      exact .absent hlook (h ▸ habsent)

theorem Checks.map {s : Shape α} (f : α → β) (h : s.Checks) : (f <$> s).Checks := by
  intro look b hb
  obtain ⟨a, ha, rfl⟩ := build_map.1 hb
  exact (h look a ha).map f

theorem Checks.seq {s : Shape (α → β)} {t : Shape α} (hs : s.Checks) (ht : t.Checks) :
    (s <*> t).Checks := by
  intro look b hb
  obtain ⟨f, hf, a, ha, rfl⟩ := build_seq.1 hb
  exact (hs look f hf).seq (ht look a ha)

/-- An object of which no two members give one field is read as the record that is built of what they
give. -/
theorem decode_ofJson_iff {s : Shape α} (hs : s.Checks) {members : List (String × Json)}
    (hnodup : ((assigned s.rules members).map Prod.fst).Nodup) (name : String) {a : α} :
    (s.decode name).ofJson (.object members) = .ok a ↔
      s.build (fun n => ((assigned s.rules members).lookup n).map Node.ofJson) = .ok a := by
  refine ⟨fun h => ?_, fun h => Reads.ofJson hnodup (hs _ a h) name⟩
  obtain ⟨_, -, h⟩ := bind_eq_ok.1 h
  obtain ⟨⟨given, stop⟩, hgiven, h⟩ := bind_eq_ok.1 h
  -- The members were taken for fields, so that their values pass the checks, and what they give is known.
  have hlists := lists_ofMembers members
  obtain ⟨given', stop', hgiven', hlookup⟩ := byName_of_lists hlists
    (fun p hp => by obtain ⟨m, -, rfl⟩ := List.mem_map.1 hp; exact skip_ofJson m.2)
    (by rw [assigned_unplaced, unplaced, List.map_map]; exact hnodup)
    (check_of_byName hlists hgiven) [] fun _ _ => rfl
  cases hgiven.symm.trans hgiven'
  have hlook : (fun n => ((assigned s.rules members).lookup n).map Node.ofJson) = fun n => given.lookup n :=
    funext fun n => by
      rw [hlookup, assigned_unplaced, lookup_unplaced]
      exact Option.or_none.symm
  rw [hlook]
  exact mapError_eq_ok.1 h

/-- Objects that say the same give the same record, or none, if they say no field twice. -/
theorem decode_respelled {s : Shape α} (hs : s.Checks) (hnames : (s.rules.map Rule.names).flatten.Nodup)
    {members members' : List (String × Json)} (hsingle : Single (s.rules.map Rule.names) members)
    (h : Respelled (s.rules.map Rule.names) members members') (name : String) {a : α} :
    (s.decode name).ofJson (.object members') = .ok a ↔
      (s.decode name).ofJson (.object members) = .ok a := by
  have hperm := assigned_of_respelled hnames h
  have hnodup := nodup_assigned hnames hsingle
  have hnodup' := (hperm.map Prod.fst).nodup_iff.2 hnodup
  have hlook : (fun n => ((assigned s.rules members').lookup n).map Node.ofJson) =
      fun n => ((assigned s.rules members).lookup n).map Node.ofJson :=
    funext fun n => congrArg _ (lookup_eq_of_perm hperm hnodup' n)
  rw [decode_ofJson_iff hs hnodup', decode_ofJson_iff hs hnodup, hlook]

/-! ## Fields that may be absent -/

/-- A field that may be absent or `null` is built of what its value says, if it has one. -/
theorem build_optional_iff {d : Decoder α} {read? : Json → Option α} (hnull : read? .null = none)
    (hread : ∀ v a, d.ofJson v = .ok a ↔ read? v = some a) {name : String} {spellings : List String}
    {look : String → Option Node} {value : Option Json} (hlook : look name = value.map Node.ofJson)
    {x : Option α} :
    (ofField (.optional name d spellings)).build look = .ok x ↔ FirstOf read? value.toList x := by
  cases value with
  | none =>
    simp only [ofField, Field.optional, Field.withDefault, hlook, Option.map_none, FirstOf]
    exact ⟨fun h => by cases h; exact ⟨List.forall_mem_nil _, rfl⟩, fun h => by rw [h.2]; rfl⟩
  | some v =>
    have hbuild : (ofField (.optional name d spellings)).build look = (Decoder.option d).ofJson v := by
      simp only [ofField, Field.optional, Field.withDefault, hlook, Option.map_some]
      rfl
    rw [hbuild]
    -- Whether it is `null` is looked at before the value is read.
    by_cases hv : v = .null
    · rw [hv, FirstOf, Option.toList_some, List.findSome?_singleton, hnull]
      refine ⟨fun h => ?_, fun h => by rw [h.2]; rfl⟩
      cases h
      exact ⟨fun w hw => .inl (List.mem_singleton.1 hw), rfl⟩
    · rw [Decoder.option_ofJson hv, map_eq_ok, FirstOf, Option.toList_some, List.findSome?_singleton]
      constructor
      · rintro ⟨a, ha, rfl⟩
        have hsome := (hread v a).1 ha
        refine ⟨fun w hw => .inr ?_, hsome.symm⟩
        rw [List.mem_singleton.1 hw, hsome]
        rfl
      · rintro ⟨hkind, rfl⟩
        obtain ⟨a, ha⟩ := Option.isSome_iff_exists.1 ((hkind v (by simp)).resolve_left hv)
        exact ⟨a, (hread v a).2 ha, ha.symm⟩

/-- A field is built of what is given for it. -/
theorem build_field {f : Field α} {look : String → Option Node} {given : Option Node}
    (h : look f.name = given) : (ofField f).build look = (ofField f).build fun _ => given := by
  simp only [ofField, h]

end Shape

end TripClient.Json
