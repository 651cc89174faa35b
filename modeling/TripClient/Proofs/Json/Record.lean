import Mathlib.Data.List.Basic
import TripClient.Json.Record
import TripClient.Proofs.Sorted
import TripClient.Proofs.Success

/-!
# Records that are read back

A way to write values *inverts* a decoder if every value that the decoder gives, from whatever
document, is read back from what is written for it (`Decoder.Inverts`). A record is written as an object
of its fields. It is read back if its fields are: the members of an object whose names are those of
different fields are taken for these fields (`Shape.byName_of_lists`), and each field is built from what
stands under its name (`Shape.Reads`). So records are read back as soon as each record that the shape
builds is built again from what is written (`Shape.mirrored`).
-/

namespace TripClient.Json

variable {α β : Type}

/-! ## Values that are passed over -/

mutual

/-- Any value can be passed over. -/
theorem skip_ofJson : ∀ v : Json, Decoder.skip (.ofJson v) = .ok ()
  | .null | .bool _ | .number _ | .string _ => rfl
  | .array elements => skipItems_ofElements elements
  | .object members => skipMembers_ofMembers members

theorem skipItems_ofElements : ∀ vs : List Json, Decoder.skipItems (.ofElements vs) = .ok ()
  | [] => rfl
  | v :: vs => by
    rw [Items.ofElements, Decoder.skipItems, skip_ofJson v]
    exact skipItems_ofElements vs

theorem skipMembers_ofMembers :
    ∀ ms : List (String × Json), Decoder.skipMembers (.ofMembers ms) = .ok ()
  | [] => rfl
  | (_, v) :: ms => by
    rw [Members.ofMembers, Decoder.skipMembers, skip_ofJson v]
    exact skipMembers_ofMembers ms

end

/-! ## Decoders that are inverted -/

namespace Decoder

/-- Each value that the decoder gives is read back from what is written for it. -/
def Inverts (d : Decoder α) (write : α → Json) : Prop :=
  ∀ n a, d n = .ok a → d.ofJson (write a) = .ok a

theorem text_inverts : text.Inverts .string := fun _ _ _ => rfl

theorem bool_inverts : bool.Inverts .bool := fun _ _ _ => rfl

theorem float_inverts : float.Inverts fun x => .number (.float x) := fun _ _ _ => rfl

/-- A whole number that is read is not too large to be read again. -/
theorem natUpTo_inverts (max : Nat) (typeName : String) : (natUpTo max typeName).Inverts .ofNat := by
  intro n a h
  have ha : a ≤ max := by
    unfold natUpTo at h
    split at h
    · next m span =>
      split at h
      · next hm =>
        cases h
        omega
      · cases h
    · cases h
  have hrange : 0 ≤ (a : Int) ∧ (a : Int) ≤ (max : Int) := by omega
  exact if_pos hrange

/-- A value that is not `null` may also be absent. -/
theorem option_ofJson {d : Decoder α} {v : Json} (hv : v ≠ .null) :
    (option d).ofJson v = some <$> d.ofJson v := by
  cases v with
  | null => exact absurd rfl hv
  | bool | number | string | array | object => rfl

theorem option_inverts {d : Decoder α} {write : α → Json} {write? : Option α → Json}
    (hd : d.Inverts write) (hnull : ∀ a, write a ≠ .null) (hnone : write? none = .null)
    (hsome : ∀ a, write? (some a) = write a) : (option d).Inverts write? := by
  intro n a? h
  cases a? with
  | none =>
    rw [hnone]
    rfl
  | some a =>
    have ha : ∃ n, d n = .ok a := by
      unfold option at h
      split at h
      · cases h
      · obtain ⟨b, hb, hba⟩ := map_eq_ok.1 h
        cases hba
        exact ⟨_, hb⟩
    obtain ⟨m, hm⟩ := ha
    rw [hsome, option_ofJson (hnull a), hd m a hm]
    rfl

/-- The elements of a list that is read were each read. -/
theorem exists_of_mem_items {d : Decoder α} :
    ∀ {its : Items} {as : List α}, items d its = .ok as → ∀ a ∈ as, ∃ n, d n = .ok a
  | .done _, as, h, a, ha => by
    cases h
    cases ha
  | .item _ v rest, as, h, a, ha => by
    unfold items at h
    cases hv : d v with
    | error p =>
      rw [hv] at h
      cases h
    | ok b =>
      rw [hv] at h
      obtain ⟨bs, hbs, rfl⟩ := map_eq_ok.1 h
      rcases List.mem_cons.1 ha with rfl | ha
      · exact ⟨v, hv⟩
      · exact exists_of_mem_items hbs a ha
  | .broken _ _ _, as, h, a, ha => by cases h
  | .cut, as, h, a, ha => by cases h

/-- Elements are read back one after the other. -/
theorem items_ofElements {d : Decoder α} {write : α → Json} {as : List α}
    (h : ∀ a ∈ as, d.ofJson (write a) = .ok a) : items d (.ofElements (as.map write)) = .ok as := by
  induction as with
  | nil => rfl
  | cons a as ih =>
    obtain ⟨ha, has⟩ := List.forall_mem_cons.1 h
    rw [ofJson] at ha
    rw [List.map_cons, Items.ofElements, items, ha, ih has]
    rfl

/-- A text may also be absent. -/
theorem ofText?_inverts : (option text).Inverts .ofText? :=
  option_inverts text_inverts (fun _ => nofun) rfl fun _ => rfl

theorem list_inverts {d : Decoder α} {write : α → Json} (hd : d.Inverts write) :
    (list d).Inverts fun as => .array (as.map write) := by
  intro n as h
  have has : ∀ a ∈ as, ∃ n, d n = .ok a := by
    unfold list at h
    split at h
    · obtain ⟨-, -, h⟩ := bind_eq_ok.1 h
      exact exists_of_mem_items h
    · cases h
  refine items_ofElements fun a ha => ?_
  obtain ⟨m, hm⟩ := has a ha
  exact hd m a hm

end Decoder

/-! ## Records -/

namespace Field

/-- What a field gives, or has when it is absent, is read back from what is written for it. -/
def Inverts (f : Field α) (write : α → Json) : Prop :=
  ∀ a, ((∃ n, f.decode n = .ok a) ∨ f.absent = some a) → f.decode.ofJson (write a) = .ok a

variable {d : Decoder α} {write : α → Json} {name : String} {spellings : List String}

theorem required_inverts (hd : d.Inverts write) : (required name d spellings).Inverts write := by
  rintro a (⟨n, h⟩ | h)
  · exact hd n a h
  · cases h

theorem withDefault_inverts {a₀ : α} (hd : d.Inverts write) (h₀ : d.ofJson (write a₀) = .ok a₀) :
    (withDefault name d a₀ spellings).Inverts write := by
  rintro a (⟨n, h⟩ | h)
  · exact hd n a h
  · cases h
    exact h₀

theorem optional_inverts {write? : Option α → Json} (hd : (Decoder.option d).Inverts write?)
    (hnone : write? none = .null) : (optional name d spellings).Inverts write? := by
  refine withDefault_inverts hd ?_
  rw [hnone]
  rfl

end Field

/-! ## Members -/

/-- The members of an object, under their names. -/
inductive Members.Lists : Members → List (String × Node) → Prop
  | done (stop : Place) : Members.Lists (.done stop) []
  | member {key : Key} {name : String} {v : Node} {rest : Members} {es : List (String × Node)} :
      key.name = .ok name → Members.Lists rest es → Members.Lists (.member key v rest) ((name, v) :: es)

/-- Members without places. -/
def unplaced (members : List (String × Json)) : List (String × Node) :=
  members.map fun p => (p.1, Node.ofJson p.2)

theorem lists_ofMembers (members : List (String × Json)) :
    (Members.ofMembers members).Lists (unplaced members) := by
  induction members with
  | nil => exact .done _
  | cons p rest ih => exact .member rfl ih

theorem lookup_unplaced (n : String) (members : List (String × Json)) :
    (unplaced members).lookup n = (members.lookup n).map Node.ofJson := by
  induction members with
  | nil => rfl
  | cons p rest ih =>
    rw [unplaced, List.map_cons, List.lookup_cons, List.lookup_cons]
    cases n == p.1 with
    | true => rfl
    | false => exact ih

namespace Shape

/-- The members of an object that give fields, under the names of these fields. -/
def assigned {γ : Type} (rules : List Rule) (members : List (String × γ)) : List (String × γ) :=
  members.filterMap fun p => (rules.find? (·.accepts p.1)).map fun r => (r.name, p.2)

theorem assigned_unplaced (rules : List Rule) (members : List (String × Json)) :
    assigned rules (unplaced members) = unplaced (assigned rules members) := by
  rw [assigned, assigned, unplaced, unplaced, List.filterMap_map, List.map_filterMap]
  refine List.filterMap_congr fun p _ => ?_
  rw [Function.comp_apply, Option.map_map]
  rfl

/-- If each name is that of a field, each member gives the field of its name. -/
theorem assigned_eq_self {γ : Type} {rules : List Rule} {members : List (String × γ)} {ns : List String}
    (hfields : ∀ n ∈ ns, (rules.find? (·.accepts n)).map Rule.name = some n)
    (hns : ∀ n ∈ members.map Prod.fst, n ∈ ns) : assigned rules members = members := by
  have hself : ∀ p ∈ members,
      ((rules.find? (·.accepts p.1)).map fun r => (r.name, p.2)) = some p := by
    intro p hp
    obtain ⟨r, hr, hname⟩ := Option.map_eq_some_iff.1 (hfields p.1 (hns _ (List.mem_map_of_mem hp)))
    rw [hr, Option.map_some, hname]
  rw [assigned, List.filterMap_congr hself, List.filterMap_some]

/-- Members of which no two give one field, and whose values pass, give their fields. -/
theorem byName_of_lists {rules : List Rule} {members : Members} {es : List (String × Node)}
    (hlists : members.Lists es) (hskip : ∀ p ∈ es, Decoder.skip p.2 = .ok ())
    (hnodup : ((assigned rules es).map Prod.fst).Nodup)
    (hcheck : ∀ p ∈ es, ∀ r, rules.find? (·.accepts p.1) = some r → r.check p.2 = .ok ())
    (given : List (String × Node)) (hfresh : ∀ p ∈ assigned rules es, given.lookup p.1 = none) :
    ∃ given' stop, byName rules given members = .ok (given', stop) ∧
      ∀ n, given'.lookup n = ((assigned rules es).lookup n).or (given.lookup n) := by
  induction hlists generalizing given with
  | done stop => exact ⟨given, stop, rfl, fun _ => rfl⟩
  | @member key name v ms rest hname _ ih =>
    obtain ⟨hv, hrest⟩ := List.forall_mem_cons.1 hcheck
    obtain ⟨hskipv, hskip⟩ := List.forall_mem_cons.1 hskip
    cases hfind : rules.find? (·.accepts name) with
    | none =>
      have hassigned : assigned rules ((name, v) :: rest) = assigned rules rest := by
        rw [assigned, List.filterMap_cons_none (by rw [hfind]; rfl), assigned]
      rw [hassigned] at hnodup hfresh ⊢
      obtain ⟨given', stop, hgiven', hlookup⟩ := ih hskip hnodup hrest given hfresh
      refine ⟨given', stop, ?_, hlookup⟩
      rw [← hgiven', byName]
      simp only [bind, Except.bind, hname, hfind, hskipv]
    | some r =>
      have hassigned : assigned rules ((name, v) :: rest) = (r.name, v) :: assigned rules rest := by
        rw [assigned, List.filterMap_cons_some (by rw [hfind]; rfl), assigned]
      rw [hassigned] at hnodup hfresh ⊢
      obtain ⟨hr, hnodup⟩ := List.nodup_cons.1 hnodup
      obtain ⟨hfreshr, hfresh⟩ := List.forall_mem_cons.1 hfresh
      have hfresh' : ∀ p ∈ assigned rules rest, List.lookup p.1 ((r.name, v) :: given) = none := by
        intro p hp
        have hmem : p.1 ∈ (assigned rules rest).map Prod.fst := List.mem_map_of_mem hp
        have hne : (p.1 == r.name) = false := beq_false_of_ne fun heq => hr (heq ▸ hmem)
        rw [List.lookup_cons, hne]
        exact hfresh p hp
      obtain ⟨given', stop, hgiven', hlookup⟩ := ih hskip hnodup hrest _ hfresh'
      refine ⟨given', stop, ?_, fun n => ?_⟩
      · rw [← hgiven', byName]
        have hnew : (given.lookup r.name).isSome = false := by rw [hfreshr]; rfl
        simp only [bind, Except.bind, hname, hfind, hnew, hv r hfind, Bool.false_eq_true, if_false]
      · rw [hlookup, List.lookup_cons, List.lookup_cons]
        cases hn : n == r.name with
        | false => rfl
        | true =>
          rw [beq_iff_eq.1 hn, Sorted.lookup_eq_none_of_not_mem hr]
          rfl

/-- From what `look` has under the names of the fields the shape builds `a`. -/
structure Reads (s : Shape α) (look : String → Option Node) (a : α) : Prop where
  check : ∀ r ∈ s.rules, ∀ n, look r.name = some n → r.check n = .ok ()
  build : s.build look = .ok a

variable {look : String → Option Node}

theorem Reads.field {f : Field α} {n : Node} {a : α} (hlook : look f.name = some n)
    (h : f.decode n = .ok a) : (ofField f).Reads look a := by
  refine ⟨fun r hr m hm => ?_, ?_⟩
  · obtain rfl := List.mem_singleton.1 hr
    obtain rfl : n = m := Option.some.inj (hlook.symm.trans hm)
    simp only [h, Except.map]
  · simp only [ofField, hlook, h]

theorem Reads.absent {f : Field α} {a : α} (hlook : look f.name = none) (h : f.absent = some a) :
    (ofField f).Reads look a := by
  refine ⟨fun r hr m hm => ?_, ?_⟩
  · obtain rfl := List.mem_singleton.1 hr
    rw [hlook] at hm
    cases hm
  · simp only [ofField, hlook, h]

theorem Reads.map {s : Shape α} {a : α} (f : α → β) (h : s.Reads look a) :
    (f <$> s).Reads look (f a) :=
  ⟨h.check, map_eq_ok.2 ⟨a, h.build, rfl⟩⟩

theorem Reads.seq {s : Shape (α → β)} {t : Shape α} {f : α → β} {a : α} (hs : s.Reads look f)
    (ht : t.Reads look a) : (s <*> t).Reads look (f a) := by
  refine ⟨fun r hr => ?_, bind_eq_ok.2 ⟨f, hs.build, bind_eq_ok.2 ⟨a, ht.build, rfl⟩⟩⟩
  rcases List.mem_append.1 hr with hr | hr
  · exact hs.check r hr
  · exact ht.check r hr

theorem Reads.of_eq {s : Shape α} {a b : α} (h : s.Reads look a) (hab : a = b) : s.Reads look b :=
  hab ▸ h

/-- An object of which no two members give one field is read by what stands under the fields. -/
theorem Reads.decode {s : Shape α} {members : Members} {es : List (String × Node)} {a : α}
    (hlists : members.Lists es) (hskip : ∀ p ∈ es, Decoder.skip p.2 = .ok ())
    (hnodup : ((assigned s.rules es).map Prod.fst).Nodup)
    (h : s.Reads (fun n => (assigned s.rules es).lookup n) a) (name : String) (start : Place)
    (head : Node) : s.decode name (.object start (.ok ()) head members) = .ok a := by
  have hcheck : ∀ p ∈ es, ∀ r, s.rules.find? (·.accepts p.1) = some r → r.check p.2 = .ok () := by
    intro p hp r hr
    refine h.check r (List.mem_of_find?_eq_some hr) p.2 (Sorted.lookup_of_mem hnodup ?_)
    exact List.mem_filterMap.2 ⟨p, hp, by rw [hr]; rfl⟩
  obtain ⟨given, stop, hgiven, hlookup⟩ := byName_of_lists hlists hskip hnodup hcheck [] fun _ _ => rfl
  have hfields : (fun n => given.lookup n) = fun n => (assigned s.rules es).lookup n :=
    funext fun n => (hlookup n).trans Option.or_none
  rw [Shape.decode, hgiven]
  simp only [bind, Except.bind]
  rw [hfields, mapError_eq_ok]
  exact h.build

/-- So is an object without places. -/
theorem Reads.ofJson {s : Shape α} {members : List (String × Json)} {a : α}
    (hnodup : ((assigned s.rules members).map Prod.fst).Nodup)
    (h : s.Reads (fun n => ((assigned s.rules members).lookup n).map Node.ofJson) a) (name : String) :
    (s.decode name).ofJson (.object members) = .ok a := by
  have hskip : ∀ p ∈ unplaced members, Decoder.skip p.2 = .ok () := by
    intro p hp
    obtain ⟨m, -, rfl⟩ := List.mem_map.1 hp
    exact skip_ofJson m.2
  refine Reads.decode (lists_ofMembers members) hskip ?_ ?_ name .nowhere (.null .nowhere)
  · rw [assigned_unplaced, unplaced, List.map_map]
    exact hnodup
  · rw [assigned_unplaced]
    simp only [lookup_unplaced]
    exact h

/-! ### What a shape builds -/

theorem build_map {s : Shape α} {f : α → β} {given : String → Option Node} {b : β} :
    (f <$> s).build given = .ok b ↔ ∃ a, s.build given = .ok a ∧ f a = b :=
  map_eq_ok

theorem build_seq {s : Shape (α → β)} {t : Shape α} {given : String → Option Node} {b : β} :
    (s <*> t).build given = .ok b ↔
      ∃ f, s.build given = .ok f ∧ ∃ a, t.build given = .ok a ∧ f a = b := by
  refine bind_eq_ok.trans (exists_congr fun f => and_congr_right fun _ => ?_)
  refine bind_eq_ok.trans (exists_congr fun a => and_congr_right fun _ => ?_)
  exact ⟨Except.ok.inj, congrArg _⟩

/-- A field is built from what is given for it, or is absent. -/
theorem of_build_field {f : Field α} {given : String → Option Node} {a : α}
    (h : (ofField f).build given = .ok a) : (∃ n, f.decode n = .ok a) ∨ f.absent = some a := by
  simp only [ofField] at h
  split at h
  · exact .inl ⟨_, h⟩
  · next ha =>
    cases h
    exact .inr ha
  · cases h

/-- A field that was built is built again from what is written for it. -/
theorem Reads.again {f : Field α} {write : α → Json} {given : String → Option Node} {a : α}
    (hf : f.Inverts write) (h : (ofField f).build given = .ok a)
    (hlook : look f.name = some (.ofJson (write a))) : (ofField f).Reads look a :=
  .field hlook (hf a (of_build_field h))

/-- A record that is read was built. -/
theorem build_of_decode {s : Shape α} {name : String} {n : Node} {a : α}
    (h : s.decode name n = .ok a) : ∃ given, s.build given = .ok a := by
  unfold decode at h
  split at h
  · obtain ⟨-, -, h⟩ := bind_eq_ok.1 h
    obtain ⟨⟨given, stop⟩, -, h⟩ := bind_eq_ok.1 h
    exact ⟨_, mapError_eq_ok.1 h⟩
  · obtain ⟨-, -, h⟩ := bind_eq_ok.1 h
    obtain ⟨⟨given, rest⟩, -, h⟩ := bind_eq_ok.1 h
    obtain ⟨b, hb, h⟩ := bind_eq_ok.1 h
    refine ⟨fun field => given.lookup field, ?_⟩
    split at h
    · split at h
      · cases h
      · cases h
        exact hb
    · obtain ⟨-, -, h⟩ := bind_eq_ok.1 h
      cases h
      exact hb
  · cases h

/-! ### Records as objects -/

/-- Records are written as objects with the members `members`, whose names are `ns`. -/
structure Writes (write : α → Json) (members : α → List (String × Json)) (ns : List String) : Prop where
  write_eq : ∀ a, write a = .ofMembers (members a)
  names_eq : ∀ a, (members a).map Prod.fst = ns
  nodup : ns.Nodup

/-- Values are read back, and are written as objects that have no members under other names than
`ns`. -/
structure Mirrored (d : Decoder α) (write : α → Json) (ns : List String) : Prop where
  inverts : d.Inverts write
  object : ∀ a, ∃ members, write a = .object members ∧
    ∀ n, n ∉ ns → Sorted.get? n members = none

/-- Records are read back if each record that the shape builds is built again from its members, and each
name under which they are written is that of a field. -/
theorem mirrored {s : Shape α} {write : α → Json} {members : α → List (String × Json)}
    {ns : List String} (h : Writes write members ns)
    (hfields : ∀ n ∈ ns, (s.rules.find? (·.accepts n)).map Rule.name = some n)
    (hagain : ∀ given a, s.build given = .ok a →
      s.Reads (fun n => ((members a).lookup n).map Node.ofJson) a)
    (name : String) : Mirrored (s.decode name) write ns := by
  have hmembers (a : α) : ((members a).map Prod.fst).Nodup := by
    rw [h.names_eq]
    exact h.nodup
  have hlookup (a : α) (n : String) : Sorted.get? n (Sorted.ofList (members a)) = (members a).lookup n :=
    Sorted.get?_ofList (hmembers a) n
  refine ⟨fun n a ha => ?_, fun a => ⟨_, h.write_eq a, fun n hn => ?_⟩⟩
  rotate_left
  · rw [hlookup]
    exact Sorted.lookup_eq_none_of_not_mem (by rwa [h.names_eq])
  obtain ⟨given, hgiven⟩ := build_of_decode ha
  have hassigned : assigned s.rules (Sorted.ofList (members a)) = Sorted.ofList (members a) :=
    assigned_eq_self hfields fun n hn => h.names_eq a ▸ Sorted.mem_names_ofList hn
  rw [h.write_eq]
  refine Reads.ofJson (by rw [hassigned]; exact Sorted.nodup_ofList _) ?_ name
  rw [hassigned]
  have hlook : (fun n => ((Sorted.ofList (members a)).lookup n).map Node.ofJson) =
      fun n => ((members a).lookup n).map Node.ofJson :=
    funext fun n => congrArg _ (hlookup a n)
  rw [hlook]
  exact hagain given a hgiven

end Shape

end TripClient.Json
