import TripClient.Answer.Listing

/-!
# Where the list in an answer is found

Documented is an order: the answer itself, then what stands under a list name, then what stands one
level down in an object under a list name, each time by the order of the names (`documented?`). The
lookup goes through the names once and takes the first that has a list or an object
(`found?_object`). So it finds the list that is documented as long as no object stands before a list,
and the first object has a list in it if any has one (`Straight`); otherwise it may miss the list
that is there, or give another (`not_as_documented`). Whatever it gives, there is a list
(`looked_up`).
-/

namespace TripClient.Listing

variable {name? : Option String} {members : List (String × Json)}

/-! ## The documented order -/

/-- The list that a value is: an array, or `null` for an empty one. -/
def elements? : Json → Option (List Json)
  | .array items => some items
  | .null => some []
  | _ => none

/-- The list under the first of the names that has one. -/
def direct? (ns : List String) (members : List (String × Json)) : Option (List Json) :=
  ns.findSome? fun n => (Sorted.get? n members).bind elements?

/-- The list in an object, if the value is one. -/
def within? (name? : Option String) : Json → Option (List Json)
  | .object inner => direct? (names name?) inner
  | _ => none

/-- The list one level down: in the first of the objects under these names that has one. -/
def oneDown? (name? : Option String) (ns : List String) (members : List (String × Json)) :
    Option (List Json) :=
  ns.findSome? fun n => (Sorted.get? n members).bind (within? name?)

/-- The list in an answer, by the documented order. -/
def documented? (name? : Option String) : Json → Option (List Json)
  | .object members =>
    (direct? (names name?) members).or (oneDown? name? (names name?) members)
  | v => elements? v

/-- An array or `null` stands under the name. -/
def ListAt (members : List (String × Json)) (name : String) : Prop :=
  ∃ v items, Sorted.get? name members = some v ∧ elements? v = some items

/-- An answer with a list in it: one of the documented forms. -/
def HasList (name? : Option String) (v : Json) : Prop :=
  v = .null ∨ (∃ items, v = .array items) ∨ ∃ members, v = .object members ∧
    ((∃ n ∈ names name?, ListAt members n) ∨
      ∃ n ∈ names name?, ∃ inner, Sorted.get? n members = some (.object inner) ∧
        ∃ n' ∈ names name?, ListAt inner n')

theorem direct?_isSome_iff {ns : List String} :
    (direct? ns members).isSome ↔ ∃ n ∈ ns, ListAt members n := by
  rw [direct?, List.findSome?_isSome_iff]
  refine exists_congr fun n => and_congr_right fun _ => ?_
  rw [Option.isSome_iff_exists]
  constructor
  · rintro ⟨items, h⟩
    obtain ⟨v, hv, hitems⟩ := Option.bind_eq_some_iff.1 h
    exact ⟨v, items, hv, hitems⟩
  · rintro ⟨v, items, hv, hitems⟩
    exact ⟨items, Option.bind_eq_some_iff.2 ⟨v, hv, hitems⟩⟩

theorem oneDown?_isSome_iff {ns : List String} :
    (oneDown? name? ns members).isSome ↔
      ∃ n ∈ ns, ∃ inner, Sorted.get? n members = some (.object inner) ∧
        ∃ n' ∈ names name?, ListAt inner n' := by
  rw [oneDown?, List.findSome?_isSome_iff]
  refine exists_congr fun n => and_congr_right fun _ => ?_
  cases Sorted.get? n members with
  | none => simp
  | some v => cases v <;> simp [within?, direct?_isSome_iff]

/-- The documented order finds a list exactly in the documented forms. -/
theorem documented?_isSome_iff {v : Json} : (documented? name? v).isSome ↔ HasList name? v := by
  cases v with
  | object members =>
    rw [documented?, Option.isSome_or, Bool.or_eq_true, direct?_isSome_iff, oneDown?_isSome_iff]
    simp [HasList]
  | null | bool | number | string | array => simp [documented?, elements?, HasList]

/-! ## What the lookup takes -/

/-- The list that the lookup finds. -/
def found? (name? : Option String) (v : Json) : Option (List Json) :=
  (ofJson name? v).toOption.map (·.items)

/-- Whether a value ends the search: a list, or an object. -/
def decides : Json → Bool
  | .null | .array _ | .object _ => true
  | _ => false

/-- The first value under these names that ends the search. -/
def deciding? (ns : List String) (members : List (String × Json)) : Option Json :=
  ns.findSome? fun n => (Sorted.get? n members).filter decides

/-- No object comes before a list, and the first object has a list in it if any has one. -/
def Straight (name? : Option String) (v : Json) : Prop :=
  ∀ members inner, v = .object members → deciding? (names name?) members = some (.object inner) →
    direct? (names name?) members = none ∧
      (direct? (names name?) inner = none → oneDown? name? (names name?) members = none)

/-- What a step of the search takes, by the value that it meets. -/
theorem at?_items (members : List (String × Json)) (n : String) :
    (at? members n).map (·.items) = (Sorted.get? n members).bind elements? := by
  unfold at?
  cases Sorted.get? n members with
  | none => rfl
  | some v => cases v <;> rfl

/-- In an object in which objects do not count, the list under the first name that has one is found. -/
theorem ofMembers_items (name? : Option String) (members : List (String × Json)) :
    (ofMembers name? members).toOption.map (·.items) = direct? (names name?) members := by
  have hitems : direct? (names name?) members =
      ((names name?).findSome? (at? members)).map (·.items) := by
    simp only [direct?, ← at?_items, List.map_findSome?]
    rfl
  rw [hitems, ofMembers]
  cases (names name?).findSome? (at? members) <;> rfl

/-- The list that a value under a list name leads to. -/
def leadsTo? (name? : Option String) (v : Json) : Option (List Json) :=
  (elements? v).or (within? name? v)

/-- A step of the search ends it exactly at a value that decides, with the list to which it leads. -/
theorem atOrWithin?_items (name? : Option String) (members : List (String × Json)) (n : String) :
    (atOrWithin? name? members n).map (fun o => o.toOption.map (·.items)) =
      ((Sorted.get? n members).filter decides).map (leadsTo? name?) := by
  unfold atOrWithin? at?
  cases Sorted.get? n members with
  | none => rfl
  | some v =>
    cases v with
    | object inner =>
      have hinner : ((ofMembers name? inner).map (inside (beside members []))).toOption.map (·.items) =
          direct? (names name?) inner := by
        rw [← ofMembers_items]
        cases ofMembers name? inner <;> rfl
      exact congrArg some hinner
    | null | bool | number | string | array => rfl

/-- The search through an object: the first value that decides leads to the list, or to none. -/
theorem found?_object (name? : Option String) (members : List (String × Json)) :
    found? name? (.object members) = (deciding? (names name?) members).bind (leadsTo? name?) := by
  have hsteps : (deciding? (names name?) members).map (leadsTo? name?) =
      ((names name?).findSome? (atOrWithin? name? members)).map (fun o => o.toOption.map (·.items)) := by
    rw [deciding?, List.map_findSome?, List.map_findSome?]
    refine congrArg (List.findSome? · (names name?)) (funext fun n => ?_)
    exact (atOrWithin?_items name? members n).symm
  have hbind : (deciding? (names name?) members).bind (leadsTo? name?) =
      ((deciding? (names name?) members).map (leadsTo? name?)).join := by
    cases deciding? (names name?) members <;> rfl
  rw [hbind, hsteps, found?, ofJson]
  cases (names name?).findSome? (atOrWithin? name? members) <;> rfl

/-! ## When the two agree -/

/-- Where nothing decides there is no list. -/
theorem none_of_deciding?_eq_none (name? : Option String) {ns : List String}
    (h : deciding? ns members = none) :
    direct? ns members = none ∧ oneDown? name? ns members = none := by
  simp only [deciding?, direct?, oneDown?, List.findSome?_eq_none_iff] at h ⊢
  have hno (n : String) (hn : n ∈ ns) : ∀ v, Sorted.get? n members = some v → decides v = false := by
    intro v hv
    have := h n hn
    rw [hv, Option.filter_eq_none_iff] at this
    simpa using this v rfl
  refine ⟨fun n hn => ?_, fun n hn => ?_⟩ <;>
  · cases hv : Sorted.get? n members with
    | none => rfl
    | some v =>
      have := hno n hn v hv
      cases v <;> first | rfl | cases this

/-- A list that decides is the first one. -/
theorem direct?_of_deciding {ns : List String} {v : Json} {items : List Json}
    (h : deciding? ns members = some v) (hitems : elements? v = some items) :
    direct? ns members = some items := by
  obtain ⟨before, n, after, rfl, hn, hbefore⟩ := List.findSome?_eq_some_iff.1 h
  obtain ⟨hget, -⟩ := Option.filter_eq_some_iff.1 hn
  obtain ⟨hnone, -⟩ := none_of_deciding?_eq_none none (List.findSome?_eq_none_iff.2 hbefore)
  rw [direct?, List.findSome?_append, List.findSome?_cons, hget]
  rw [direct?] at hnone
  rw [hnone, Option.bind_some, hitems]
  rfl

/-- An object that decides is the first in which a list is looked for. -/
theorem oneDown?_of_deciding {ns : List String} {inner : List (String × Json)} {items : List Json}
    (h : deciding? ns members = some (.object inner))
    (hitems : direct? (names name?) inner = some items) : oneDown? name? ns members = some items := by
  obtain ⟨before, n, after, rfl, hn, hbefore⟩ := List.findSome?_eq_some_iff.1 h
  obtain ⟨hget, -⟩ := Option.filter_eq_some_iff.1 hn
  obtain ⟨-, hnone⟩ := none_of_deciding?_eq_none name? (List.findSome?_eq_none_iff.2 hbefore)
  rw [oneDown?, List.findSome?_append, List.findSome?_cons, hget]
  rw [oneDown?] at hnone
  rw [hnone, Option.bind_some, within?, hitems]
  rfl

/-- What the lookup gives, by what stands first. -/
theorem found?_eq_direct? {inner : List (String × Json)}
    (h : deciding? (names name?) members = some (.object inner)) :
    found? name? (.object members) = direct? (names name?) inner := by
  rw [found?_object, h]
  rfl

/-- A straight answer is looked up by the documented order. -/
theorem found?_eq_documented? {v : Json} (h : Straight name? v) :
    found? name? v = documented? name? v := by
  cases v with
  | null | bool | number | string | array => rfl
  | object members =>
    rw [documented?]
    cases hd : deciding? (names name?) members with
    | none =>
      obtain ⟨hdirect, hdown⟩ := none_of_deciding?_eq_none name? hd
      rw [found?_object, hd, hdirect, hdown]
      rfl
    | some w =>
      cases hw : elements? w with
      | some items =>
        rw [found?_object, hd, direct?_of_deciding hd hw, Option.bind_some, leadsTo?, hw]
        rfl
      | none =>
        obtain ⟨n, -, hn⟩ := List.exists_of_findSome?_eq_some hd
        obtain ⟨-, hdecides⟩ := Option.filter_eq_some_iff.1 hn
        cases w with
        | object inner =>
          obtain ⟨hdirect, hdown⟩ := h members inner rfl hd
          rw [found?_eq_direct? hd, hdirect, Option.none_or]
          cases hinner : direct? (names name?) inner with
          | none => exact (hdown hinner).symm
          | some items => exact (oneDown?_of_deciding hd hinner).symm
        | null | array => cases hw
        | bool | number | string => cases hdecides

/-- The lookup gives a list only if there is one. -/
theorem hasList_of_found? {v : Json} (h : (found? name? v).isSome) : HasList name? v := by
  rw [← documented?_isSome_iff]
  cases v with
  | null | bool | number | string | array => exact h
  | object members =>
    rw [found?_object] at h
    obtain ⟨items, hitems⟩ := Option.isSome_iff_exists.1 h
    obtain ⟨w, hw, hleads⟩ := Option.bind_eq_some_iff.1 hitems
    rw [documented?, Option.isSome_or, Bool.or_eq_true]
    rcases Option.or_eq_some_iff.1 hleads with hlist | ⟨-, hwithin⟩
    · exact .inl (by rw [direct?_of_deciding hw hlist]; rfl)
    · cases w with
      | object inner => exact .inr (by rw [oneDown?_of_deciding hw hwithin]; rfl)
      | null | bool | number | string | array => cases hwithin

/-- An answer without a list is straight. -/
theorem straight_of_documented?_eq_none {v : Json} (h : documented? name? v = none) :
    Straight name? v := by
  rintro members inner rfl -
  obtain ⟨hdirect, hdown⟩ := Option.or_eq_none_iff.1 h
  exact ⟨hdirect, fun _ => hdown⟩

/-- How the list in an answer is found. -/
structure LookedUp (name? : Option String) (v : Json) : Prop where
  /-- Nothing is taken for a list that is none. -/
  hasList : (found? name? v).isSome → HasList name? v
  /-- A straight answer is refused exactly if there is no list, and the documented one is found. -/
  documented : Straight name? v →
    ((found? name? v).isSome ↔ HasList name? v) ∧ found? name? v = documented? name? v
  /-- In any other answer there is a list, but the first object alone decides. -/
  otherwise : ¬ Straight name? v → HasList name? v ∧ ∃ members inner, v = .object members ∧
    deciding? (names name?) members = some (.object inner) ∧
      found? name? v = direct? (names name?) inner

/-- Every answer is looked up so, by every name. -/
theorem looked_up (name? : Option String) (v : Json) : LookedUp name? v := by
  refine ⟨hasList_of_found?, fun h => ?_, fun h => ⟨?_, ?_⟩⟩
  · have heq := found?_eq_documented? h
    exact ⟨by rw [heq, documented?_isSome_iff], heq⟩
  · rw [← documented?_isSome_iff, Option.isSome_iff_ne_none]
    exact fun hnone => h (straight_of_documented?_eq_none hnone)
  · obtain ⟨members, hmembers⟩ := Classical.not_forall.1 h
    obtain ⟨inner, hinner⟩ := Classical.not_forall.1 hmembers
    obtain ⟨rfl, hcrossed⟩ := Classical.not_imp.1 hinner
    obtain ⟨hd, -⟩ := Classical.not_imp.1 hcrossed
    exact ⟨members, inner, rfl, hd, found?_eq_direct? hd⟩

/-! ## An object before a list -/

/-- An object with nothing in it, before a list. -/
def emptyBeforeList : Json :=
  .object [("items", .array [.string "a"]), ("results", .object [("page", .ofNat 1)])]

/-- A list one level down, before a list. -/
def deepBeforeList : Json :=
  .object [("data", .array [.string "a"]), ("results", .object [("items", .array [])])]

/-- The list of the first is missed, and for that of the second another is given. -/
theorem not_as_documented :
    (HasList (some "groups") emptyBeforeList ∧ found? (some "groups") emptyBeforeList = none ∧
        documented? (some "groups") emptyBeforeList = some [.string "a"]) ∧
      found? (some "groups") deepBeforeList = some [] ∧
        documented? (some "groups") deepBeforeList = some [.string "a"] := by
  have hlist : documented? (some "groups") emptyBeforeList = some [.string "a"] := rfl
  exact ⟨⟨documented?_isSome_iff.1 (by rw [hlist]; rfl), rfl, hlist⟩, rfl, rfl⟩

end TripClient.Listing
