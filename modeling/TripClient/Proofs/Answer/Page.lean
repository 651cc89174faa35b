import TripClient.Answer.Listing
import TripClient.Travel.Group

/-!
# Nothing is lost in a page

However a server wraps a list, and whatever else stands in the objects around it (`Wraps`), the page
that is read holds the elements that can be read, in their order, and counts the others (`Sifted`);
each detail is that of the innermost object which has it in the right type (`page_lossless`).
-/

namespace TripClient

variable {α : Type} {name? : Option String} {elements : List Json}

namespace Listing

/-! ## Wrapped lists -/

/-- Of the list names, one has the value `v` in an object and no other has any. What stands under
other names does not matter. -/
structure Only (name? : Option String) (members : List (String × Json)) (n : String) (v : Json) :
    Prop where
  mem : n ∈ names name?
  get : Sorted.get? n members = some v
  alone : ∀ m ∈ names name?, m ≠ n → Sorted.get? m members = none

/-- The ways in which a server wraps a list. With each go the objects around the list, the innermost
first. -/
inductive Wraps (name? : Option String) (elements : List Json) :
    Json → List (List (String × Json)) → Prop
  | bare : Wraps name? elements (.array elements) []
  | named {members n} (h : Only name? members n (.array elements)) :
    Wraps name? elements (.object members) [members]
  | oneDown {outer inner o i} (ho : Only name? outer o (.object inner))
    (hi : Only name? inner i (.array elements)) : Wraps name? elements (.object outer) [inner, outer]

/-- A detail, from the innermost object that has it in the right type. -/
def innermost {β : Type} (name : String) (read : Json → Option β)
    (around : List (List (String × Json))) : Option β :=
  around.findSome? fun members => (Sorted.get? name members).bind read

/-- The listing of the elements with the details of the objects around them. -/
structure Is (l : Listing) (elements : List Json) (around : List (List (String × Json))) : Prop where
  items : l.items = elements
  count : l.count = innermost "count" Json.nat? around
  next : l.next = innermost "next" Json.text? around
  previous : l.previous = innermost "previous" Json.text? around

/-- A search through the list names ends at the only one that has a value. -/
theorem Only.findSome? {members : List (String × Json)} {n : String} {v : Json}
    (h : Only name? members n v) {β : Type} {f : String → Option β} {b : β} (hb : f n = some b)
    (hnone : ∀ m, Sorted.get? m members = none → f m = none) :
    (names name?).findSome? f = some b := by
  have hsome : ((names name?).findSome? f).isSome :=
    List.findSome?_isSome_iff.2 ⟨n, h.mem, by rw [hb]; rfl⟩
  obtain ⟨b', hb'⟩ := Option.isSome_iff_exists.1 hsome
  obtain ⟨m, hm, hfm⟩ := List.exists_of_findSome?_eq_some hb'
  have hmn : m = n := by
    refine Decidable.byContradiction fun hne => ?_
    rw [hnone m (h.alone m hm hne)] at hfm
    cases hfm
  subst hmn
  rw [hb', ← hfm, hb]

theorem at?_eq_none {members : List (String × Json)} {m : String}
    (h : Sorted.get? m members = none) : at? members m = none := by
  rw [at?, h]

theorem at?_array {members : List (String × Json)} {n : String}
    (h : Sorted.get? n members = some (.array elements)) :
    at? members n = some (beside members elements) := by
  rw [at?, h]

theorem is_beside (members : List (String × Json)) : (beside members elements).Is elements [members] := by
  have hone {β : Type} (name : String) (read : Json → Option β) :
      (Sorted.get? name members).bind read = innermost name read [members] := by
    rw [innermost, List.findSome?_cons, List.findSome?_nil]
    cases (Sorted.get? name members).bind read <;> rfl
  exact ⟨rfl, hone "count" Json.nat?, hone "next" Json.text?, hone "previous" Json.text?⟩

theorem Is.inside {outer inner : Listing} {outerElements : List Json}
    {around around' : List (List (String × Json))} (ho : outer.Is outerElements around')
    (hi : inner.Is elements around) : (inside outer inner).Is elements (around ++ around') := by
  have happend {β : Type} (name : String) (read : Json → Option β) :
      innermost name read (around ++ around') =
        (innermost name read around).or (innermost name read around') := by
    rw [innermost, List.findSome?_append, innermost, innermost]
  refine ⟨hi.items, ?_, ?_, ?_⟩
  · rw [happend, ← hi.count, ← ho.count]
    rfl
  · rw [happend, ← hi.next, ← ho.next]
    rfl
  · rw [happend, ← hi.previous, ← ho.previous]
    rfl

/-- A wrapped list is found, with its details. -/
theorem Wraps.ofJson {payload : Json} {around : List (List (String × Json))}
    (h : Wraps name? elements payload around) :
    ∃ l, Listing.ofJson name? payload = .ok l ∧ l.Is elements around := by
  cases h with
  | bare => exact ⟨.bare elements, rfl, rfl, rfl, rfl, rfl⟩
  | @named members n h =>
    have hat : atOrWithin? name? members n = some (.ok (beside members elements)) := by
      rw [atOrWithin?, h.get, at?_array h.get]
      rfl
    have hfound := h.findSome? hat fun m hm => by
      rw [atOrWithin?, hm, at?_eq_none hm]
      rfl
    refine ⟨beside members elements, ?_, is_beside members⟩
    rw [Listing.ofJson, hfound]
    rfl
  | @oneDown outer inner o i ho hi =>
    have hinner : ofMembers name? inner = .ok (beside inner elements) := by
      rw [ofMembers, hi.findSome? (at?_array hi.get) fun _ => at?_eq_none]
    have hat : atOrWithin? name? outer o =
        some (.ok (inside (beside outer []) (beside inner elements))) := by
      simp only [atOrWithin?, ho.get, hinner, Except.map]
    have hfound := ho.findSome? hat fun m hm => by
      rw [atOrWithin?, hm, at?_eq_none hm]
      rfl
    have houter : (beside outer []).Is [] [outer] := is_beside outer
    refine ⟨inside (beside outer []) (beside inner elements), ?_, houter.inside (is_beside inner)⟩
    rw [Listing.ofJson, hfound]
    rfl

end Listing

namespace Page

/-! ## What is read of the elements -/

/-- Elements one after the other: those that can be read give their values, and the others are
counted. -/
inductive Sifted (d : Json.Decoder α) : List Json → List α → Nat → Prop
  | nil : Sifted d [] [] 0
  | read {v vs a as n} (h : d.ofJson v = .ok a) (rest : Sifted d vs as n) :
    Sifted d (v :: vs) (a :: as) n
  | skip {v vs p as n} (h : d.ofJson v = .error p) (rest : Sifted d vs as n) :
    Sifted d (v :: vs) as (n + 1)

variable {d : Json.Decoder α}

/-- Each element is either read or counted. -/
theorem Sifted.length {vs : List Json} {as : List α} {n : Nat} (h : Sifted d vs as n) :
    as.length + n = vs.length := by
  induction h with
  | nil => rfl
  | read _ _ ih =>
    simp only [List.length_cons]
    omega
  | skip _ _ ih =>
    simp only [List.length_cons]
    omega

/-- A page holds what its elements give. -/
theorem sifted_ofListing (d : Json.Decoder α) (l : Listing) :
    Sifted d l.items (ofListing d l).items (ofListing d l).skipped := by
  obtain ⟨items, count, next, previous⟩ := l
  simp only [ofListing]
  induction items with
  | nil => exact .nil
  | cons v vs ih =>
    cases hv : d.ofJson v with
    | ok a =>
      have hread : (d.ofJson v).toOption = some a := by rw [hv]; rfl
      simp only [List.filterMap_cons, List.countP_cons, hread, Option.isNone_some]
      exact .read hv ih
    | error p =>
      have hread : (d.ofJson v).toOption = none := by rw [hv]; rfl
      simp only [List.filterMap_cons, List.countP_cons, hread, Option.isNone_none]
      exact .skip hv ih

/-- The page of elements with objects around them. A count is a whole number that is not negative, and
no whole number of a value has more than 64 bits; whatever else stands there is no count. -/
structure Holds (d : Json.Decoder α) (elements : List Json) (around : List (List (String × Json)))
    (p : Page α) : Prop where
  sifted : Sifted d elements p.items p.skipped
  length : p.items.length + p.skipped = elements.length
  count : p.count = Listing.innermost "count" Json.nat? around
  next : p.next = Listing.innermost "next" Json.text? around
  previous : p.previous = Listing.innermost "previous" Json.text? around

/-- However a list is wrapped, its page is read, and so are its elements on their own. -/
theorem page_lossless (d : Json.Decoder α) {payload : Json} {around : List (List (String × Json))}
    (h : Listing.Wraps name? elements payload around) :
    ∃ p, Page.ofJson d name? payload = .ok p ∧ p.Holds d elements around ∧
      Answer.list d name? payload = .ok p.items := by
  obtain ⟨l, hl, hitems, hcount, hnext, hprevious⟩ := h.ofJson
  have hpage : Page.ofJson d name? payload = .ok (ofListing d l) := by
    rw [Page.ofJson, hl]
    rfl
  have hsifted := sifted_ofListing d l
  rw [hitems] at hsifted
  refine ⟨ofListing d l, hpage, ⟨hsifted, hsifted.length, hcount, hnext, hprevious⟩, ?_⟩
  rw [Answer.list, hpage]
  rfl

/-- Two groups, of which one has no name, in an object with a link; around it stand a number that the
inner object has as a text, and another link. -/
theorem groups_lossless :
    let elements : List Json :=
      [.object [("id", .ofNat 1), ("name", .string "Sapa")], .object [("id", .ofNat 2)]]
    let inner := [("count", .string "2"), ("next", .string "inner"), ("results", .array elements)]
    let outer := [("count", Json.ofNat 9), ("data", .object inner), ("next", .string "outer")]
    Listing.Wraps (some "groups") elements (.object outer) [inner, outer] ∧
      ∃ p, Page.ofJson Group.decoder (some "groups") (.object outer) = .ok p ∧
        p.Holds Group.decoder elements [inner, outer] ∧
          Answer.list Group.decoder (some "groups") (.object outer) = .ok p.items := by
  intro elements inner outer
  have hwraps : Listing.Wraps (some "groups") elements (.object outer) [inner, outer] :=
    .oneDown (o := "data") (i := "results")
      ⟨by decide, rfl, by simp [Listing.names, Listing.generalNames, Sorted.get?, List.lookup_cons, outer]⟩
      ⟨by decide, rfl, by simp [Listing.names, Listing.generalNames, Sorted.get?, List.lookup_cons, inner]⟩
  exact ⟨hwraps, page_lossless Group.decoder hwraps⟩

end Page

end TripClient
