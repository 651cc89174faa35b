import TripClient.Failure.Basic
import TripClient.Proofs.Sorted
import TripClient.Proofs.Success
import TripClient.Proofs.Text.Excerpt

/-!
# What a server says

A value bears a text if it is one that is not blank, or if one of its elements, or its `detail` or its
`message`, bears one (`Bears`), and it says the first of those (`Says`, `firstText?_eq_some_iff`). The value
of an error body has more places for a text: any member of an object may hold it, but three of them come
first (`Selects`, `selects_iff`). What is selected is not blank, so something is left of it when it is
trimmed, and cut to what fits it still begins with a character that is not blank (`shown_of_not_blank`). All
in all an error body is taken to say what `taken_from_body` states.
-/

namespace TripClient.Failure.ServerMessage

/-! ## The first text in a value -/

/-- There is a text in the value that is not blank. -/
inductive Bears : Json → Prop
  | text {s : String} : Text.isBlankText s = false → Bears (.string s)
  | element {v : Json} {elements : List Json} : v ∈ elements → Bears v → Bears (.array elements)
  | detail {v : Json} {members : List (String × Json)} :
      Sorted.get? "detail" members = some v → Bears v → Bears (.object members)
  | message {v : Json} {members : List (String × Json)} :
      Sorted.get? "message" members = some v → Bears v → Bears (.object members)

/-- No member of that name bears a text. -/
def Silent (name : String) (members : List (String × Json)) : Prop :=
  ∀ v, Sorted.get? name members = some v → ¬ Bears v

/-- The first text in the value that is not blank. -/
inductive Says : Json → String → Prop
  | text {s : String} : Text.isBlankText s = false → Says (.string s) s
  | element {before after : List Json} {v : Json} {s : String} :
      (∀ w ∈ before, ¬ Bears w) → Says v s → Says (.array (before ++ v :: after)) s
  | detail {v : Json} {s : String} {members : List (String × Json)} :
      Sorted.get? "detail" members = some v → Says v s → Says (.object members) s
  | message {v : Json} {s : String} {members : List (String × Json)} :
      Silent "detail" members → Sorted.get? "message" members = some v → Says v s →
      Says (.object members) s

theorem Says.bears {v : Json} {s : String} (h : Says v s) : Bears v := by
  induction h with
  | text hs => exact .text hs
  | element _ _ ih => exact .element (List.mem_append_right _ List.mem_cons_self) ih
  | detail hget _ ih => exact .detail hget ih
  | message _ hget _ ih => exact .message hget ih

theorem Says.not_blank {v : Json} {s : String} (h : Says v s) : Text.isBlankText s = false := by
  induction h with
  | text hs => exact hs
  | element _ _ ih | detail _ _ ih | message _ _ _ ih => exact ih

/-- In several values a text is looked for one after the other. -/
theorem firstOf_eq (elements : List Json) : firstOf elements = elements.findSome? firstText? := by
  induction elements with
  | nil => rfl
  | cons v rest ih =>
    rw [firstOf, List.findSome?_cons, ih]
    cases firstText? v <;> rfl

/-- In an object it is looked for under a name. -/
theorem firstIn_eq (name : String) (members : List (String × Json)) :
    firstIn name members = (Sorted.get? name members).bind firstText? := by
  induction members with
  | nil => rfl
  | cons m rest ih =>
    obtain ⟨n, v⟩ := m
    rw [firstIn, Sorted.get?, List.lookup_cons, BEq.comm (a := name)]
    cases n == name with
    | true => rfl
    | false => exact ih

/-- A text is found in a value that bears one. -/
theorem isSome_firstText?_of_bears {v : Json} (h : Bears v) : (firstText? v).isSome := by
  induction h with
  | text hs => simp [firstText?, hs]
  | @element v elements hv _ ih =>
    rw [firstText?, firstOf_eq]
    exact List.findSome?_isSome_iff.2 ⟨v, hv, ih⟩
  | detail hget _ ih =>
    rw [firstText?, firstIn_eq, hget, Option.bind_some, Option.isSome_or, ih, Bool.true_or]
  | message hget _ ih =>
    rw [firstText?, firstIn_eq "message", hget, Option.bind_some, Option.isSome_or, ih, Bool.or_true]

theorem not_bears_of_firstText?_eq_none {v : Json} (h : firstText? v = none) : ¬ Bears v := fun hv => by
  have hsome := isSome_firstText?_of_bears hv
  rw [h] at hsome
  cases hsome

theorem silent_of_firstIn_eq_none {name : String} {members : List (String × Json)}
    (h : firstIn name members = none) : Silent name members := fun v hv => by
  rw [firstIn_eq, hv, Option.bind_some] at h
  exact not_bears_of_firstText?_eq_none h

theorem exists_of_firstIn {name : String} {members : List (String × Json)} {s : String}
    (h : firstIn name members = some s) : ∃ v, Sorted.get? name members = some v ∧ firstText? v = some s := by
  rw [firstIn_eq] at h
  exact Option.bind_eq_some_iff.1 h

theorem sizeOf_lt_of_get? {name : String} {members : List (String × Json)} {v : Json}
    (h : Sorted.get? name members = some v) : sizeOf v < sizeOf members := by
  have hsize := List.sizeOf_lt_of_mem (Sorted.mem_of_get? h)
  rw [Prod.mk.sizeOf_spec] at hsize
  omega

theorem says_of_firstText? {v : Json} {s : String} (h : firstText? v = some s) : Says v s := by
  match v with
  | .string t =>
    rw [firstText?] at h
    split at h
    · cases h
    · next ht =>
      cases h
      exact .text (Bool.eq_false_iff.2 ht)
  | .array elements =>
    rw [firstText?, firstOf_eq] at h
    obtain ⟨before, w, after, helements, hw, hbefore⟩ := List.findSome?_eq_some_iff.1 h
    have hmem : w ∈ elements := helements ▸ List.mem_append_right _ List.mem_cons_self
    have hsize := List.sizeOf_lt_of_mem hmem
    have hsays := says_of_firstText? hw
    rw [helements]
    exact .element (fun x hx => not_bears_of_firstText?_eq_none (hbefore x hx)) hsays
  | .object members =>
    rw [firstText?] at h
    rcases Option.or_eq_some_iff.1 h with hdetail | ⟨hnone, hmessage⟩
    · obtain ⟨w, hget, hw⟩ := exists_of_firstIn hdetail
      have hsize := sizeOf_lt_of_get? hget
      exact .detail hget (says_of_firstText? hw)
    · obtain ⟨w, hget, hw⟩ := exists_of_firstIn hmessage
      have hsize := sizeOf_lt_of_get? hget
      exact .message (silent_of_firstIn_eq_none hnone) hget (says_of_firstText? hw)
termination_by sizeOf v

theorem firstText?_eq_none_iff {v : Json} : firstText? v = none ↔ ¬ Bears v := by
  refine ⟨not_bears_of_firstText?_eq_none, fun h => ?_⟩
  cases hv : firstText? v with
  | none => rfl
  | some s => exact absurd (says_of_firstText? hv).bears h

theorem firstIn_eq_none_iff {name : String} {members : List (String × Json)} :
    firstIn name members = none ↔ Silent name members := by
  simp only [firstIn_eq, Option.bind_eq_none_iff, firstText?_eq_none_iff, Silent]

/-- The text that is found is the first. -/
theorem firstText?_eq_some_iff {v : Json} {s : String} : firstText? v = some s ↔ Says v s := by
  refine ⟨says_of_firstText?, fun h => ?_⟩
  induction h with
  | text hs => rw [firstText?, hs]; rfl
  | element hbefore _ ih =>
    rw [firstText?, firstOf_eq]
    exact List.findSome?_eq_some_iff.2
      ⟨_, _, _, rfl, ih, fun w hw => firstText?_eq_none_iff.2 (hbefore w hw)⟩
  | detail hget _ ih => rw [firstText?, firstIn_eq, hget, Option.bind_some, ih, Option.some_or]
  | message hsilent hget _ ih =>
    rw [firstText?, firstIn_eq_none_iff.2 hsilent, Option.none_or, firstIn_eq, hget, Option.bind_some, ih]

/-- A value says something if and only if it bears a text. -/
theorem exists_says_iff {v : Json} : (∃ s, Says v s) ↔ Bears v := by
  refine ⟨fun ⟨_, h⟩ => h.bears, fun h => ?_⟩
  obtain ⟨s, hs⟩ := Option.isSome_iff_exists.1 (isSome_firstText?_of_bears h)
  exact ⟨s, says_of_firstText? hs⟩

theorem firstIn_eq_some_iff {name : String} {members : List (String × Json)} {s : String} :
    firstIn name members = some s ↔ ∃ v, Sorted.get? name members = some v ∧ Says v s := by
  simp only [firstIn_eq, Option.bind_eq_some_iff, firstText?_eq_some_iff]

/-! ## The text that is selected -/

/-- The value of an error body tells something: it is a text that is not blank, or one of its elements, or a
member of whatever name, bears one. -/
inductive Tells : Json → Prop
  | text {s : String} : Text.isBlankText s = false → Tells (.string s)
  | element {v : Json} {elements : List Json} : v ∈ elements → Bears v → Tells (.array elements)
  | member {name : String} {v : Json} {members : List (String × Json)} :
      (name, v) ∈ members → Bears v → Tells (.object members)

/-- The text that the value of an error body tells. -/
inductive Selects : Json → String → Prop
  | text {s : String} : Text.isBlankText s = false → Selects (.string s) s
  | element {elements : List Json} {s : String} : Says (.array elements) s → Selects (.array elements) s
  /-- The first of the preferred members that bears a text alone counts. -/
  | preferred {before after : List String} {name : String} {v : Json} {s : String}
      {members : List (String × Json)} :
      ["detail", "error", "message"] = before ++ name :: after → (∀ n ∈ before, Silent n members) →
      Sorted.get? name members = some v → Says v s → Selects (.object members) s
  /-- If none does, the member of the least name that bears one counts, with its name in front. -/
  | member {name : String} {v : Json} {s : String} {members : List (String × Json)} :
      (∀ n ∈ ["detail", "error", "message"], Silent n members) → (name, v) ∈ members →
      (∀ m ∈ members, m.1 < name → ¬ Bears m.2) → Says v s →
      Selects (.object members) (if name = "non_field_errors" then s else name ++ ": " ++ s)

theorem attributed_eq (name s : String) :
    attributed name s = if name = "non_field_errors" then s else name ++ ": " ++ s := by
  simp only [attributed, beq_iff_eq]

theorem isBlankText_attributed (name : String) {s : String} (h : Text.isBlankText s = false) :
    Text.isBlankText (attributed name s) = false := by
  unfold attributed
  split
  · exact h
  · rw [Text.isBlankText, List.all_eq_false] at h ⊢
    obtain ⟨c, hc, hblank⟩ := h
    exact ⟨c, by simp [String.toList_append, hc], hblank⟩

theorem Selects.not_blank {v : Json} {s : String} (h : Selects v s) : Text.isBlankText s = false := by
  cases h with
  | text hs => exact hs
  | element hs => exact hs.not_blank
  | preferred _ _ _ hs => exact hs.not_blank
  | member _ _ _ hs => exact attributed_eq _ _ ▸ isBlankText_attributed _ hs.not_blank

/-- Among the preferred members the first that bears a text has it. -/
theorem findSome?_preferred_eq_some_iff {members : List (String × Json)} {s : String} :
    (preferred.findSome? fun name => firstIn name members) = some s ↔
      ∃ before name after v, preferred = before ++ name :: after ∧ (∀ n ∈ before, Silent n members) ∧
        Sorted.get? name members = some v ∧ Says v s := by
  simp only [List.findSome?_eq_some_iff, firstIn_eq_some_iff, firstIn_eq_none_iff]
  constructor
  · rintro ⟨before, name, after, heq, ⟨v, hget, hsays⟩, hbefore⟩
    exact ⟨before, name, after, v, heq, hbefore, hget, hsays⟩
  · rintro ⟨before, name, after, v, heq, hbefore, hget, hsays⟩
    exact ⟨before, name, after, heq, ⟨v, hget, hsays⟩, hbefore⟩

theorem findSome?_preferred_eq_none_iff {members : List (String × Json)} :
    (preferred.findSome? fun name => firstIn name members) = none ↔ ∀ n ∈ preferred, Silent n members := by
  simp only [List.findSome?_eq_none_iff, firstIn_eq_none_iff]

/-- Among all members the one of the least name that bears a text has it, with its name in front. -/
theorem findSome?_members_eq_some_iff {members : List (String × Json)} {t : String}
    (hrising : Sorted.Rising members) :
    (members.findSome? fun (name, v) => (firstText? v).map (attributed name)) = some t ↔
      ∃ name v s, (name, v) ∈ members ∧ (∀ m ∈ members, m.1 < name → ¬ Bears m.2) ∧ Says v s ∧
        attributed name s = t := by
  simp only [hrising.findSome?_eq_some_iff, Option.map_eq_some_iff, Option.map_eq_none_iff,
    firstText?_eq_some_iff, firstText?_eq_none_iff]
  constructor
  · rintro ⟨⟨name, v⟩, hmem, ⟨s, hsays, heq⟩, hless⟩
    exact ⟨name, v, s, hmem, hless, hsays, heq⟩
  · rintro ⟨name, v, s, hmem, hless, hsays, heq⟩
    exact ⟨(name, v), hmem, ⟨s, hsays, heq⟩, hless⟩

theorem selects_of_select?_object {members : List (String × Json)} {s : String} (hrising : Sorted.Rising members)
    (h : select? (.object members) = some s) : Selects (.object members) s := by
  rcases Option.or_eq_some_iff.1 h with h | ⟨hnone, h⟩
  · obtain ⟨_, _, _, _, heq, hbefore, hget, hs⟩ := findSome?_preferred_eq_some_iff.1 h
    exact .preferred heq hbefore hget hs
  · obtain ⟨name, v, t, hmem, hless, hs, rfl⟩ := (findSome?_members_eq_some_iff hrising).1 h
    rw [attributed_eq]
    exact .member (findSome?_preferred_eq_none_iff.1 hnone) hmem hless hs

/-- Of a value that was read the text that is selected is the one it tells. -/
theorem selects_iff {v : Json} {s : String} (hrising : ∀ members, v = .object members → Sorted.Rising members) :
    Selects v s ↔ Text.isBlankText s = false ∧ select? v = some s := by
  refine ⟨fun h => ⟨h.not_blank, ?_⟩, fun ⟨hblank, h⟩ => ?_⟩
  · cases h with
    | text => rfl
    | element hs => exact firstText?_eq_some_iff.2 hs
    | preferred heq hbefore hget hs =>
      rw [select?, findSome?_preferred_eq_some_iff.2 ⟨_, _, _, _, heq, hbefore, hget, hs⟩, Option.some_or]
    | member hsilent hmem hless hs =>
      rw [select?, findSome?_preferred_eq_none_iff.2 hsilent, Option.none_or, ← attributed_eq]
      exact (findSome?_members_eq_some_iff (hrising _ rfl)).2 ⟨_, _, _, hmem, hless, hs, rfl⟩
  · cases v with
    | null | bool _ | number _ => cases h
    | string t =>
      cases h
      exact .text hblank
    | array elements => exact .element (firstText?_eq_some_iff.1 h)
    | object members => exact selects_of_select?_object (hrising members rfl) h

/-- A text is selected if and only if the value tells something. -/
theorem exists_selects_iff {v : Json} (hrising : ∀ members, v = .object members → Sorted.Rising members) :
    (∃ s, Selects v s) ↔ Tells v := by
  constructor
  · rintro ⟨s, h⟩
    cases h with
    | text hs => exact .text hs
    | element hs =>
      cases hs.bears with
      | element hmem hv => exact .element hmem hv
    | preferred _ _ hget hs => exact .member (Sorted.mem_of_get? hget) hs.bears
    | member _ hmem _ hs => exact .member hmem hs.bears
  · rintro (hs | ⟨hmem, hv⟩ | @⟨name, v, members, hmem, hv⟩)
    · exact ⟨_, .text hs⟩
    · obtain ⟨s, hs⟩ := exists_says_iff.2 (.element hmem hv)
      exact ⟨s, .element hs⟩
    · -- All members are searched in the end, so something is found, be it under a preferred name or not.
      have hsome : (select? (.object members)).isSome := by
        rw [select?, Option.isSome_or, Bool.or_eq_true]
        refine .inr (List.findSome?_isSome_iff.2 ⟨(name, v), hmem, ?_⟩)
        rw [Option.isSome_map]
        exact isSome_firstText?_of_bears hv
      obtain ⟨s, hs⟩ := Option.isSome_iff_exists.1 hsome
      exact ⟨s, selects_of_select?_object (hrising members rfl) hs⟩

/-! ## What is shown -/

/-- What a value is taken to say is the text it tells, trimmed and cut to what fits. -/
theorem ofJson?_eq_some_iff {v : Json} {message : String}
    (hrising : ∀ members, v = .object members → Sorted.Rising members) :
    ofJson? v = some message ↔ ∃ s, Selects v s ∧ Text.IsExcerpt 512 (Text.trim s) message := by
  simp only [selects_iff hrising, Text.isExcerpt_iff]
  simp only [ofJson?, Option.bind_eq_bind, Option.bind_eq_some_iff, Option.ite_none_left_eq_some,
    String.isEmpty_iff, Text.trim_eq_empty_iff, Bool.not_eq_true, Option.some.injEq]
  constructor
  · rintro ⟨s, hs, hblank, rfl⟩
    exact ⟨s, ⟨hblank, hs⟩, rfl⟩
  · rintro ⟨s, ⟨hblank, hs⟩, rfl⟩
    exact ⟨s, hs, hblank, rfl⟩

example : ofJson? (.object [("email", .array [.string " ", .string "taken "])]) = some "email: taken" := by
  decide +kernel

/-- What is shown of a text that is not blank begins with a character that is not blank. -/
theorem shown_of_not_blank {s message : String} (hblank : Text.isBlankText s = false)
    (h : Text.IsExcerpt 512 (Text.trim s) message) :
    ∃ c rest, message.toList = c :: rest ∧ Text.isBlank c = false := by
  have hhead := h.head?_eq (by decide)
  cases hs : (Text.trim s).toList with
  | nil =>
    have hempty : Text.trim s = "" := String.toList_inj.1 hs
    rw [Text.trim_eq_empty_iff, hblank] at hempty
    cases hempty
  | cons c rest =>
    rw [hs, List.head?_cons, List.head?_eq_some_iff] at hhead
    obtain ⟨rest', hmessage⟩ := hhead
    exact ⟨c, rest', hmessage, Text.isBlank_of_head_trim (by rw [hs]; rfl)⟩

/-- The body is JSON of that value. -/
def Parses (body : ByteArray) (v : Json) : Prop :=
  Json.Decoder.ofDocument Json.Decoder.any (.ofBytes body.toList) = .ok v

/-- The members of an object that was read rise. -/
theorem rising_of_any {n : Json.Node} {members : List (String × Json)}
    (h : Json.Decoder.any n = .ok (.object members)) : Sorted.Rising members := by
  cases n with
  | null | bool | broken => cases h
  | number | string =>
    obtain ⟨_, _, h⟩ := map_eq_ok.1 h
    cases h
  | array =>
    obtain ⟨_, _, h⟩ := bind_eq_ok.1 h
    obtain ⟨_, _, h⟩ := bind_eq_ok.1 h
    cases h
  | object =>
    obtain ⟨_, _, h⟩ := bind_eq_ok.1 h
    obtain ⟨pairs, _, h⟩ := bind_eq_ok.1 h
    cases h
    exact Sorted.rising_ofList pairs

theorem Parses.rising {body : ByteArray} {v : Json} (h : Parses body v) :
    ∀ members, v = .object members → Sorted.Rising members := by
  rintro members rfl
  obtain ⟨_, hread, h⟩ := bind_eq_ok.1 h
  obtain ⟨_, _, h⟩ := bind_eq_ok.1 h
  cases h
  exact rising_of_any hread

/-- What an error body is taken to say. -/
theorem ofBody?_eq_some_iff {body : ByteArray} {message : String} :
    ofBody? body = some message ↔
      ∃ v s, Parses body v ∧ Selects v s ∧ Text.IsExcerpt 512 (Text.trim s) message := by
  unfold ofBody?
  split
  · next v hv =>
    rw [ofJson?_eq_some_iff (Parses.rising hv)]
    constructor
    · rintro ⟨s, hs⟩
      exact ⟨v, s, hv, hs⟩
    · rintro ⟨w, s, hw, hs⟩
      cases hv.symm.trans hw
      exact ⟨s, hs⟩
  · next hnone =>
    refine ⟨nofun, ?_⟩
    rintro ⟨v, _, hv, _⟩
    cases hnone.symm.trans hv

theorem isSome_ofBody?_iff {body : ByteArray} : (ofBody? body).isSome ↔ ∃ v, Parses body v ∧ Tells v := by
  rw [Option.isSome_iff_exists]
  constructor
  · rintro ⟨message, h⟩
    obtain ⟨v, s, hv, hs, -⟩ := ofBody?_eq_some_iff.1 h
    exact ⟨v, hv, (exists_selects_iff hv.rising).1 ⟨s, hs⟩⟩
  · rintro ⟨v, hv, htells⟩
    obtain ⟨s, hs⟩ := (exists_selects_iff hv.rising).2 htells
    exact ⟨_, ofBody?_eq_some_iff.2 ⟨v, s, hv, hs, Text.isExcerpt_truncate _ _⟩⟩

theorem shown_of_ofBody? {body : ByteArray} {message : String} (h : ofBody? body = some message) :
    ∃ c rest, message.toList = c :: rest ∧ Text.isBlank c = false := by
  obtain ⟨_, _, -, hs, hexcerpt⟩ := ofBody?_eq_some_iff.1 h
  exact shown_of_not_blank hs.not_blank hexcerpt

/-- Two bodies in which the same member counts are taken to say the same. -/
theorem ofBody?_congr {body other : ByteArray} {members others : List (String × Json)} {before after : List String}
    {name : String} {v : Json} (hbody : Parses body (.object members)) (hother : Parses other (.object others))
    (heq : ["detail", "error", "message"] = before ++ name :: after) (hmembers : ∀ n ∈ before, Silent n members)
    (hothers : ∀ n ∈ before, Silent n others) (hv : Sorted.get? name members = some v)
    (hv' : Sorted.get? name others = some v) (hbears : Bears v) : ofBody? body = ofBody? other := by
  obtain ⟨s, hs⟩ := exists_says_iff.2 hbears
  have hexcerpt := Text.isExcerpt_truncate 512 (Text.trim s)
  rw [ofBody?_eq_some_iff.2 ⟨_, s, hbody, .preferred heq hmembers hv hs, hexcerpt⟩,
    ofBody?_eq_some_iff.2 ⟨_, s, hother, .preferred heq hothers hv' hs, hexcerpt⟩]

theorem message_ofStatus_ne_empty (status : Nat) (body : ByteArray) :
    (Failure.ofStatus status body).message ≠ "" := by
  unfold Failure.ofStatus
  split
  · next message h =>
    obtain ⟨c, rest, hmessage, -⟩ := shown_of_ofBody? h
    rintro rfl
    cases hmessage
  · -- The words for the status begin with words that are there whatever it is.
    intro hempty
    have hlength := congrArg (fun s : String => s.toList.length) hempty
    simp [String.toList_append] at hlength

/-- What an error body is taken to say. -/
structure TakenFrom (body : ByteArray) : Prop where
  /-- It says something if and only if it is JSON whose value tells something. -/
  isSome_iff : (ofBody? body).isSome ↔ ∃ v, Parses body v ∧ Tells v
  /-- What it says is the text that its value tells, trimmed and cut to what fits. -/
  eq_some_iff : ∀ message, ofBody? body = some message ↔
    ∃ v s, Parses body v ∧ Selects v s ∧ Text.IsExcerpt 512 (Text.trim s) message
  /-- The first preferred member that bears a text alone decides. -/
  alone : ∀ (other : ByteArray) (members others : List (String × Json)) (before after : List String)
    (name : String) (v : Json), Parses body (.object members) → Parses other (.object others) →
    ["detail", "error", "message"] = before ++ name :: after →
    (∀ n ∈ before, Silent n members) → (∀ n ∈ before, Silent n others) →
    Sorted.get? name members = some v → Sorted.get? name others = some v → Bears v →
    ofBody? body = ofBody? other
  /-- It begins with a character that is not blank. -/
  visible : ∀ message, ofBody? body = some message →
    ∃ c rest, message.toList = c :: rest ∧ Text.isBlank c = false
  /-- So the failure of an answer always has a message. -/
  ne_empty : ∀ status, (Failure.ofStatus status body).message ≠ ""

theorem taken_from_body (body : ByteArray) : TakenFrom body where
  isSome_iff := isSome_ofBody?_iff
  eq_some_iff _ := ofBody?_eq_some_iff
  alone _ _ _ _ _ _ _ hbody hother heq hmembers hothers hv hv' hbears :=
    ofBody?_congr hbody hother heq hmembers hothers hv hv' hbears
  visible _ := shown_of_ofBody?
  ne_empty status := message_ofStatus_ne_empty status body

end TripClient.Failure.ServerMessage
