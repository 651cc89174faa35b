import TripClient.Proofs.Http.Headers

/-!
# What is in a list of headers

Headers are put into a list one after the other, and some of them are refused. Whatever was tried, the
names and the values in the list are such as may be sent, no name is there twice, and there are no more
than a hundred of them (`Sound`). A header that is refused changes nothing, and one that is put in changes
nothing but the headers of its name (`Insertion`); so under each name stands what was put in last
(`insertions_kept`).

A header makes room by what it replaces before the others are counted. That the count cannot fail then,
and that a failure on it has taken nothing away, holds only because no list is more than full.
-/

namespace TripClient.Http.Headers

variable {name name' value : String} {h : Headers}

/-! ## Names and values -/

/-- What is a name that may be put in. -/
structure IsName (name : String) : Prop where
  nonempty : name ≠ ""
  short : name.utf8ByteSize ≤ 256
  plain : ∀ c ∈ name.toList, c.isAlphanum ∨ c = '-' ∨ c = '_'
  /-- It is none of those that belong to the connection, in capital letters or small ones. -/
  free : ∀ m ∈ ["host", "content-length", "transfer-encoding"], ¬ sameName name m

/-- What is a value that may be put in. -/
structure IsValue (value : String) : Prop where
  short : value.utf8ByteSize ≤ 8192
  whole : ∀ c ∈ value.toList, c ≠ '\r' ∧ c ≠ '\n' ∧ c ≠ '\x00'

theorem sameName_iff : sameName name name' ↔ Text.lowercase name = Text.lowercase name' :=
  beq_iff_eq

theorem sameName_comm : sameName name name' = sameName name' name :=
  Bool.beq_comm

theorem isNameChar_iff {c : Char} : isNameChar c ↔ c.isAlphanum ∨ c = '-' ∨ c = '_' := by
  simp [isNameChar, or_assoc]

/-- The names that belong to the connection are written with small letters. -/
theorem lowercase_managed : ∀ m ∈ managed, Text.lowercase m = m := by
  decide +kernel

/-- A name belongs to the connection exactly if it is one of those names, however it is spelled. -/
theorem contains_managed_iff :
    managed.contains (Text.lowercase name) ↔ ∃ m ∈ managed, sameName name m := by
  rw [List.contains_iff_mem]
  constructor
  · intro h
    exact ⟨_, h, sameName_iff.2 (lowercase_managed _ h).symm⟩
  · rintro ⟨m, hm, hsame⟩
    rw [sameName_iff.1 hsame, lowercase_managed m hm]
    exact hm

/-- A name is refused unless it may be put in. -/
theorem nameRefusal?_eq_none_iff : nameRefusal? name = none ↔ IsName name := by
  constructor
  · intro h
    unfold nameRefusal? at h
    split at h
    · cases h
    next hempty =>
    split at h
    · cases h
    next hlong =>
    split at h
    · cases h
    next hplain =>
    split at h
    · cases h
    next hfree =>
    refine ⟨by simpa using hempty, Nat.not_lt.1 hlong, fun c hc => ?_, fun m hm hsame => ?_⟩
    · exact isNameChar_iff.1 (by simpa using List.find?_eq_none.1 hplain c hc)
    · exact hfree (contains_managed_iff.2 ⟨m, hm, hsame⟩)
  · rintro ⟨hnonempty, hshort, hplain, hfree⟩
    have hlong : ¬ maxNameBytes < name.utf8ByteSize := Nat.not_lt.2 hshort
    have hfind : name.toList.find? (fun c => !isNameChar c) = none := by
      rw [List.find?_eq_none]
      intro c hc
      simpa using isNameChar_iff.2 (hplain c hc)
    have hother : ¬ managed.contains (Text.lowercase name) := by
      intro h
      obtain ⟨m, hm, hsame⟩ := contains_managed_iff.1 h
      exact hfree m hm hsame
    rw [nameRefusal?, if_neg (by simpa using hnonempty), if_neg hlong, hfind]
    exact if_neg hother

/-- A value is refused unless it may be put in. -/
theorem valueRefusal?_eq_none_iff : valueRefusal? name value = none ↔ IsValue value := by
  have hwhole : value.toList.any endsValue = false ↔
      ∀ c ∈ value.toList, c ≠ '\r' ∧ c ≠ '\n' ∧ c ≠ '\x00' := by
    simp [endsValue, and_assoc]
  unfold valueRefusal?
  split
  · next hlong => exact ⟨nofun, fun h => absurd h.short (Nat.not_le.2 hlong)⟩
  next hshort =>
  split
  · next hends =>
    refine ⟨nofun, fun h => ?_⟩
    rw [hwhole.2 h.whole] at hends
    cases hends
  · next hends =>
    rw [Bool.not_eq_true] at hends
    exact ⟨fun _ => ⟨Nat.not_lt.1 hshort, hwhole.1 hends⟩, fun _ => rfl⟩

/-- A refusal of a name or of a value says so. -/
theorem refusal_eq_some {e : Error}
    (he : (nameRefusal? name).or (valueRefusal? name value) = some e) :
    ¬ (IsName name ∧ IsValue value) ∧ ∃ shown reason, e = .invalidHeader shown reason := by
  constructor
  · rintro ⟨hname, hvalue⟩
    rw [nameRefusal?_eq_none_iff.2 hname, valueRefusal?_eq_none_iff.2 hvalue] at he
    cases he
  · rcases Option.or_eq_some_iff.1 he with he | ⟨-, he⟩
    · unfold nameRefusal? at he
      repeat' split at he
      all_goals
        cases he
        try exact ⟨_, _, rfl⟩
    · unfold valueRefusal? at he
      repeat' split at he
      all_goals
        cases he
        try exact ⟨_, _, rfl⟩

/-! ## One insertion -/

/-- What becomes of a header that is tried: its name or its value is refused, or there are too many
others, or it goes behind those. -/
theorem insert_cases (name value : String) (h : Headers) :
    (¬ (IsName name ∧ IsValue value) ∧
      ∃ shown reason, h.insert name value = (h, .error (.invalidHeader shown reason))) ∨
    ((IsName name ∧ IsValue value) ∧ 100 ≤ (h.without name).size ∧ h.insert name value =
      (h.without name, .error (.tooManyHeaders ((h.without name).size + 1) 100))) ∨
    ((IsName name ∧ IsValue value) ∧ (h.without name).size < 100 ∧ h.insert name value =
      (⟨(h.without name).entries ++ [(name, value)]⟩, .ok ())) := by
  unfold insert
  split
  · next e he =>
    obtain ⟨hrefused, shown, reason, rfl⟩ := refusal_eq_some he
    exact .inl ⟨hrefused, shown, reason, rfl⟩
  · next hnone =>
    obtain ⟨hname, hvalue⟩ := Option.or_eq_none_iff.1 hnone
    have hfine := And.intro (nameRefusal?_eq_none_iff.1 hname) (valueRefusal?_eq_none_iff.1 hvalue)
    dsimp only
    split
    · next hfull => exact .inr (.inl ⟨hfine, hfull, rfl⟩)
    · next hroom => exact .inr (.inr ⟨hfine, Nat.lt_of_not_le hroom, rfl⟩)

/-- A header is put in if it may be, and there is room. -/
theorem insert_eq_ok_iff :
    (h.insert name value).2 = .ok () ↔ (IsName name ∧ IsValue value) ∧ (h.without name).size < 100 := by
  obtain ⟨hrefused, _, _, heq⟩ | ⟨_, hfull, heq⟩ | ⟨hfine, hroom, heq⟩ := insert_cases name value h
  · rw [heq]
    exact ⟨nofun, fun hok => absurd hok.1 hrefused⟩
  · rw [heq]
    exact ⟨nofun, fun hok => absurd hok.2 (Nat.not_lt.2 hfull)⟩
  · rw [heq]
    exact ⟨fun _ => ⟨hfine, hroom⟩, fun _ => rfl⟩

/-- What is true of every list into which headers were put. -/
structure Sound (h : Headers) : Prop where
  count : h.size ≤ 100
  distinct : h.entries.Pairwise fun e e' => ¬ sameName e.1 e'.1
  names : ∀ e ∈ h.entries, IsName e.1
  values : ∀ e ∈ h.entries, IsValue e.2

theorem sound_empty : Sound empty where
  count := Nat.zero_le _
  distinct := .nil
  names _ he := by cases he
  values _ he := by cases he

theorem size_without_le (name : String) (h : Headers) : (h.without name).size ≤ h.size :=
  List.length_filter_le _ _

/-- Leaving out a name that is there makes room. -/
theorem size_without_lt (hthere : (h.get? name).isSome) : (h.without name).size < h.size := by
  rw [get?, Option.isSome_map, List.find?_isSome] at hthere
  obtain ⟨e, he, hsame⟩ := hthere
  refine List.length_filter_lt_length_iff_exists.2 ⟨e, he, ?_⟩
  simpa using hsame

/-- A list that is not longer without a name has no header of that name. -/
theorem without_eq_self (hsize : h.size ≤ (h.without name).size) : h.without name = h := by
  have hfilter : h.entries.filter (fun e => !sameName e.1 name) = h.entries :=
    List.filter_sublist.eq_of_length_le hsize
  rw [without, hfilter]

namespace Sound

/-- Without a name there are no more than a hundred others exactly if the name is there or there is room
for it. -/
theorem size_without_lt_iff (hs : Sound h) :
    (h.without name).size < 100 ↔ (h.get? name).isSome ∨ h.size < 100 := by
  constructor
  · intro hroom
    by_cases hthere : (h.get? name).isSome
    · exact .inl hthere
    · rw [Option.not_isSome_iff_eq_none, get?, Option.map_eq_none_iff, List.find?_eq_none] at hthere
      have hsame : h.without name = h := by
        rw [without, List.filter_eq_self.2 fun e he => by simpa using hthere e he]
      rw [hsame] at hroom
      exact .inr hroom
  · rintro (hthere | hroom)
    · exact Nat.lt_of_lt_of_le (size_without_lt hthere) hs.count
    · exact Nat.lt_of_le_of_lt (size_without_le name h) hroom

/-- A header that is not put in leaves the list as it was. -/
theorem insert_of_error (hs : Sound h) (herror : (h.insert name value).2 ≠ .ok ()) :
    (h.insert name value).1 = h := by
  obtain ⟨_, _, _, heq⟩ | ⟨_, hfull, heq⟩ | ⟨_, _, heq⟩ := insert_cases name value h
  · rw [heq]
  · -- The list is full already, so it has lost nothing.
    rw [heq]
    exact without_eq_self (Nat.le_trans hs.count hfull)
  · rw [heq] at herror
    exact absurd rfl herror

theorem insert (hs : Sound h) (name value : String) : Sound (h.insert name value).1 := by
  obtain ⟨_, _, _, heq⟩ | ⟨_, hfull, heq⟩ | ⟨⟨hname, hvalue⟩, hroom, heq⟩ := insert_cases name value h
  · rw [heq]
    exact hs
  · rw [heq, without_eq_self (Nat.le_trans hs.count hfull)]
    exact hs
  · rw [heq]
    have hothers : ∀ e ∈ (h.without name).entries, e ∈ h.entries ∧ ¬ sameName e.1 name := by
      intro e he
      simpa using List.mem_filter.1 he
    refine ⟨?_, ?_, ?_, ?_⟩
    · rw [size, List.length_append]
      exact hroom
    · refine List.pairwise_append.2 ⟨hs.distinct.filter _, List.pairwise_singleton _ _, ?_⟩
      intro e he e' he'
      rw [List.mem_singleton.1 he']
      exact (hothers e he).2
    · intro e he
      rcases List.mem_append.1 he with he | he
      · exact hs.names e (hothers e he).1
      · rw [List.mem_singleton.1 he]
        exact hname
    · intro e he
      rcases List.mem_append.1 he with he | he
      · exact hs.values e (hothers e he).1
      · rw [List.mem_singleton.1 he]
        exact hvalue

end Sound

/-- The headers of all other names are as they were. -/
theorem without_insert (name value : String) (h : Headers) :
    (h.insert name value).1.without name = h.without name := by
  obtain ⟨_, _, _, heq⟩ | ⟨_, _, heq⟩ | ⟨_, _, heq⟩ := insert_cases name value h
  · rw [heq]
  · rw [heq]
    exact without_without name h
  · have hput : h.with? name value = .ok (h.insert name value).1 := by
      rw [with?, heq]
    exact without_with? hput

/-- A header of another name is found where it was. -/
theorem get?_without_of_ne (hother : ¬ sameName name' name) (h : Headers) :
    (h.without name).get? name' = h.get? name' := by
  rw [get?, get?, without, List.find?_filter]
  congr 2
  funext e
  by_cases hsame : sameName e.1 name'
  · have hkept : ¬ sameName e.1 name := by
      rw [sameName_iff] at hsame hother ⊢
      rwa [hsame]
    simp [hsame, hkept]
  · simp [hsame]

/-- Two spellings of a name find the same header. -/
theorem get?_congr (hsame : sameName name name') (h : Headers) : h.get? name = h.get? name' := by
  rw [get?, get?]
  congr 2
  funext e
  rw [sameName, sameName, sameName_iff.1 hsame]

/-- What is found under a name after a header was put in. -/
theorem get?_insert (hok : (h.insert name value).2 = .ok ()) (name' : String) :
    (h.insert name value).1.get? name' = if sameName name name' then some value else h.get? name' := by
  split
  · next hsame =>
    have hput : h.with? name value = .ok (h.insert name value).1 := by
      rw [with?, ← Prod.eta (h.insert name value), hok]
    rw [← get?_congr hsame, get?_with? hput]
  · next hother =>
    rw [sameName_comm] at hother
    rw [← get?_without_of_ne hother, without_insert, get?_without_of_ne hother]

/-! ## Runs of insertions -/

/-- The list after some headers were tried. -/
def insertAll (h : Headers) (tried : List (String × String)) : Headers :=
  tried.foldl (fun h e => (h.insert e.1 e.2).1) h

/-- Those of the headers tried that were put in, in their order. -/
def taken (h : Headers) : List (String × String) → List (String × String)
  | [] => []
  | e :: rest =>
    match h.insert e.1 e.2 with
    | (h', .ok ()) => e :: h'.taken rest
    | (h', .error _) => h'.taken rest

/-- The value of the last header of a name. -/
def last? (name : String) (es : List (String × String)) : Option String :=
  (es.filter fun e => sameName e.1 name).getLast?.map (·.2)

theorem last?_cons (name : String) (e : String × String) (es : List (String × String)) :
    last? name (e :: es) = (last? name es).or (if sameName e.1 name then some e.2 else none) := by
  rw [last?, last?, List.filter_cons]
  split
  · rw [List.getLast?_cons]
    cases (es.filter fun e => sameName e.1 name).getLast? <;> rfl
  · exact Option.or_none.symm

/-- Whatever is tried, a list stays sound. -/
theorem Sound.insertAll (hs : Sound h) (tried : List (String × String)) : Sound (h.insertAll tried) := by
  induction tried generalizing h with
  | nil => exact hs
  | cons e rest ih => exact ih (hs.insert e.1 e.2)

/-- Under each name stands what was put in last, or what stood there before. -/
theorem Sound.get?_insertAll (hs : Sound h) (name : String) (tried : List (String × String)) :
    (h.insertAll tried).get? name = (last? name (h.taken tried)).or (h.get? name) := by
  induction tried generalizing h with
  | nil => rfl
  | cons e rest ih =>
    have hcons : h.insertAll (e :: rest) = (h.insert e.1 e.2).1.insertAll rest := rfl
    rw [hcons, ih (hs.insert e.1 e.2), taken]
    split
    · next h' heq =>
      have hput := get?_insert (congrArg Prod.snd heq) name
      rw [heq] at hput ⊢
      rw [hput, last?_cons, Option.or_assoc]
      congr 1
      split <;> rfl
    · next h' error heq =>
      have hsame := hs.insert_of_error (by rw [heq]; nofun)
      rw [heq] at hsame ⊢
      exact congrArg _ (congrArg _ hsame)

/-- What trying a header does to a list. -/
structure Insertion (h : Headers) (name value : String) : Prop where
  /-- It is put in exactly if it may be, and its name is there or there is room for another one. -/
  succeeds : (h.insert name value).2 = .ok () ↔
    IsName name ∧ IsValue value ∧ ((h.get? name).isSome ∨ h.size < 100)
  /-- The headers of other names stay as they are, and in their order. -/
  others : (h.insert name value).1.without name = h.without name
  /-- If it is not put in, all headers do. -/
  failed : (h.insert name value).2 ≠ .ok () → (h.insert name value).1 = h
  /-- Where its name is there, there are never too many. -/
  replaces : (h.get? name).isSome → ∀ count max, (h.insert name value).2 ≠ .error (.tooManyHeaders count max)

/-- What is true of a list into which headers were put one after the other, some of which may have been
refused. -/
theorem insertions_kept (tried : List (String × String)) :
    (empty.insertAll tried).Sound ∧
      (∀ name, (empty.insertAll tried).get? name = last? name (empty.taken tried)) ∧
      ∀ name value, Insertion (empty.insertAll tried) name value := by
  have hs := sound_empty.insertAll tried
  refine ⟨hs, fun name => ?_, fun name value => ⟨?_, without_insert name value _, hs.insert_of_error, ?_⟩⟩
  · rw [sound_empty.get?_insertAll]
    exact Option.or_none
  · rw [insert_eq_ok_iff, hs.size_without_lt_iff, and_assoc]
  · intro hthere count max
    have hroom := hs.size_without_lt_iff.2 (.inl hthere)
    obtain ⟨_, _, _, heq⟩ | ⟨_, hfull, _⟩ | ⟨_, _, heq⟩ := insert_cases name value (empty.insertAll tried)
    · rw [heq]
      nofun
    · exact absurd hroom (Nat.not_lt.2 hfull)
    · rw [heq]
      nofun

end TripClient.Http.Headers
