import TripClient.Client.Exchange

/-!
# Which tokens are found in an answer

Tokens may stand in three places of an answer, each under one of two names (`Stands`). The first place
that has a token to make requests with is to answer (`Answers`), with the other token that it has. The
lookup of a name goes on only until it meets a text, and asks afterwards whether that is empty, so an
empty text hides the token under the other name (`Hides`). As long as the place that is to answer hides
nothing (`Plain`), what is found is what stands there; a place that hides its first token is passed over,
and where the other one is hidden the old one is kept (`extracted`, `hidden_tokens`).
-/

namespace TripClient.Tokens

/-- The names of the token to make requests with. -/
def accessNames : List String := ["access", "access_token"]

/-- The names of the token to get the next two with. -/
def refreshNames : List String := ["refresh", "refresh_token"]

/-- The token stands in the value, under one of the names. -/
def Stands (names : List String) (token : String) (v : Json) : Prop :=
  token ≠ "" ∧ ∃ n ∈ names, v.get? n = some (.string token)

/-- The value has a token under one of the names. -/
def Has (names : List String) (v : Json) : Prop := ∃ token, Stands names token v

/-- The first text under the names. -/
def firstText? (names : List String) (v : Json) : Option String :=
  names.findSome? fun n => (v.get? n).bind Json.text?

/-- The value has a token, but an empty text stands under a name before it. -/
def Hides (names : List String) (v : Json) : Prop := firstText? names v = some "" ∧ Has names v

/-- The place is the first of the answer that has a token to make requests with; the others come before
and after. -/
structure Split (v place : Json) (before after : List Json) : Prop where
  places_eq : places v = before ++ place :: after
  has : Has accessNames place
  before_none : ∀ q ∈ before, ¬ Has accessNames q

/-- The place is the first of the answer that has a token to make requests with. -/
def Answers (v place : Json) : Prop := ∃ before after, Split v place before after

/-- The place that is to answer hides nothing. -/
def Plain (v : Json) : Prop :=
  ∀ place, Answers v place → ¬ Hides accessNames place ∧ ¬ Hides refreshNames place

section
variable {names : List String} {v place : Json} {token : String}

/-! ## One place -/

theorem textUnder?_eq (names : List String) (v : Json) :
    textUnder? names v = (firstText? names v).filter (· ≠ "") := rfl

theorem text?_eq_some {w : Json} : w.text? = some token ↔ w = .string token := by
  cases w with
  | string s => simp [Json.text?]
  | null | bool | number | array | object => simp [Json.text?]

/-- The first text is one that stands under a name. -/
theorem get?_of_firstText? (h : firstText? names v = some token) :
    ∃ n ∈ names, v.get? n = some (.string token) := by
  obtain ⟨n, hn, hbind⟩ := List.exists_of_findSome?_eq_some h
  obtain ⟨w, hw, htext⟩ := Option.bind_eq_some_iff.1 hbind
  exact ⟨n, hn, hw.trans (congrArg some (text?_eq_some.1 htext))⟩

/-- What is found under the names stands there. -/
theorem stands_of_textUnder? (h : textUnder? names v = some token) : Stands names token v := by
  rw [textUnder?_eq, Option.filter_eq_some_iff] at h
  exact ⟨by simpa using h.2, get?_of_firstText? h.1⟩

/-- A value that has a token has a first text. -/
theorem exists_firstText? (h : Has names v) : ∃ text, firstText? names v = some text := by
  obtain ⟨token, -, n, hn, hget⟩ := h
  refine Option.isSome_iff_exists.1 (List.findSome?_isSome_iff.2 ⟨n, hn, ?_⟩)
  rw [hget]
  rfl

/-- Nothing is found under the names exactly if nothing stands there, or it is hidden. -/
theorem textUnder?_eq_none_iff : textUnder? names v = none ↔ (Has names v → Hides names v) := by
  constructor
  · intro h hhas
    obtain ⟨text, htext⟩ := exists_firstText? hhas
    rw [textUnder?_eq, htext, Option.filter_eq_none_iff] at h
    obtain rfl : text = "" := by simpa using h text rfl
    exact ⟨htext, hhas⟩
  · intro h
    cases hfound : textUnder? names v with
    | none => rfl
    | some token =>
      have hhides := h ⟨token, stands_of_textUnder? hfound⟩
      rw [textUnder?_eq, hhides.1] at hfound
      cases hfound

theorem here?_eq (v : Json) :
    here? v = (textUnder? accessNames v).map fun access => (access, textUnder? refreshNames v) := by
  unfold here? accessNames
  cases textUnder? ["access", "access_token"] v <;> rfl

/-- A place gives tokens exactly if it has a token to make requests with that is not hidden. -/
theorem here?_eq_none_iff : here? v = none ↔ (Has accessNames v → Hides accessNames v) := by
  rw [here?_eq, Option.map_eq_none_iff, textUnder?_eq_none_iff]

/-- What a place gives. -/
structure Gives (place : Json) (access : String) (refresh? : Option String) : Prop where
  access : Stands accessNames access place
  refresh : ∀ refresh ∈ refresh?, Stands refreshNames refresh place
  none_iff : refresh? = none ↔ (Has refreshNames place → Hides refreshNames place)

theorem gives_of_here? {access : String} {refresh? : Option String}
    (h : here? place = some (access, refresh?)) : Gives place access refresh? := by
  rw [here?_eq, Option.map_eq_some_iff] at h
  obtain ⟨access', haccess, hpair⟩ := h
  cases hpair
  exact ⟨stands_of_textUnder? haccess, fun refresh hrefresh => stands_of_textUnder? hrefresh,
    textUnder?_eq_none_iff⟩

/-! ## All places -/

/-- If some place has a token to make requests with, there is a first one. -/
theorem exists_answers (h : ∃ place ∈ places v, Has accessNames place) :
    ∃ place, Answers v place := by
  classical
  obtain ⟨place, hplace⟩ := Option.isSome_iff_exists.1
    (List.find?_isSome.2 (h.imp fun _ hp => ⟨hp.1, decide_eq_true hp.2⟩))
  obtain ⟨hhas, before, after, heq, hbefore⟩ := List.find?_eq_some_iff_append.1 hplace
  exact ⟨place, before, after, heq, of_decide_eq_true hhas, fun q hq hhas =>
    by simpa [hhas] using hbefore q hq⟩

/-- Places before the one that is to answer give nothing. -/
theorem Split.find?_eq {before after : List Json} (h : Split v place before after) :
    find? v = (here? place).or (after.findSome? here?) := by
  have hbefore : before.findSome? here? = none :=
    List.findSome?_eq_none_iff.2 fun q hq =>
      here?_eq_none_iff.2 fun hhas => absurd hhas (h.before_none q hq)
  rw [find?, h.places_eq, List.findSome?_append, hbefore, Option.none_or, List.findSome?_cons]
  cases here? place <;> rfl

/-- What is found stands in one place. -/
theorem gives_of_find? {access : String} {refresh? : Option String}
    (h : find? v = some (access, refresh?)) : ∃ place ∈ places v, Gives place access refresh? := by
  obtain ⟨place, hplace, hhere⟩ := List.exists_of_findSome?_eq_some h
  exact ⟨place, hplace, gives_of_here? hhere⟩

/-- What the place that is to answer gives, unless it hides that. -/
theorem Split.gives {before after : List Json} (h : Split v place before after)
    (hhides : ¬ Hides accessNames place) :
    ∃ access refresh?, find? v = some (access, refresh?) ∧ Gives place access refresh? := by
  cases hhere : here? place with
  | none => exact absurd (here?_eq_none_iff.1 hhere h.has) hhides
  | some found =>
    refine ⟨found.1, found.2, ?_, gives_of_here? hhere⟩
    rw [h.find?_eq, hhere, Option.some_or]

/-! ## What is found -/

/-- The tokens that come of an exchange: those of the place, where the old one is kept only if the place
has none. -/
def Rotated (place : Json) (old : String) (tokens : TokenPair) : Prop :=
  Stands accessNames tokens.access place ∧
    (Stands refreshNames tokens.refresh place ∨ tokens.refresh = old ∧ ¬ Has refreshNames place)

/-- Which tokens are found in an answer. -/
structure Extracted (v : Json) : Prop where
  /-- Nothing is taken for a token that is none. -/
  sound : ∀ access refresh?, find? v = some (access, refresh?) →
    ∃ place ∈ places v, Stands accessNames access place ∧
      ∀ refresh ∈ refresh?, Stands refreshNames refresh place
  /-- In a plain answer tokens are found exactly if some place has one to make requests with. -/
  found : Plain v → ((find? v).isSome ↔ ∃ place ∈ places v, Has accessNames place)
  /-- They are those of the first such place. -/
  first : Plain v → ∀ access refresh?, find? v = some (access, refresh?) → ∃ place, Answers v place ∧
    Stands accessNames access place ∧ (∀ refresh ∈ refresh?, Stands refreshNames refresh place) ∧
      (refresh? = none ↔ ¬ Has refreshNames place)
  /-- An exchange keeps the old token only if that place has no new one. -/
  rotated : Plain v → ∀ old tokens, Api.newTokens old v = .ok tokens →
    ∃ place, Answers v place ∧ Rotated place old tokens
  /-- In any other answer the first such place is passed over, or its new token is. -/
  otherwise : ¬ Plain v → ∃ place before after, Split v place before after ∧
    (Hides accessNames place ∧ find? v = after.findSome? here? ∨
      Hides refreshNames place ∧ ∃ access, find? v = some (access, none) ∧
        ∀ old, Api.newTokens old v = .ok ⟨access, old⟩)

end

section
variable {v place : Json}

theorem none_iff_of_not_hides {access : String} {refresh? : Option String}
    (h : Gives place access refresh?) (hhides : ¬ Hides refreshNames place) :
    refresh? = none ↔ ¬ Has refreshNames place :=
  h.none_iff.trans ⟨fun hh hhas => hhides (hh hhas), fun hnone hhas => absurd hhas hnone⟩

/-- In a plain answer, what is found stands in the place that is to answer. -/
theorem Plain.gives (hplain : Plain v) {access : String} {refresh? : Option String}
    (h : find? v = some (access, refresh?)) :
    ∃ place, Answers v place ∧ Gives place access refresh? ∧
      (refresh? = none ↔ ¬ Has refreshNames place) := by
  obtain ⟨q, hq, hgives⟩ := gives_of_find? h
  obtain ⟨place, before, after, hsplit⟩ := exists_answers ⟨q, hq, access, hgives.access⟩
  obtain ⟨haccess, hrefresh⟩ := hplain place ⟨before, after, hsplit⟩
  obtain ⟨access', refresh?', hfind, hgives'⟩ := hsplit.gives haccess
  cases h.symm.trans hfind
  exact ⟨place, ⟨before, after, hsplit⟩, hgives', none_iff_of_not_hides hgives' hrefresh⟩

/-- The tokens of an exchange are those that are found. -/
theorem exists_find?_of_newTokens {old : String} {tokens : TokenPair}
    (h : Api.newTokens old v = .ok tokens) :
    ∃ refresh?, find? v = some (tokens.access, refresh?) ∧ tokens.refresh = refresh?.getD old := by
  unfold Api.newTokens at h
  split at h
  · next access refresh? hfind =>
    cases h
    exact ⟨refresh?, hfind, rfl⟩
  · cases h

/-- Every answer is searched so. -/
theorem extracted (v : Json) : Extracted v := by
  refine ⟨fun access refresh? h => ?_, fun hplain => ⟨fun h => ?_, fun h => ?_⟩,
    fun hplain access refresh? h => ?_, fun hplain old tokens h => ?_, fun hplain => ?_⟩
  · obtain ⟨place, hplace, hgives⟩ := gives_of_find? h
    exact ⟨place, hplace, hgives.access, hgives.refresh⟩
  · obtain ⟨⟨access, refresh?⟩, hfind⟩ := Option.isSome_iff_exists.1 h
    obtain ⟨place, hplace, hgives⟩ := gives_of_find? hfind
    exact ⟨place, hplace, access, hgives.access⟩
  · obtain ⟨place, before, after, hsplit⟩ := exists_answers h
    obtain ⟨access, refresh?, hfind, -⟩ := hsplit.gives (hplain place ⟨before, after, hsplit⟩).1
    rw [hfind]
    rfl
  · obtain ⟨place, hanswers, hgives, hnone⟩ := hplain.gives h
    exact ⟨place, hanswers, hgives.access, hgives.refresh, hnone⟩
  · obtain ⟨refresh?, hfind, hrefresh⟩ := exists_find?_of_newTokens h
    obtain ⟨place, hanswers, hgives, hnone⟩ := hplain.gives hfind
    refine ⟨place, hanswers, hgives.access, ?_⟩
    cases refresh? with
    | none => exact .inr ⟨hrefresh, hnone.1 rfl⟩
    | some refresh => exact .inl (hrefresh ▸ hgives.refresh refresh rfl)
  · obtain ⟨place, hplace⟩ := Classical.not_forall.1 hplain
    obtain ⟨⟨before, after, hsplit⟩, hhides⟩ := Classical.not_imp.1 hplace
    refine ⟨place, before, after, hsplit, ?_⟩
    by_cases haccess : Hides accessNames place
    · refine .inl ⟨haccess, ?_⟩
      rw [hsplit.find?_eq, here?_eq_none_iff.2 fun _ => haccess, Option.none_or]
    · have hrefresh : Hides refreshNames place :=
        Classical.not_not.1 fun hrefresh => hhides ⟨haccess, hrefresh⟩
      obtain ⟨access, refresh?, hfind, hgives⟩ := hsplit.gives haccess
      obtain rfl := hgives.none_iff.2 fun _ => hrefresh
      refine .inr ⟨hrefresh, access, hfind, fun old => ?_⟩
      rw [Api.newTokens, hfind]
      rfl

end

/-! ## Tokens that are hidden -/

/-- An answer to who signs in, with an empty text before the token to make requests with. -/
def hiddenAccess : Json :=
  .object [("access", .string ""), ("access_token", .string "a1"), ("refresh", .string "r1")]

/-- An answer to an exchange, with an empty text before the new token to get the next two with. -/
def hiddenRefresh : Json :=
  .object [("access", .string "a2"), ("refresh", .string ""), ("refresh_token", .string "r2")]

/-- The first is taken for an answer without tokens, and with the second the new token is lost: the old
one is kept. -/
theorem hidden_tokens :
    (hiddenAccess ∈ places hiddenAccess ∧ Stands accessNames "a1" hiddenAccess ∧
        find? hiddenAccess = none) ∧
      Answers hiddenRefresh hiddenRefresh ∧ Stands refreshNames "r2" hiddenRefresh ∧
        Api.newTokens "r1" hiddenRefresh = .ok ⟨"a2", "r1"⟩ ∧
          ¬ Rotated hiddenRefresh "r1" ⟨"a2", "r1"⟩ := by
  have hr2 : Stands refreshNames "r2" hiddenRefresh :=
    ⟨by decide, "refresh_token", by decide, rfl⟩
  refine ⟨⟨List.mem_cons_self, ⟨by decide, "access_token", by decide, rfl⟩, rfl⟩,
    ⟨[], [], rfl, ⟨"a2", by decide, "access", by decide, rfl⟩, nofun⟩, hr2, rfl, ?_⟩
  rintro ⟨-, ⟨-, n, hn, hget⟩ | ⟨-, hnone⟩⟩
  · have hall : ∀ n ∈ refreshNames,
        (hiddenRefresh.get? n).bind Json.text? ≠ some "r1" := by decide
    refine hall n hn ?_
    rw [hget]
    rfl
  · exact hnone ⟨"r2", hr2⟩

end TripClient.Tokens
