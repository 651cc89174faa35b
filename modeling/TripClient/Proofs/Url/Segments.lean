import TripClient.Proofs.Url.Layout

/-!
# Segments that are kept

An endpoint should be where its segments say: behind the path of the base, each segment escaped as a
whole and with a slash behind it (`Path.behind`), so that they can be read off the path again
(`Path.read_behind`). Not all segments are kept so. Those of dots are dropped, and so are tabs and ends
of lines, whose absence can make dots of a segment; and the path `//`, like an empty segment behind the
path `/`, loses a slash. `Path.Keeps` says that none of this happens, and it is exactly the condition
under which an endpoint is where it should be (`Api.endpoint_addressed`).

That it suffices goes over the segments: each goes behind the others as it is (`foldl_append_of_plain`).
That it is needed is a matter of length: no segment makes a path longer than it should be, and one that
is not plain makes it shorter (`size_append_lt`, `plain_of_size`).
-/

namespace TripClient

namespace Url

namespace Path

/-! ## Segments as they are meant -/

/-- A segment as it is meant to be written. -/
def meant (s : String) : List Char := Percent.encode Percent.inSegment s.toList

/-- How segments are meant to stand behind a path: each with a slash behind it. -/
def behind (segments : List String) : List Char := segments.flatMap fun s => meant s ++ ['/']

theorem behind_cons (s : String) (rest : List String) :
    behind (s :: rest) = meant s ++ '/' :: behind rest := by
  rw [behind, List.flatMap_cons, List.append_assoc]
  rfl

/-- The texts that stand between the slashes, without their escapes. -/
def readSegments (cs : List Char) : List (Option String) :=
  (Text.pieces (· == '/') cs).map fun p => (Percent.decode? p).map String.ofList

/-- Whether a segment is written as it is meant: it is not made of one or two dots, and holds neither
a tab nor an end of line. -/
structure Plain (s : String) : Prop where
  named : s ≠ "." ∧ s ≠ ".."
  whole : ∀ c ∈ s.toList, ¬ isIgnored c

/-- Whether segments stand behind a path as they are meant to. -/
structure Keeps (base : Path) (segments : List String) : Prop where
  plain : ∀ s ∈ segments, Plain s
  /-- The path is not `//`. -/
  rooted : base ≠ .segments [[], []]
  /-- Behind the path `/` there is a segment that holds something, or none. -/
  first : base = .segments [[]] → segments.head? ≠ some ""

instance (s : String) : Decidable (Plain s) :=
  decidable_of_iff ((s ≠ "." ∧ s ≠ "..") ∧ s.toList.all (!isIgnored ·))
    ⟨fun h => ⟨h.1, by simpa using h.2⟩, fun h => ⟨h.named, by simpa using h.whole⟩⟩

instance (base : Path) (segments : List String) : Decidable (Keeps base segments) :=
  decidable_of_iff ((∀ s ∈ segments, Plain s) ∧ base ≠ .segments [[], []] ∧
      (base = .segments [[]] → segments.head? ≠ some ""))
    ⟨fun h => ⟨h.1, h.2.1, h.2.2⟩, fun h => ⟨h.plain, h.rooted, h.first⟩⟩

/-- The set of characters that are escaped in a segment is one with which escapes are read back. -/
theorem inSegment_any (c : Char) (h : Percent.inAny c) : Percent.inSegment c := by
  simp only [Percent.inSegment, Percent.inPath, Percent.inFragment, h, Bool.true_or]

/-- A segment is read off its escaped text. -/
theorem decode?_meant (s : String) : Percent.decode? (meant s) = some s.toList :=
  Percent.decode?_encode (by decide) inSegment_any s.toList

/-- Different segments are meant to be written differently. -/
theorem meant_inj {s s' : String} (h : meant s = meant s') : s = s' :=
  String.toList_inj.1 (Percent.encode_inj (by decide) inSegment_any h)

/-- A segment that holds something is meant to be written as one. -/
theorem meant_eq_nil {s : String} : meant s = [] ↔ s = "" :=
  ⟨fun h => meant_inj (h.trans rfl), fun h => h ▸ rfl⟩

/-- Segments are read off the text that stands behind the path. -/
theorem read_behind (segments : List String) :
    readSegments (behind segments) = segments.map some ++ [some ""] := by
  induction segments with
  | nil => decide
  | cons s rest ih =>
    have hslash : ∀ c ∈ meant s, ¬ (c == '/') := fun c hc heq =>
      (Percent.mem_encode (by decide) (eq_of_beq heq ▸ hc)).2 (by decide)
    rw [readSegments, behind_cons, Text.pieces_append hslash rfl, List.map_cons, decode?_meant,
      Option.map_some, String.ofList_toList]
    exact congrArg _ ih

/-- Different segments are not meant to stand alike. -/
theorem behind_inj {segments segments' : List String} (h : behind segments = behind segments') :
    segments = segments' := by
  have hread := congrArg readSegments h
  rw [read_behind, read_behind] at hread
  exact (List.map_inj_right fun _ _ => Option.some_inj.1).1 (List.append_cancel_right hread)

/-! ## Dots -/

/-- What starts neither with a dot nor with an escaped dot does not consist of dots. -/
theorem dots?_eq_none {c : Char} {cs : List Char} (hdot : c ≠ '.') (hpercent : c ≠ '%') :
    dots? (c :: cs) = none := by
  unfold dots?
  split
  case h_1 h => cases h
  case h_2 h => exact absurd (List.cons_eq_cons.1 h).1 hdot
  case h_3 h => exact absurd (List.cons_eq_cons.1 h).1 hpercent
  case h_4 h => exact absurd (List.cons_eq_cons.1 h).1 hpercent
  case h_5 => rfl

/-- An escape that is not that of a dot is not taken for one. -/
theorem dots?_escape {b : UInt8} (hb : b ≠ 0x2E) (cs : List Char) :
    dots? ('%' :: Percent.hexDigit (b.toNat / 16) :: Percent.hexDigit (b.toNat % 16) :: cs) = none := by
  have hlt := b.toNat_lt
  have hvalue {n k : Nat} {c : Char} (hn : n < 16) (hc : Text.hexDigit? c = some k)
      (h : Percent.hexDigit n = c) : n = k := by
    rw [← h, Percent.hexDigit?_hexDigit hn] at hc
    exact Option.some_inj.1 hc
  have hnot {c : Char} (hc : Text.hexDigit? c = some 14)
      (hhigh : Percent.hexDigit (b.toNat / 16) = '2') (hlow : Percent.hexDigit (b.toNat % 16) = c) :
      False := by
    have hhigh' : b.toNat / 16 = 2 := hvalue (by omega) (by decide) hhigh
    have hlow' : b.toNat % 16 = 14 := hvalue (by omega) hc hlow
    exact hb (UInt8.toNat_inj.1 (show b.toNat = 46 by omega))
  unfold dots?
  split
  case h_1 h => cases h
  case h_2 h => exact absurd (List.cons_eq_cons.1 h).1 (by decide)
  case h_3 h =>
    injection h with _ h
    injection h with hhigh h
    injection h with hlow _
    exact (hnot (by decide) hhigh hlow).elim
  case h_4 h =>
    injection h with _ h
    injection h with hhigh h
    injection h with hlow _
    exact (hnot (by decide) hhigh hlow).elim
  case h_5 => rfl

/-- Only dots are written as dots: what is escaped stands for other characters. -/
theorem eq_of_dots {cs : List Char} {n : Nat}
    (h : dots? (Percent.encode Percent.inSegment cs) = some n) : cs = List.replicate n '.' := by
  induction cs generalizing n with
  | nil =>
    cases h
    rfl
  | cons c cs ih =>
    rw [Percent.encode_cons] at h
    by_cases hset : Percent.inSegment c
    · obtain ⟨b, hb, rest, hescape⟩ := Percent.escapeChar_eq c
      have hdot : b ≠ 0x2E := by
        rintro rfl
        have hc : c = '.' := Char.toNat_inj.1 (Text.toNat_of_mem_utf8 hb (by decide))
        rw [hc] at hset
        exact absurd hset (by decide)
      rw [if_pos hset, hescape, List.cons_append, List.cons_append, List.cons_append,
        dots?_escape hdot] at h
      cases h
    · rw [if_neg hset, List.singleton_append] at h
      by_cases hdot : c = '.'
      · subst hdot
        rw [dots?] at h
        obtain ⟨m, hm, rfl⟩ := Option.map_eq_some_iff.1 h
        rw [ih hm]
        rfl
      · have hpercent : c ≠ '%' := by
          rintro rfl
          exact hset (by decide)
        rw [dots?_eq_none hdot hpercent] at h
        cases h

/-! ## Segments that go behind the others -/

/-- Tabs and ends of lines are not written. -/
theorem written_eq (s : String) :
    written s = Percent.encode Percent.inSegment (s.toList.filter (!isIgnored ·)) := by
  have hkeep : (fun c => c != '\t' && c != '\n' && c != '\r') = (!isIgnored ·) := by
    funext c
    rw [isIgnored, Bool.not_or, Bool.not_or]
    rfl
  rw [written, hkeep]

/-- A plain segment goes behind the others as it is meant. -/
theorem append_of_plain {s : String} (h : Plain s) (ss : List (List Char)) :
    append ss s = root ss ++ [meant s] := by
  have hwritten : written s = meant s := by
    rw [written_eq, List.filter_eq_self.2 fun c hc => by simpa using h.whole c hc, meant]
  have hdots {n : Nat} {name : String} (hname : name.toList = List.replicate n '.') (hne : s ≠ name) :
      dots? (written s) ≠ some n := by
    intro hdots
    rw [hwritten] at hdots
    exact hne (String.toList_inj.1 ((eq_of_dots hdots).trans hname.symm))
  rw [append_eq (hdots rfl h.named.1) (hdots rfl h.named.2), hwritten]

/-- Plain segments go one behind the other, if the first of them holds something or goes behind another
one. -/
theorem foldl_append_of_plain {segments : List String} (hplain : ∀ s ∈ segments, Plain s)
    {ss : List (List Char)} (hfirst : root ss = [] → segments.head? ≠ some "") :
    root (segments.foldl append ss) = root ss ++ segments.map meant := by
  induction segments generalizing ss with
  | nil => rw [List.foldl_nil, List.map_nil, List.append_nil]
  | cons s rest ih =>
    obtain ⟨hs, hrest⟩ := List.forall_mem_cons.1 hplain
    have hroot : root (append ss s) = root ss ++ [meant s] := by
      rw [append_of_plain hs]
      refine root_append _ fun hnil hmeant => ?_
      exact hfirst hnil (congrArg some (meant_eq_nil.1 hmeant))
    have hbehind : root (append ss s) = [] → rest.head? ≠ some "" := by
      rw [hroot]
      exact fun hnil => absurd hnil (List.append_ne_nil_of_right_ne_nil _ (List.cons_ne_nil _ _))
    rw [List.foldl_cons, ih hrest hbehind, hroot, List.map_cons, List.append_assoc,
      List.singleton_append]

/-! ## Lengths -/

/-- With how many characters segments are written. -/
def size (ss : List (List Char)) : Nat := (Path.segments ss).toChars.length

@[simp] theorem size_append (ss ss' : List (List Char)) : size (ss ++ ss') = size ss + size ss' := by
  rw [size, toChars_segments_append, List.length_append]
  rfl

@[simp] theorem size_singleton (s : List Char) : size [s] = s.length + 1 := by
  simp [size, toChars]

theorem size_root_le (ss : List (List Char)) : size (root ss) ≤ size ss := by
  unfold root
  split
  · exact Nat.zero_le _
  · exact Nat.le_refl _

/-- The path `/` gives up one character, and no other path gives up any. -/
theorem size_le_root (ss : List (List Char)) : size ss ≤ size (root ss) + 1 := by
  unfold root
  split
  · next h =>
    rw [eq_of_beq h]
    decide
  · exact Nat.le_succ _

theorem size_up_le (ss : List (List Char)) : size (up ss) ≤ size ss := by
  have hdrop : size ss.dropLast ≤ size ss := by
    rcases List.eq_nil_or_concat ss with rfl | ⟨front, last, rfl⟩
    · exact Nat.le_refl _
    · rw [List.concat_eq_append, List.dropLast_concat, size_append]
      exact Nat.le_add_right _ _
  unfold up
  split
  · split
    · exact Nat.le_refl _
    · exact hdrop
  · exact Nat.le_refl _

/-- A segment that is followed makes a path longer by itself and a slash at most. -/
theorem size_follow_le (done : List (List Char)) (s : List Char) :
    size (follow done [s]) ≤ size done + s.length + 1 := by
  have hup := size_up_le done
  unfold follow
  split <;> simp only [size_append, size_singleton, List.length_nil] <;> omega

/-- A segment that is not plain makes a path shorter than it is meant to be. -/
theorem size_append_lt {s : String} (h : ¬ Plain s) (ss : List (List Char)) :
    size (append ss s) < size (root ss) + (meant s).length + 1 := by
  unfold append
  split
  · next hdots =>
    have hmeant : 0 < (meant s).length := by
      rcases Bool.or_eq_true_iff.1 hdots with hdot | hdot
      all_goals
        rw [eq_of_beq hdot]
        decide
    have := size_le_root ss
    omega
  · next hdots =>
    have hnamed : s ≠ "." ∧ s ≠ ".." := by simpa using hdots
    have hshorter : (written s).length < (meant s).length := by
      refine Nat.lt_of_not_le fun hle => h ⟨hnamed, fun c hc => ?_⟩
      rw [written_eq] at hle
      simpa using List.filter_eq_self.1 (Percent.filter_eq_self_of_length hle) c hc
    exact Nat.lt_of_le_of_lt (size_follow_le (root ss) (written s)) (by omega)

/-- No segment makes a path longer than it is meant to be. -/
theorem size_append_le (ss : List (List Char)) (s : String) :
    size (append ss s) ≤ size (root ss) + (meant s).length + 1 := by
  by_cases hplain : Plain s
  · rw [append_of_plain hplain, size_append, size_singleton]
    exact Nat.le_refl _
  · exact Nat.le_of_lt (size_append_lt hplain ss)

/-- No segments make a path longer than it is meant to be. -/
theorem size_foldl_le (segments : List String) (ss : List (List Char)) :
    size (root (segments.foldl append ss)) ≤ size (root ss) + (behind segments).length := by
  induction segments generalizing ss with
  | nil => exact Nat.le_refl _
  | cons s rest ih =>
    have hrest := ih (append ss s)
    have hroot := size_root_le (append ss s)
    have happend := size_append_le ss s
    rw [List.foldl_cons, behind_cons, List.length_append, List.length_cons]
    omega

/-- Segments that make a path as long as it is meant to be are plain, and the first of them holds
something or goes behind another one. -/
theorem plain_of_size {segments : List String} {ss : List (List Char)}
    (h : size (root ss) + (behind segments).length ≤ size (root (segments.foldl append ss))) :
    (∀ s ∈ segments, Plain s) ∧ (root ss = [] → segments.head? ≠ some "") := by
  induction segments generalizing ss with
  | nil => exact ⟨List.forall_mem_nil _, fun _ => nofun⟩
  | cons s rest ih =>
    rw [List.foldl_cons, behind_cons, List.length_append, List.length_cons] at h
    have hrest := size_foldl_le rest (append ss s)
    have hroot := size_root_le (append ss s)
    have happend := size_append_le ss s
    have hs : Plain s := Classical.byContradiction fun hplain => by
      have hlt := size_append_lt hplain ss
      omega
    have hplain := (@ih (append ss s) (by omega)).1
    refine ⟨List.forall_mem_cons.2 ⟨hs, hplain⟩, fun hnil hhead => ?_⟩
    -- An empty segment behind none leads to the path `/`, which gives it up.
    obtain rfl : s = "" := Option.some_inj.1 hhead
    rw [append_of_plain hs, hnil] at h hrest
    have hgone : size (root ([] ++ [meant ""])) = 0 := rfl
    omega

/-! ## Paths of endpoints -/

/-- The segments from which an endpoint goes on. -/
theorem root_withoutEnd (front : List (List Char)) :
    root (withoutEnd (front ++ [[]])) = root front := by
  cases front with
  | nil => rfl
  | cons s rest =>
    have hlength : ¬ (s :: rest ++ [[]]).length ≤ 1 := by simp
    have hend : ((s :: rest ++ [[]]).getLast? == some []) = true := by
      rw [List.getLast?_concat]
      rfl
    rw [withoutEnd, if_neg hlength, if_pos hend, List.dropLast_concat]

/-- An empty segment goes behind the others. -/
theorem append_empty (ss : List (List Char)) : append ss "" = root ss ++ [[]] :=
  append_of_plain ⟨by decide, fun c hc => by cases hc⟩ ss

/-- An endpoint goes on from its last segment by an empty one. -/
theorem endpoint_segments {base : Url} {front : List (List Char)}
    (hbase : base.path = .segments (front ++ [[]])) (segments : List String)
    (query : List (String × String)) :
    (base.endpoint segments query).path =
      .segments (root (segments.foldl append (withoutEnd (front ++ [[]]))) ++ [[]]) := by
  rw [endpoint, hbase]
  exact congrArg Path.segments (append_empty _)

/-- Slashes may be taken for standing before or behind the segments. -/
theorem toChars_meant (segments : List String) :
    (Path.segments (segments.map meant)).toChars ++ ['/'] = '/' :: behind segments := by
  induction segments with
  | nil => rfl
  | cons s rest ih =>
    have hcons : (Path.segments ((s :: rest).map meant)).toChars =
        '/' :: meant s ++ (Path.segments (rest.map meant)).toChars := rfl
    rw [hcons, List.append_assoc, ih, behind_cons]
    rfl

/-- Endpoints are where they are meant to be exactly if their segments are kept. -/
theorem keeps_iff {base : Url} {front : List (List Char)}
    (hbase : base.path = .segments (front ++ [[]])) (segments : List String)
    (query : List (String × String)) :
    Keeps base.path segments ↔
      (base.endpoint segments query).path.toChars = base.path.toChars ++ behind segments := by
  rw [endpoint_segments hbase, hbase, toChars_segments_append, toChars_segments_append]
  have hlast : (Path.segments [[]]).toChars = ['/'] := rfl
  rw [hlast, List.append_assoc, List.singleton_append]
  constructor
  · rintro ⟨hplain, hrooted, hfirst⟩
    have hfront : root front = front := by
      refine if_neg fun heq => hrooted ?_
      rw [eq_of_beq heq]
      rfl
    have hstart : root (withoutEnd (front ++ [[]])) = [] → segments.head? ≠ some "" := by
      rw [root_withoutEnd, hfront]
      rintro rfl
      exact hfirst rfl
    rw [foldl_append_of_plain hplain hstart, root_withoutEnd, hfront, toChars_segments_append,
      List.append_assoc, toChars_meant]
  · intro heq
    have hlength := congrArg List.length heq
    have hle := size_foldl_le segments (withoutEnd (front ++ [[]]))
    have hroot := size_root_le front
    rw [root_withoutEnd] at hle
    simp only [List.length_append, List.length_cons, List.length_nil] at hlength
    have hsize : size (root (segments.foldl append (withoutEnd (front ++ [[]])))) =
        size front + (behind segments).length := by
      unfold size
      omega
    have ⟨hplain, hfirst⟩ := @plain_of_size segments (withoutEnd (front ++ [[]]))
      (by rw [root_withoutEnd]; omega)
    rw [root_withoutEnd] at hfirst
    refine ⟨hplain, fun hrooted => ?_, fun hroot => ?_⟩
    · -- The path `//` gives up a slash.
      obtain rfl : front = [[]] := (List.append_singleton_inj.1 (Path.segments.inj hrooted)).1
      have hgone : size (root [[]]) = 0 ∧ size [[]] = 1 := by decide
      omega
    · obtain rfl : front = [] :=
        (List.append_singleton_inj.1 (Path.segments.inj hroot : front ++ [[]] = [] ++ [[]])).1
      exact hfirst rfl

/-! ## Endpoints -/

/-- Whether an address is where segments say, below the path of a base. -/
structure Addressed (base : Path) (segments : List String) (a : Http.Address) : Prop where
  /-- It is the path of the base, and then the segments, each escaped and with a slash behind it. -/
  path : a.path.toList = base.toChars ++ behind segments
  /-- What stands between the slashes behind the path of the base are the segments. -/
  read : readSegments (a.path.toList.drop base.toChars.length) = segments.map some ++ [some ""]

end Path

end Url

namespace Api

open Url Url.Path

variable {s : Settings} {api : Api} (hbase : s.base = .ok api.base)

include hbase

/-- The path of an endpoint. -/
theorem path_of_endpoint {segments : List String} {query : Query} {a : Http.Address}
    (h : api.endpoint segments query = .ok a) :
    a.path.toList = (api.base.endpoint segments query).path.toChars := by
  obtain ⟨hweb, -⟩ := Url.base_ok hbase
  exact Http.Address.path_of_ofUrl (mapError_eq_ok.1 h) (hweb.endpoint segments query)

/-- An endpoint is where its segments say exactly if the path of the base keeps them. Then no other
segments that it keeps lead to the same path. -/
theorem endpoint_addressed {segments : List String} {query : Query} {a : Http.Address}
    (h : api.endpoint segments query = .ok a) :
    (Addressed api.base.path segments a ↔ Keeps api.base.path segments) ∧
      ∀ segments' query' a', api.endpoint segments' query' = .ok a' →
        Keeps api.base.path segments → Keeps api.base.path segments' → a'.path = a.path →
        segments' = segments := by
  obtain ⟨-, -, -, front, hbasePath, -⟩ := Url.base_ok hbase
  have hpath {segments : List String} {query : Query} {a : Http.Address}
      (h : api.endpoint segments query = .ok a) :
      a.path.toList = api.base.path.toChars ++ behind segments ↔ Keeps api.base.path segments := by
    rw [path_of_endpoint hbase h]
    exact (keeps_iff hbasePath segments query).symm
  refine ⟨⟨fun haddressed => (hpath h).1 haddressed.path, fun hkeeps => ?_⟩, ?_⟩
  · have heq := (hpath h).2 hkeeps
    refine ⟨heq, ?_⟩
    rw [heq, List.drop_left, read_behind]
  · intro segments' query' a' h' hkeeps hkeeps' hsame
    have heq := (hpath h).2 hkeeps
    have heq' := (hpath h').2 hkeeps'
    rw [hsame, heq] at heq'
    exact (behind_inj (List.append_cancel_left heq')).symm

end Api

/-- Settings for a server on the same machine. -/
def Settings.loopback : Settings := { Settings.usual with baseUrl := "http://[::1]/api/" }

namespace Api

open Url.Path

/-- A client of that server. -/
def loopback : Api where
  base := ⟨"http".toList, some ⟨[], none, .ipv6 [0, 0, 0, 0, 0, 0, 0, 1], none⟩,
    .segments ["api".toList, []], none, none⟩
  requestTimeout := Settings.usual.requestTimeout
  uploadTimeout := Settings.usual.uploadTimeout

/-- A slash in a segment does not end it. -/
theorem slash_addressed :
    Settings.loopback.base = .ok loopback.base ∧ ∃ a b,
      loopback.endpoint ["users", "a/b"] [] = .ok a ∧ loopback.endpoint ["users", "a", "b"] [] = .ok b ∧
      Addressed loopback.base.path ["users", "a/b"] a ∧ b.path ≠ a.path := by
  have hbase : Settings.loopback.base = .ok loopback.base := by rfl
  have ha : loopback.endpoint ["users", "a/b"] [] =
      .ok ⟨"http://[::1]/api/users/a%2Fb/", "http", "[::1]"⟩ := by rfl
  have hb : loopback.endpoint ["users", "a", "b"] [] =
      .ok ⟨"http://[::1]/api/users/a/b/", "http", "[::1]"⟩ := by rfl
  have hkeeps : Keeps loopback.base.path ["users", "a/b"] := by decide
  have hkeeps' : Keeps loopback.base.path ["users", "a", "b"] := by decide
  obtain ⟨haddressed, hother⟩ := endpoint_addressed hbase ha
  have hne := mt (hother _ _ _ hb hkeeps hkeeps') (by decide)
  exact ⟨hbase, _, _, ha, hb, haddressed.2 hkeeps, hne⟩

/-- A segment of a dot is dropped, so that who deletes the group `.` addresses all groups; a tab is
dropped, so that two groups have one address; and with a tab between two dots both dots and tab go, and
the segment before them. -/
theorem not_addressed :
    Settings.loopback.base = .ok loopback.base ∧
      (∃ a, loopback.endpoint ["groups", "."] [] = .ok a ∧ loopback.endpoint ["groups"] [] = .ok a) ∧
      (∃ a, loopback.endpoint ["groups", "g\t1"] [] = .ok a ∧
        loopback.endpoint ["groups", "g1"] [] = .ok a) ∧
      ∃ a, loopback.endpoint ["groups", ".\t."] [] = .ok a ∧ a.path = "/api//" ∧
        ¬ Addressed loopback.base.path ["groups", ".\t."] a := by
  refine ⟨by rfl, ⟨_, by rfl, by rfl⟩, ⟨_, by rfl, by rfl⟩, _, by rfl, by rfl, fun h => ?_⟩
  exact absurd h.path (by decide)

end Api

end TripClient
