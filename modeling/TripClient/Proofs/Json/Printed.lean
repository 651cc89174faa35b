import TripClient.Proofs.Json.Quoted
import TripClient.Proofs.Json.Whole

/-!
# Texts that are read back

The compact text of a value is read as a document that writes this value (`ofBytes_render`), if its
numbers are whole and of 64 bits, and not too many arrays and objects lie in each other (`Kept`). What a
document writes does not depend on the places in it (`Node.Writes`). The proof follows the value:
wherever its text stands, and whatever ends it, it is read back (`ReadBack`); for an array or an object
this goes over the elements or members that are still to come.
-/

namespace TripClient.Json

open Text (bytesOf)

/-! ## What a document writes -/

mutual

/-- A value of a document is this one, wherever it stands. -/
inductive Node.Writes : Node → Json → Prop
  | null (span : Span) : Node.Writes (.null span) .null
  | bool (b : Bool) (span : Span) : Node.Writes (.bool b span) (.bool b)
  | number (n : Number) (span : Span) : Node.Writes (.number (.ok n) span) (.number n)
  | string (s : String) (span : Span) : Node.Writes (.string (.ok s) span) (.string s)
  | array {items : Items} {vs : List Json} (start : Place) : Items.Writes items vs →
      Node.Writes (.array start (.ok ()) items) (.array vs)
  | object {members : Members} {ms : List (String × Json)} (start : Place) (head : Node) :
      Members.Writes members ms → Node.Writes (.object start (.ok ()) head members) (.object ms)

/-- Elements are these. -/
inductive Items.Writes : Items → List Json → Prop
  | done (stop : Place) : Items.Writes (.done stop) []
  | item {n : Node} {v : Json} {rest : Items} {vs : List Json} (start : Place) : n.Writes v →
      Items.Writes rest vs → Items.Writes (.item start n rest) (v :: vs)

/-- Members are these. -/
inductive Members.Writes : Members → List (String × Json) → Prop
  | done (stop : Place) : Members.Writes (.done stop) []
  | member {key : Key} {name : String} {n : Node} {v : Json} {rest : Members}
      {ms : List (String × Json)} : key.name = .ok name → n.Writes v → Members.Writes rest ms →
      Members.Writes (.member key n rest) ((name, v) :: ms)

end

/-- A value whose text says all of it: its numbers are whole and of 64 bits, and at most `room` arrays
and objects lie in each other. -/
inductive Kept : (room : Nat) → Json → Prop
  | null {room : Nat} : Kept room .null
  | bool {room : Nat} (b : Bool) : Kept room (.bool b)
  | string {room : Nat} (s : String) : Kept room (.string s)
  | whole {room : Nat} {n : Int} : Fits n → Kept room (.number (.int n))
  | array {room : Nat} {vs : List Json} : (∀ v ∈ vs, Kept room v) → Kept (room + 1) (.array vs)
  | object {room : Nat} {ms : List (String × Json)} : (∀ m ∈ ms, Kept room m.2) →
      Kept (room + 1) (.object ms)

/-- Wherever the text of a value stands, and whatever ends it, it is read back: there has to be a step
for each of its bytes, and room for the arrays and objects in it. -/
def ReadBack (room : Nat) (v : Json) : Prop :=
  ∀ (fuel depth : Nat) (p : Place) (rest : List UInt8), Ends rest → depth + room ≤ maxDepth →
    (bytesOf v.render).length ≤ fuel → ∃ (n : Node) (q : Place),
      readValue fuel depth ⟨bytesOf v.render ++ rest, p⟩ = (n, some ⟨rest, q⟩) ∧ n.Writes v

/-! ## How texts start -/

theorem bytesOf_array (vs : List Json) :
    bytesOf (render (.array vs)) = 0x5B :: (bytesOf (renderElements vs) ++ [0x5D]) := by
  rw [render, Text.bytesOf_append, Text.bytesOf_append, bytesOf_of_eq (s := "[") rfl,
    bytesOf_of_eq (s := "]") rfl]
  rfl

theorem bytesOf_object (ms : List (String × Json)) :
    bytesOf (render (.object ms)) = 0x7B :: (bytesOf (renderMembers ms) ++ [0x7D]) := by
  rw [render, Text.bytesOf_append, Text.bytesOf_append, bytesOf_of_eq (s := "\x7b") rfl,
    bytesOf_of_eq (s := "\x7d") rfl]
  rfl

/-- A byte with which a value may start. -/
structure Starts (b : UInt8) : Prop where
  notBlank : ¬ Cursor.isBlank b
  notClosing : b ≠ 0x5D

theorem skipBlanks_of_not {b : UInt8} (hb : ¬ Cursor.isBlank b) (bs : List UInt8) (p : Place) :
    Cursor.skipBlanks ⟨b :: bs, p⟩ = ⟨b :: bs, p⟩ :=
  if_neg hb

/-- A byte with which a numeral starts is none of those with which anything else does. -/
theorem ne_of_numeral {b b' : UInt8} (hb : b.toNat = 45 ∨ 48 ≤ b.toNat ∧ b.toNat ≤ 57)
    (hb' : b'.toNat ≠ 45 ∧ ¬ (48 ≤ b'.toNat ∧ b'.toNat ≤ 57)) : b ≠ b' := by
  rintro rfl
  exact hb.elim hb'.1 hb'.2

/-- So it may start a value. -/
theorem Starts.of_numeral {b : UInt8} (hb : b.toNat = 45 ∨ 48 ≤ b.toNat ∧ b.toNat ≤ 57) : Starts b := by
  refine ⟨?_, ne_of_numeral hb (by decide)⟩
  simp only [Cursor.isBlank, Bool.or_eq_true, beq_iff_eq, not_or]
  exact ⟨⟨⟨ne_of_numeral hb (by decide), ne_of_numeral hb (by decide)⟩,
    ne_of_numeral hb (by decide)⟩, ne_of_numeral hb (by decide)⟩

/-- The text of a value starts as a value does. -/
theorem exists_render {room : Nat} {v : Json} (h : Kept room v) :
    ∃ b bs, bytesOf v.render = b :: bs ∧ Starts b := by
  cases h with
  | null => exact ⟨_, _, bytesOf_of_eq rfl, by decide, by decide⟩
  | bool b => cases b <;> exact ⟨_, _, bytesOf_of_eq rfl, by decide, by decide⟩
  | string s => exact ⟨_, _, bytesOf_stringText s, by decide, by decide⟩
  | whole hn =>
    obtain ⟨b, bs, hbs, hb⟩ := Numeral.exists_numberText _
    exact ⟨b, bs, hbs, .of_numeral hb⟩
  | array => exact ⟨_, _, bytesOf_array _, by decide, by decide⟩
  | object => exact ⟨_, _, bytesOf_object _, by decide, by decide⟩

/-! ## Values without parts -/

/-- What starts with no bracket is read as a value without parts. -/
theorem readValue_scalar {b : UInt8} (hblank : ¬ Cursor.isBlank b) (harray : b ≠ 0x5B)
    (hobject : b ≠ 0x7B) (fuel depth : Nat) (bs : List UInt8) (p : Place) :
    readValue (fuel + 1) depth ⟨b :: bs, p⟩ = readScalar ⟨b :: bs, p⟩ := by
  rw [readValue, skipBlanks_of_not hblank]
  simp only [beq_eq_false_iff_ne.2 harray, beq_eq_false_iff_ne.2 hobject, Bool.false_eq_true, if_false]

/-- A value without parts is read back if it is when it is read as such. -/
theorem readBack_scalar {room : Nat} {v : Json} (h : Kept room v)
    (hparts : ∀ b ∈ (bytesOf v.render).head?, b ≠ 0x5B ∧ b ≠ 0x7B)
    (hread : ∀ (p : Place) (rest : List UInt8), Ends rest → ∃ (n : Node) (q : Place),
      readScalar ⟨bytesOf v.render ++ rest, p⟩ = (n, some ⟨rest, q⟩) ∧ n.Writes v) :
    ReadBack room v := by
  intro fuel depth p rest hrest _ hfuel
  obtain ⟨b, bs, hbs, hb⟩ := exists_render h
  obtain ⟨harray, hobject⟩ := hparts b (by rw [hbs]; rfl)
  obtain ⟨fuel, rfl⟩ : ∃ k, fuel = k + 1 := by
    cases fuel with
    | zero => rw [hbs] at hfuel; cases hfuel
    | succ k => exact ⟨k, rfl⟩
  obtain ⟨n, q, hn, hwrites⟩ := hread p rest hrest
  refine ⟨n, q, ?_, hwrites⟩
  rw [← hn, hbs, List.cons_append, readValue_scalar hb.notBlank harray hobject]

theorem readBack_null {room : Nat} : ReadBack room .null := by
  have hbytes : bytesOf (render .null) = [0x6E, 0x75, 0x6C, 0x6C] := bytesOf_of_eq rfl
  refine readBack_scalar .null ?_ fun p rest _ => ?_
  · rw [hbytes]
    rintro _ ⟨⟩
    decide
  · rw [hbytes]
    exact ⟨_, _, rfl, .null _⟩

theorem readBack_bool {room : Nat} (b : Bool) : ReadBack room (.bool b) := by
  cases b with
  | false =>
    have hbytes : bytesOf (render (.bool false)) = [0x66, 0x61, 0x6C, 0x73, 0x65] := bytesOf_of_eq rfl
    refine readBack_scalar (.bool _) ?_ fun p rest _ => ?_
    · rw [hbytes]
      rintro _ ⟨⟩
      decide
    · rw [hbytes]
      exact ⟨_, _, rfl, .bool _ _⟩
  | true =>
    have hbytes : bytesOf (render (.bool true)) = [0x74, 0x72, 0x75, 0x65] := bytesOf_of_eq rfl
    refine readBack_scalar (.bool _) ?_ fun p rest _ => ?_
    · rw [hbytes]
      rintro _ ⟨⟩
      decide
    · rw [hbytes]
      exact ⟨_, _, rfl, .bool _ _⟩

theorem readBack_string {room : Nat} (s : String) : ReadBack room (.string s) := by
  refine readBack_scalar (.string s) ?_ fun p rest _ => ?_
  · rw [render, bytesOf_stringText]
    rintro _ ⟨⟩
    decide
  obtain ⟨q, hskip⟩ := skipString_quoted s (p.past 0x22) rest
  have hread := readString_quoted s (p.past 0x22) rest
  refine ⟨.string (.ok s) ⟨p, q⟩, q, ?_, .string s _⟩
  rw [render, bytesOf_stringText, List.cons_append, List.append_assoc, List.singleton_append]
  have hnext (bs : List UInt8) : Cursor.advance ⟨0x22 :: bs, p⟩ = ⟨bs, p.past 0x22⟩ := rfl
  rw [readScalar]
  simp only [hnext, hskip, hread]
  rfl

/-- What is printed for a whole number is read as a number, if it is a numeral. -/
theorem readScalar_numberText {n : Int} {p : Place} {rest : List UInt8} {numeral : Numeral} {after : Cursor}
    (hscan : Numeral.scan ⟨bytesOf (numberText (.int n)) ++ rest, p⟩ = .ok (numeral, after)) :
    readScalar ⟨bytesOf (numberText (.int n)) ++ rest, p⟩ =
      (.number numeral.value ⟨p, numeral.stop⟩, some after) := by
  obtain ⟨b, bs, hbs, hb⟩ := Numeral.exists_numberText n
  have hne (b' : UInt8) := @ne_of_numeral b b' hb
  have hstarts : startsNumeral b := by
    simp only [startsNumeral, Bool.or_eq_true, Bool.and_eq_true, decide_eq_true_eq, beq_iff_eq,
      UInt8.le_iff_toNat_le, ← UInt8.toNat_inj]
    exact hb
  rw [readScalar]
  rw [hbs, List.cons_append] at hscan ⊢
  simp only [beq_eq_false_iff_ne.2 (hne 0x6E (by decide)), beq_eq_false_iff_ne.2 (hne 0x74 (by decide)),
    beq_eq_false_iff_ne.2 (hne 0x66 (by decide)), beq_eq_false_iff_ne.2 (hne 0x22 (by decide)),
    hstarts, hscan, Bool.false_eq_true, if_false, if_true]

theorem readBack_whole {room : Nat} {n : Int} (hn : Fits n) : ReadBack room (.number (.int n)) := by
  refine readBack_scalar (.whole hn) ?_ fun p rest hrest => ?_
  · obtain ⟨b, bs, hbs, hb⟩ := Numeral.exists_numberText n
    rw [render, hbs]
    rintro _ ⟨⟩
    exact ⟨ne_of_numeral hb (by decide), ne_of_numeral hb (by decide)⟩
  · obtain ⟨numeral, q, hscan, hvalue⟩ := Numeral.scan_whole hn p hrest
    refine ⟨.number (.ok (.int n)) ⟨p, numeral.stop⟩, q, ?_, .number _ _⟩
    rw [render, readScalar_numberText hscan, hvalue]

/-! ## Arrays -/

/-- The bytes of elements that follow others. -/
def moreElements : List Json → List UInt8
  | [] => []
  | v :: vs => 0x2C :: (bytesOf v.render ++ moreElements vs)

theorem bytesOf_renderElements (v : Json) (vs : List Json) :
    bytesOf (renderElements (v :: vs)) = bytesOf v.render ++ moreElements vs := by
  induction vs generalizing v with
  | nil => exact (List.append_nil _).symm
  | cons w vs ih =>
    rw [renderElements, Text.bytesOf_append, Text.bytesOf_append, ih, bytesOf_of_eq (s := ",") rfl,
      List.append_assoc]
    rfl

theorem ends_moreElements (vs : List Json) (rest : List UInt8) :
    Ends (moreElements vs ++ 0x5D :: rest) := by
  cases vs with
  | nil => rintro _ ⟨⟩; decide
  | cons => rintro _ ⟨⟩; decide

/-- The rest of an array from an element on. -/
def elementFrom (fuel depth : Nat) (c : Cursor) : Items × Option Cursor :=
  match readValue fuel depth c with
  | (v, none) => (.item c.place v .cut, none)
  | (v, some after) =>
    let (rest, final) := readItems fuel depth false after
    (.item c.place v rest, final)

theorem readItems_first {b : UInt8} (hb : Starts b) (fuel depth : Nat) (bs : List UInt8) (p : Place) :
    readItems (fuel + 1) depth true ⟨b :: bs, p⟩ = elementFrom fuel depth ⟨b :: bs, p⟩ := by
  rw [readItems, skipBlanks_of_not hb.notBlank]
  simp only [beq_eq_false_iff_ne.2 hb.notClosing, Bool.false_eq_true, if_false, if_true]
  rfl

theorem readItems_comma {b : UInt8} (hb : Starts b) (fuel depth : Nat) (bs : List UInt8) (p : Place) :
    readItems (fuel + 1) depth false ⟨0x2C :: b :: bs, p⟩ =
      elementFrom fuel depth ⟨b :: bs, p.past 0x2C⟩ := by
  have hcomma : ¬ Cursor.isBlank 0x2C := by decide
  have hnext : Cursor.advance ⟨0x2C :: b :: bs, p⟩ = ⟨b :: bs, p.past 0x2C⟩ := rfl
  rw [readItems, skipBlanks_of_not hcomma]
  simp only [hnext, skipBlanks_of_not hb.notBlank, beq_eq_false_iff_ne.2 hb.notClosing,
    Bool.false_eq_true, if_false]
  rfl

/-- Elements that follow others are read back. -/
theorem readItems_more {room : Nat} {vs : List Json} (hvs : ∀ v ∈ vs, Kept room v ∧ ReadBack room v)
    {fuel depth : Nat} (hdepth : depth + room ≤ maxDepth) (hfuel : (moreElements vs).length < fuel)
    (p : Place) (rest : List UInt8) : ∃ (items : Items) (q : Place),
      readItems fuel depth false ⟨moreElements vs ++ 0x5D :: rest, p⟩ = (items, some ⟨rest, q⟩) ∧
        items.Writes vs := by
  induction vs generalizing fuel p with
  | nil =>
    obtain ⟨k, rfl⟩ := Nat.exists_eq_add_of_lt hfuel
    exact ⟨_, _, rfl, .done _⟩
  | cons v vs ih =>
    obtain ⟨⟨hkept, hread⟩, hvs⟩ := List.forall_mem_cons.1 hvs
    obtain ⟨b, bs, hbs, hb⟩ := exists_render hkept
    simp only [moreElements, List.length_cons, List.length_append] at hfuel
    obtain ⟨fuel, rfl⟩ : ∃ k, fuel = k + 1 := ⟨fuel - 1, by omega⟩
    obtain ⟨n, q, hn, hwrites⟩ := hread fuel depth (p.past 0x2C) (moreElements vs ++ 0x5D :: rest)
      (ends_moreElements vs rest) hdepth (by omega)
    obtain ⟨items, r, hitems, hrest⟩ := @ih hvs fuel (by omega) q
    refine ⟨_, r, ?_, .item (p.past 0x2C) hwrites hrest⟩
    rw [moreElements, List.cons_append, List.append_assoc]
    rw [hbs] at hn ⊢
    rw [List.cons_append] at hn ⊢
    rw [readItems_comma hb, elementFrom, hn]
    simp only [hitems]

/-- An array is read back if its elements are. -/
theorem readBack_array {room : Nat} {vs : List Json} (hvs : ∀ v ∈ vs, Kept room v ∧ ReadBack room v) :
    ReadBack (room + 1) (.array vs) := by
  intro fuel depth p rest _ hdepth hfuel
  rw [bytesOf_array, List.length_cons, List.length_append, List.length_singleton] at hfuel
  rw [bytesOf_array]
  obtain ⟨fuel, rfl⟩ : ∃ k, fuel = k + 2 := ⟨fuel - 2, by omega⟩
  have hitems : ∃ (items : Items) (q : Place), readItems (fuel + 1) (depth + 1) true
      ⟨bytesOf (renderElements vs) ++ 0x5D :: rest, p.past 0x5B⟩ = (items, some ⟨rest, q⟩) ∧
        items.Writes vs := by
    cases vs with
    | nil =>
      have hbytes : bytesOf (renderElements []) = [] := bytesOf_of_eq rfl
      rw [hbytes]
      exact ⟨_, _, rfl, .done _⟩
    | cons v vs =>
      obtain ⟨⟨hkept, hread⟩, hvs⟩ := List.forall_mem_cons.1 hvs
      obtain ⟨b, bs, hbs, hb⟩ := exists_render hkept
      rw [bytesOf_renderElements, List.length_append] at hfuel
      rw [bytesOf_renderElements]
      have hpos : 0 < (bytesOf v.render).length := by rw [hbs]; exact Nat.succ_pos _
      obtain ⟨n, q, hn, hwrites⟩ := hread fuel (depth + 1) (p.past 0x5B) (moreElements vs ++ 0x5D :: rest)
        (ends_moreElements vs rest) (by omega) (by omega)
      obtain ⟨items, r, hitems, hrest⟩ := @readItems_more room vs hvs fuel (depth + 1) (by omega)
        (by omega) q rest
      refine ⟨_, r, ?_, .item (p.past 0x5B) hwrites hrest⟩
      rw [hbs] at hn ⊢
      rw [List.append_assoc]
      rw [List.cons_append] at hn ⊢
      rw [readItems_first hb, elementFrom, hn]
      simp only [hitems]
  obtain ⟨items, q, hq, hwrites⟩ := hitems
  have henter (c : Cursor) : enter depth c = .ok () := if_pos (by omega)
  refine ⟨.array p (.ok ()) items, q, ?_, .array p hwrites⟩
  have hbracket : ¬ Cursor.isBlank 0x5B := by decide
  rw [List.cons_append, readValue, skipBlanks_of_not hbracket, List.append_assoc, List.singleton_append]
  have hnext (bs : List UInt8) : Cursor.advance ⟨0x5B :: bs, p⟩ = ⟨bs, p.past 0x5B⟩ := rfl
  simp only [beq_self_eq_true, if_true, hnext, hq, henter]

/-! ## Objects -/

/-- The bytes of members that follow others. -/
def moreMembers : List (String × Json) → List UInt8
  | [] => []
  | (name, v) :: ms =>
    0x2C :: (bytesOf (stringText name) ++ 0x3A :: (bytesOf v.render ++ moreMembers ms))

theorem bytesOf_renderMembers (name : String) (v : Json) (ms : List (String × Json)) :
    bytesOf (renderMembers ((name, v) :: ms)) =
      bytesOf (stringText name) ++ 0x3A :: (bytesOf v.render ++ moreMembers ms) := by
  have hcolon : bytesOf ":" = [0x3A] := bytesOf_of_eq rfl
  have hcomma : bytesOf "," = [0x2C] := bytesOf_of_eq rfl
  induction ms generalizing name v with
  | nil =>
    rw [renderMembers, Text.bytesOf_append, Text.bytesOf_append, hcolon, moreMembers, List.append_nil,
      List.append_assoc, List.singleton_append]
  | cons m ms ih =>
    obtain ⟨name', w⟩ := m
    simp only [renderMembers, Text.bytesOf_append, ih, hcolon, hcomma, moreMembers, List.append_assoc,
      List.cons_append, List.nil_append]

theorem ends_moreMembers (ms : List (String × Json)) (rest : List UInt8) :
    Ends (moreMembers ms ++ 0x7D :: rest) := by
  cases ms with
  | nil => rintro _ ⟨⟩; decide
  | cons => rintro _ ⟨⟩; decide

/-- The rest of an object from the name of a member on. -/
def memberFrom (fuel depth : Nat) (before : Place) (c : Cursor) : Members × Option Cursor :=
  match readKey before c with
  | .error fault => (.broken fault false c.place, none)
  | .ok (key, next) =>
    match next.rest with
    | [] => (.nameOnly key (.both .objectCutShort next.peek), none)
    | b :: _ =>
      if b == 0x3A then
        match readValue fuel depth next.advance with
        | (v, none) => (.member key v .cut, none)
        | (v, some after) =>
          let (rest, final) := readMembers fuel depth false after
          (.member key v rest, final)
      else (.nameOnly key (.both .colonExpected next.peek), none)

theorem readMembers_first (fuel depth : Nat) (bs : List UInt8) (p : Place) :
    readMembers (fuel + 1) depth true ⟨0x22 :: bs, p⟩ = memberFrom fuel depth p ⟨0x22 :: bs, p⟩ := by
  rw [readMembers]
  rfl

theorem readMembers_comma (fuel depth : Nat) (bs : List UInt8) (p : Place) :
    readMembers (fuel + 1) depth false ⟨0x2C :: 0x22 :: bs, p⟩ =
      memberFrom fuel depth p ⟨0x22 :: bs, p.past 0x2C⟩ := by
  rw [readMembers]
  rfl

/-- A name is read back. -/
theorem readKey_quoted (name : String) (before p : Place) (rest : List UInt8) :
    ∃ (key : Key) (q : Place), key.name = .ok name ∧
      readKey before ⟨0x22 :: (quotedBytes name ++ 0x22 :: 0x3A :: rest), p⟩ =
        .ok (key, ⟨0x3A :: rest, q⟩) := by
  obtain ⟨q, hskip⟩ := skipString_quoted name (p.past 0x22) (0x3A :: rest)
  have hread := readString_quoted name (p.past 0x22) (0x3A :: rest)
  refine ⟨⟨.ok name, q, q, before⟩, q, rfl, ?_⟩
  have hnext (bs : List UInt8) : Cursor.advance ⟨0x22 :: bs, p⟩ = ⟨bs, p.past 0x22⟩ := rfl
  have hcolon : ¬ Cursor.isBlank 0x3A := by decide
  rw [readKey, hnext, hskip, hread]
  simp only [skipBlanks_of_not hcolon]
  rfl

/-- A member is read back, if its value and the members that follow it are. -/
theorem memberFrom_read {room fuel depth : Nat} (name : String) {v : Json} (hread : ReadBack room v)
    (hdepth : depth + room ≤ maxDepth) (hfuel : (bytesOf v.render).length ≤ fuel)
    {ms : List (String × Json)} {rest : List UInt8}
    (hmore : ∀ p, ∃ (members : Members) (q : Place),
      readMembers fuel depth false ⟨moreMembers ms ++ 0x7D :: rest, p⟩ = (members, some ⟨rest, q⟩) ∧
        members.Writes ms) (before p : Place) :
    ∃ (members : Members) (q : Place), memberFrom fuel depth before
      ⟨0x22 :: (quotedBytes name ++
        0x22 :: 0x3A :: (bytesOf v.render ++ (moreMembers ms ++ 0x7D :: rest))), p⟩ =
        (members, some ⟨rest, q⟩) ∧ members.Writes ((name, v) :: ms) := by
  obtain ⟨key, q, hname, hkey⟩ := readKey_quoted name before p
    (bytesOf v.render ++ (moreMembers ms ++ 0x7D :: rest))
  obtain ⟨n, r, hn, hwrites⟩ := hread fuel depth (q.past 0x3A) (moreMembers ms ++ 0x7D :: rest)
    (ends_moreMembers ms rest) hdepth hfuel
  obtain ⟨members, t, hmembers, hrest⟩ := hmore r
  refine ⟨.member key n members, t, ?_, .member hname hwrites hrest⟩
  have hnext (bs : List UInt8) : Cursor.advance ⟨0x3A :: bs, q⟩ = ⟨bs, q.past 0x3A⟩ := rfl
  simp only [memberFrom, hkey, beq_self_eq_true, if_true, hnext, hn, hmembers]

/-- Members that follow others are read back. -/
theorem readMembers_more {room : Nat} {ms : List (String × Json)} (hms : ∀ m ∈ ms, ReadBack room m.2)
    {fuel depth : Nat} (hdepth : depth + room ≤ maxDepth) (hfuel : (moreMembers ms).length < fuel)
    (p : Place) (rest : List UInt8) : ∃ (members : Members) (q : Place),
      readMembers fuel depth false ⟨moreMembers ms ++ 0x7D :: rest, p⟩ = (members, some ⟨rest, q⟩) ∧
        members.Writes ms := by
  induction ms generalizing fuel p with
  | nil =>
    obtain ⟨k, rfl⟩ := Nat.exists_eq_add_of_lt hfuel
    exact ⟨_, _, rfl, .done _⟩
  | cons m ms ih =>
    obtain ⟨name, v⟩ := m
    obtain ⟨hv, hms⟩ := List.forall_mem_cons.1 hms
    have hread : ReadBack room v := hv
    simp only [moreMembers, List.length_cons, List.length_append] at hfuel
    obtain ⟨fuel, rfl⟩ : ∃ k, fuel = k + 1 := ⟨fuel - 1, by omega⟩
    obtain ⟨members, q, hmembers, hwrites⟩ := memberFrom_read name hread hdepth
      (by omega) (@ih hms fuel (by omega)) p (p.past 0x2C)
    refine ⟨members, q, ?_, hwrites⟩
    simp only [moreMembers, bytesOf_stringText, List.cons_append, List.append_assoc, List.nil_append]
    rw [readMembers_comma, hmembers]

/-- An object is read back if its members are. -/
theorem readBack_object {room : Nat} {ms : List (String × Json)} (hms : ∀ m ∈ ms, ReadBack room m.2) :
    ReadBack (room + 1) (.object ms) := by
  intro fuel depth p rest _ hdepth hfuel
  rw [bytesOf_object, List.length_cons, List.length_append, List.length_singleton] at hfuel
  rw [bytesOf_object]
  obtain ⟨fuel, rfl⟩ : ∃ k, fuel = k + 2 := ⟨fuel - 2, by omega⟩
  have hmembers : ∃ (members : Members) (q : Place), readMembers (fuel + 1) (depth + 1) true
      ⟨bytesOf (renderMembers ms) ++ 0x7D :: rest, p.past 0x7B⟩ = (members, some ⟨rest, q⟩) ∧
        members.Writes ms := by
    cases ms with
    | nil =>
      have hbytes : bytesOf (renderMembers []) = [] := bytesOf_of_eq rfl
      rw [hbytes]
      exact ⟨_, _, rfl, .done _⟩
    | cons m ms =>
      obtain ⟨name, v⟩ := m
      obtain ⟨hv, hms⟩ := List.forall_mem_cons.1 hms
      have hread : ReadBack room v := hv
      simp only [bytesOf_renderMembers, List.length_cons, List.length_append] at hfuel
      obtain ⟨members, q, hmembers, hwrites⟩ := memberFrom_read name hread
        (show depth + 1 + room ≤ maxDepth by omega) (show _ ≤ fuel by omega)
        (fun r => readMembers_more hms (by omega) (by omega) r rest) (p.past 0x7B) (p.past 0x7B)
      refine ⟨members, q, ?_, hwrites⟩
      simp only [bytesOf_renderMembers, bytesOf_stringText, List.cons_append, List.append_assoc,
        List.nil_append]
      rw [readMembers_first, hmembers]
  obtain ⟨members, q, hq, hwrites⟩ := hmembers
  have henter (c : Cursor) : enter depth c = .ok () := if_pos (by omega)
  have hbrace : ¬ Cursor.isBlank 0x7B := by decide
  have hnext (bs : List UInt8) : Cursor.advance ⟨0x7B :: bs, p⟩ = ⟨bs, p.past 0x7B⟩ := rfl
  refine ⟨.object p (.ok ()) (readScalar (Cursor.skipBlanks ⟨bytesOf (renderMembers ms) ++ 0x7D :: rest,
    p.past 0x7B⟩)).1 members, q, ?_, .object p _ hwrites⟩
  rw [List.cons_append, readValue, skipBlanks_of_not hbrace, List.append_assoc, List.singleton_append]
  simp only [beq_iff_eq, hnext, hq, henter]
  rfl

/-! ## Whole texts -/

/-- Values whose texts say all of them are read back. -/
theorem Kept.readBack {room : Nat} {v : Json} (h : Kept room v) : ReadBack room v := by
  induction h with
  | null => exact readBack_null
  | bool b => exact readBack_bool b
  | string s => exact readBack_string s
  | whole hn => exact readBack_whole hn
  | array hvs ih => exact readBack_array fun v hv => ⟨hvs v hv, ih v hv⟩
  | object _ ih => exact readBack_object ih

/-- The text of such a value is read as a document that writes it, and nothing follows. -/
theorem ofBytes_render {v : Json} (h : Kept maxDepth v) :
    ∃ root, Document.ofBytes (bytesOf v.render) = ⟨root, .ok ()⟩ ∧ root.Writes v := by
  obtain ⟨root, q, hread, hwrites⟩ := h.readBack (2 * (bytesOf v.render).length + 2) 0 .start []
    ends_nil (Nat.le_of_eq (Nat.zero_add _)) (by omega)
  refine ⟨root, ?_, hwrites⟩
  rw [List.append_nil] at hread
  rw [Document.ofBytes, Cursor.ofBytes, hread]
  rfl

end TripClient.Json
