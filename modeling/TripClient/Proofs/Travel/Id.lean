import TripClient.Proofs.Json.Bounded
import TripClient.Proofs.Travel.RoundTrip

/-!
# Ids of numbers and texts

A value is an id if it is a text that is not blank or a whole number of 64 bits. A number, the text of its
digits, and this text with blanks around it are one id, and different numbers are different ids: where ids are
keys of a cache or parts of a path, it does not matter which of the two a server sends (`Id.canonical`). A
whole number out of range is read as a floating-point number, as are `-0`, `1.0` and `1e2`; none of them is
an id.
-/

namespace TripClient

open Json
open Json.Decoder (any ofDocument)
open Text (bytesOf isBlank)

namespace Id

variable {resource : Resource}

/-! ## The texts of numbers -/

theorem digitText_eq_repr (n : Nat) : Decimal.digitText n = n.repr := Nat.repr_eq_ofList_toDigits.symm

/-- A whole number is written with its digits, behind a minus sign if it is negative. -/
theorem intText_eq_toString (n : Int) : intText n = toString n := by
  rw [intText, digitText_eq_repr, Int.toString_eq_repr, Int.repr_eq_if, Decimal.signText]
  by_cases hn : 0 ≤ n
  · rw [if_neg (by rw [decide_eq_true_eq]; omega), if_pos hn]
    exact String.empty_append.trans (congrArg Nat.repr (by omega))
  · rw [if_pos (by rw [decide_eq_true_eq]; omega), if_neg hn]
    congr 2
    omega

theorem trim_toString (n : Int) : Text.trim (toString n) = toString n := by
  rw [← intText_eq_toString, trim_intText]

theorem toString_ne_empty (n : Int) : toString n ≠ "" := by
  intro h
  rw [← intText_eq_toString, ← String.toList_inj, intText, String.toList_append, Decimal.digitText,
    String.toList_ofList] at h
  exact Nat.toDigits_ne_nil (List.append_eq_nil_iff.1 h).2

/-! ## Which values are ids -/

/-- On its own, a value is read as what it says. -/
theorem decode_iff {v : Json} {id : Id resource} : decoder.ofJson v = .ok id ↔ ofJson v = .ok id := by
  have hread {w : Json} (hw : any (Node.ofJson v) = .ok w) : decoder.ofJson v = .ok id ↔ ofJson w = .ok id := by
    rw [Decoder.ofJson, decoder, hw, ok_bind, mapError_eq_ok]
  cases v with
  | null | bool | number | string => exact hread rfl
  | array vs =>
    refine ⟨fun h => ?_, fun h => by cases h⟩
    obtain ⟨w, hw, h⟩ := bind_eq_ok.1 h
    obtain ⟨_, -, hw⟩ := bind_eq_ok.1 hw
    obtain ⟨ws, -, hw⟩ := bind_eq_ok.1 hw
    cases hw
    cases h
  | object ms =>
    refine ⟨fun h => ?_, fun h => by cases h⟩
    obtain ⟨w, hw, h⟩ := bind_eq_ok.1 h
    obtain ⟨_, -, hw⟩ := bind_eq_ok.1 hw
    obtain ⟨ws, -, hw⟩ := bind_eq_ok.1 hw
    cases hw
    cases h

/-- An id is a text without the blanks around it, or the text of a number. -/
theorem decode_iff_text {v : Json} {id : Id resource} :
    decoder.ofJson v = .ok id ↔
      (∃ s, v = .string s ∧ Text.trim s = id.text ∧ id.text ≠ "") ∨
        ∃ n, v = .number (.int n) ∧ toString n = id.text := by
  rw [decode_iff, ofJson_eq_ok_iff]
  constructor
  · rintro ⟨hraw, hempty⟩
    cases v with
    | string s => exact .inl ⟨s, rfl, Option.some_inj.1 hraw, hempty⟩
    | number n =>
      cases n with
      | int n => exact .inr ⟨n, rfl, (intText_eq_toString n).symm.trans (Option.some_inj.1 hraw)⟩
      | float => cases hraw
    | null | bool | array | object => cases hraw
  · rintro (⟨s, rfl, htrim, hempty⟩ | ⟨n, rfl, hn⟩)
    · exact ⟨congrArg some htrim, hempty⟩
    · exact ⟨congrArg some ((intText_eq_toString n).trans hn), hn ▸ toString_ne_empty n⟩

/-- Of a whole text an id is read as of its value. -/
theorem ofDocument_iff {document : Document} {id : Id resource} :
    ofDocument decoder document = .ok id ↔
      ∃ v, ofDocument any document = .ok v ∧ decoder.ofJson v = .ok id := by
  simp only [ofDocument, decoder, bind_eq_ok, decode_iff, mapError_eq_ok]
  constructor
  · rintro ⟨_, ⟨v, hv, hid⟩, ⟨⟩, htrailing, ⟨⟩⟩
    exact ⟨v, ⟨v, hv, (), htrailing, rfl⟩, hid⟩
  · rintro ⟨_, ⟨v, hv, ⟨⟩, htrailing, ⟨⟩⟩, hid⟩
    exact ⟨id, ⟨_, hv, hid⟩, (), htrailing, rfl⟩

/-- A bounded value is an id if it is a text that is not blank, or a whole number. -/
theorem exists_decode_iff {v : Json} (hv : Bounded v) :
    (∃ id : Id resource, decoder.ofJson v = .ok id) ↔
      (∃ s, v = .string s ∧ ∃ c ∈ s.toList, isBlank c = false) ∨ ∃ n, v = .number (.int n) ∧ Fits n := by
  have hblank (s : String) : Text.trim s ≠ "" ↔ ∃ c ∈ s.toList, isBlank c = false := by
    rw [Ne, Text.trim_eq_empty_iff, Text.isBlankText, List.all_eq_true]
    simp
  constructor
  · rintro ⟨id, hid⟩
    rcases decode_iff_text.1 hid with ⟨s, rfl, htrim, hempty⟩ | ⟨n, rfl, -⟩
    · exact .inl ⟨s, rfl, (hblank s).1 (htrim ▸ hempty)⟩
    · cases hv with
      | whole hn => exact .inr ⟨n, rfl, hn⟩
  · rintro (⟨s, rfl, hs⟩ | ⟨n, rfl, -⟩)
    · exact ⟨⟨Text.trim s⟩, decode_iff_text.2 (.inl ⟨s, rfl, rfl, (hblank s).2 hs⟩)⟩
    · exact ⟨⟨toString n⟩, decode_iff_text.2 (.inr ⟨n, rfl, rfl⟩)⟩

/-! ## What ids look like -/

/-- Whether a text is not empty, and neither begins nor closes with a blank. -/
structure Trimmed (s : String) : Prop where
  notEmpty : s ≠ ""
  start : ∀ c ∈ s.toList.head?, isBlank c = false
  close : ∀ c ∈ s.toList.getLast?, isBlank c = false

theorem trimmed_of_decode {v : Json} {id : Id resource} (h : decoder.ofJson v = .ok id) : Trimmed id.text := by
  obtain ⟨hraw, hempty⟩ := ofJson_eq_ok_iff.1 (decode_iff.1 h)
  have htrim := trim_of_rawText? hraw
  exact ⟨hempty, fun c hc => Text.isBlank_of_head_trim (htrim.symm ▸ hc),
    fun c hc => Text.isBlank_of_getLast_trim (htrim.symm ▸ hc)⟩

/-- A number is the id of its text, with or without blanks around it. -/
theorem decode_number (n : Int) {before after : List Char} (hbefore : ∀ c ∈ before, isBlank c)
    (hafter : ∀ c ∈ after, isBlank c) :
    (@decoder resource).ofJson (.number (.int n)) = .ok ⟨toString n⟩ ∧
      (@decoder resource).ofJson (.string (toString n)) = .ok ⟨toString n⟩ ∧
      (@decoder resource).ofJson (.string (String.ofList before ++ toString n ++ String.ofList after)) =
        .ok ⟨toString n⟩ := by
  have htext {s : String} (hs : Text.trim s = toString n) :
      (@decoder resource).ofJson (.string s) = .ok ⟨toString n⟩ :=
    decode_iff_text.2 (.inl ⟨s, rfl, hs, toString_ne_empty n⟩)
  refine ⟨decode_iff_text.2 (.inr ⟨n, rfl, rfl⟩), htext (trim_toString n), htext ?_⟩
  have haround := Text.trim_around hbefore hafter (trim_toString n)
  rwa [String.ofList_append, String.ofList_append, String.ofList_toList] at haround

/-- The digits of a number are its id, if it is in range. -/
theorem ofBytes_toString_iff {n : Int} {id : Id resource} :
    ofDocument decoder (.ofBytes (bytesOf (toString n))) = .ok id ↔ Fits n ∧ id = ⟨toString n⟩ := by
  obtain ⟨numeral, hdocument, hvalue, hwhole⟩ := ofBytes_numberText n
  have hprinted : toString n = numberText (.int n) := (intText_eq_toString n).symm
  rw [hprinted, hdocument, ofDocument_iff, ← hprinted]
  constructor
  · rintro ⟨v, hv, hid⟩
    obtain ⟨_, hroot, hv⟩ := bind_eq_ok.1 hv
    obtain ⟨_, -, hv⟩ := bind_eq_ok.1 hv
    cases hv
    obtain ⟨number, hnumber, rfl⟩ := map_eq_ok.1 hroot
    rcases decode_iff_text.1 hid with ⟨s, hs, -, -⟩ | ⟨m, hm, htext⟩
    · cases hs
    · cases hm
      obtain ⟨rfl, hfits⟩ := hwhole m hnumber
      exact ⟨hfits, congrArg Id.mk htext.symm⟩
  · rintro ⟨hfits, rfl⟩
    refine ⟨.number (.int n), ?_, decode_iff_text.2 (.inr ⟨n, rfl, rfl⟩)⟩
    rw [hvalue hfits]
    rfl

/-- Different numbers have different digits, since these are read back. -/
theorem eq_of_toString_eq {m n : Int} (hm : Fits m) (hn : Fits n) (h : toString m = toString n) : m = n := by
  obtain ⟨numeral, hdocument, hvalue, -⟩ := ofBytes_numberText m
  obtain ⟨numeral', hdocument', hvalue', -⟩ := ofBytes_numberText n
  have hprinted : numberText (.int m) = numberText (.int n) :=
    (intText_eq_toString m).trans (h.trans (intText_eq_toString n).symm)
  rw [← hprinted, hdocument, hvalue hm, hvalue' hn] at hdocument'
  simp only [Document.mk.injEq, Node.number.injEq, Except.ok.injEq, Number.int.injEq] at hdocument'
  exact hdocument'.1.1

/-- What is written for an id that was read is read as this id, on its own and as a text. -/
theorem decode_toJson {v : Json} {id : Id resource} (h : decoder.ofJson v = .ok id) :
    decoder.ofJson id.toJson = .ok id ∧
      ofDocument decoder (.ofBytes (bytesOf id.toJson.render)) = .ok id := by
  have hid : decoder.ofJson id.toJson = .ok id := inverts _ _ h
  refine ⟨hid, ?_⟩
  obtain ⟨root, hroot, hwrites⟩ := ofBytes_render (.string id.text)
  rw [toJson, hroot, ofDocument_iff]
  cases hwrites
  exact ⟨.string id.text, rfl, hid⟩

/-- Ids are canonical. What is read of a text is read of its value, whose whole numbers are in range; such a
value is an id if and only if it is a text that is not blank or a whole number. The digits of a number that is
out of range are no id. Ids are trimmed, and read back when they are written. A number is the same id as its
text, with or without blanks around it, and as the id that is made of it; different numbers are different
ids. -/
theorem canonical :
    (∀ bytes (id : Id resource), ofDocument decoder (.ofBytes bytes) = .ok id ↔
      ∃ v, Bounded v ∧ ofDocument any (.ofBytes bytes) = .ok v ∧ decoder.ofJson v = .ok id) ∧
    (∀ v, Bounded v → ((∃ id : Id resource, decoder.ofJson v = .ok id) ↔
      (∃ s, v = .string s ∧ ∃ c ∈ s.toList, isBlank c = false) ∨ ∃ n, v = .number (.int n) ∧ Fits n)) ∧
    (∀ (n : Int) (id : Id resource),
      ofDocument decoder (.ofBytes (bytesOf (toString n))) = .ok id ↔ Fits n ∧ id = ⟨toString n⟩) ∧
    (∀ v (id : Id resource), decoder.ofJson v = .ok id → Trimmed id.text ∧
      decoder.ofJson id.toJson = .ok id ∧
      ofDocument decoder (.ofBytes (bytesOf id.toJson.render)) = .ok id) ∧
    (∀ n, Fits n → ∀ before after : List Char, (∀ c ∈ before, isBlank c) → (∀ c ∈ after, isBlank c) →
      (@decoder resource).ofJson (.number (.int n)) = .ok ⟨toString n⟩ ∧
      (@decoder resource).ofJson (.string (toString n)) = .ok ⟨toString n⟩ ∧
      (@decoder resource).ofJson (.string (String.ofList before ++ toString n ++ String.ofList after)) =
        .ok ⟨toString n⟩) ∧
    (∀ k : Nat, Fits k → (@decoder resource).ofJson (.number (.int k)) = .ok (ofNat k)) ∧
    ∀ m n, Fits m → Fits n →
      (@decoder resource).ofJson (.number (.int m)) = decoder.ofJson (.number (.int n)) → m = n := by
  have hnumber (n : Int) : (@decoder resource).ofJson (.number (.int n)) = .ok ⟨toString n⟩ :=
    decode_iff_text.2 (.inr ⟨n, rfl, rfl⟩)
  refine ⟨fun bytes id => ?_, fun v => exists_decode_iff, fun n id => ofBytes_toString_iff,
    fun v id h => ⟨trimmed_of_decode h, decode_toJson h⟩, fun n _ before after => decode_number n,
    fun k _ => ?_, fun m n hm hn h => ?_⟩
  · rw [ofDocument_iff]
    exact exists_congr fun v => ⟨fun ⟨hv, hid⟩ => ⟨bounded_of_ofBytes hv, hv, hid⟩, And.right⟩
  · rw [hnumber, ofNat, digitText_eq_repr]
    rfl
  · rw [hnumber, hnumber, Except.ok.injEq, Id.mk.injEq] at h
    exact eq_of_toString_eq hm hn h

/-- The greatest number that is an id, the least one, and a text with blanks of different kinds around it. -/
theorem canonical_at_limits :
    (∃ id : GroupId, decoder.ofJson (.string "\u2003a b\n") = .ok id) ∧
    Trimmed (ofNat 42 : GroupId).text ∧
    (@decoder .group).ofJson (.string "\u2003-9223372036854775808\n") = .ok ⟨"-9223372036854775808"⟩ ∧
    (@decoder .group).ofJson (.number (.int 18446744073709551615)) = .ok (ofNat 18446744073709551615) ∧
    (@decoder .group).ofJson (.number (.int (-1))) ≠ decoder.ofJson (.number (.int 1)) := by
  obtain ⟨-, hexists, -, htrimmed, hsame, hnat, hinj⟩ := @canonical .group
  have hleast : Fits (-9223372036854775808) := ⟨by decide, by decide⟩
  have hgreatest : Fits 18446744073709551615 := ⟨by decide, by decide⟩
  refine ⟨(hexists _ (.string _)).2 (.inl ⟨_, rfl, 'a', by decide, by decide⟩), ?_, ?_, ?_, ?_⟩
  · exact (htrimmed (.number (.int 42)) _ (hnat 42 ⟨by decide, by decide⟩)).1
  · have hdigits : toString (-9223372036854775808 : Int) = "-9223372036854775808" := by decide +kernel
    have haround := (hsame (-9223372036854775808) hleast ['\u2003'] ['\n']
      (List.forall_mem_singleton.2 rfl) (List.forall_mem_singleton.2 rfl)).2.2
    rwa [hdigits] at haround
  · exact hnat 18446744073709551615 hgreatest
  · exact fun h => absurd (hinj (-1) 1 ⟨by decide, by decide⟩ ⟨by decide, by decide⟩ h) (by decide)

end Id

end TripClient
