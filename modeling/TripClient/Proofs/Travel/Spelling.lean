import TripClient.Proofs.Json.Spelling
import TripClient.Proofs.Travel.RoundTrip

/-!
# Spellings of things

What is read of a thing does not depend on the names under which its fields stand, as long as no field stands
there twice, nor on members that are no fields (`Resource.read_respelled`). The names of a location are
fields of their own, of which several may stand there at once; it is read as if they were other names of one
field if there is one of them (`Location.decode_eq_aliased`), and of several the first that is not `null`
counts (`Location.decode_iff`).
-/

namespace TripClient

open Json

/-- The names of the fields of a thing, those of one field together. -/
def Resource.spellings : Resource → List (List String)
  | user => [["id"], ["username"], ["display_name", "full_name", "name"], ["email"],
      ["avatar_url", "avatar"], ["bio"]]
  | group => [["id"], ["name"], ["description"], ["cover_url", "cover_image", "image"],
      ["member_count", "members_count"], ["is_member"], ["owner"], ["created_at"]]
  | plan => [["id"], ["title", "name"], ["group", "group_id"], ["description"], ["destination"],
      ["start_date"], ["end_date"], ["activities"]]
  | activity => [["id"], ["title", "name"], ["description"], ["start_time", "start"],
      ["end_time", "end"], ["location", "location_name"], ["latitude"], ["longitude"]]
  | friendRequest => [["id"], ["from_user", "sender", "requester"], ["to_user", "receiver", "recipient"],
      ["status"], ["created_at"]]
  | conversation => [["id"], ["title", "name"], ["is_group"], ["participants", "members"],
      ["last_message"], ["unread_count"]]
  | message => [["id"], ["conversation", "conversation_id"], ["sender", "sender_id"],
      ["text", "content", "body"], ["attachment_url", "attachment"], ["created_at", "timestamp"]]
  | location => [["id"], ["name"], ["address", "formatted_address"], ["latitude", "lat"],
      ["longitude", "lng", "lon"], ["category"]]

/-! ## Shapes that check what they build -/

open Shape (Checks)

theorem Profile.checks : Profile.shape.Checks :=
  Checks.map _ (.field _) |>.seq (.field _) |>.seq (.field _) |>.seq (.field _) |>.seq (.field _)
    |>.seq (.field _)

theorem Group.checks : Group.shape.Checks :=
  Checks.map _ (.field _) |>.seq (.field _) |>.seq (.field _) |>.seq (.field _) |>.seq (.field _)
    |>.seq (.field _) |>.seq (.field _) |>.seq (.field _)

theorem Plan.checks : Plan.shape.Checks :=
  Checks.map _ (.field _) |>.seq (.field _) |>.seq (.field _) |>.seq (.field _) |>.seq (.field _)
    |>.seq (.field _) |>.seq (.field _) |>.seq (.field _)

theorem Activity.checks : Activity.shape.Checks :=
  Checks.map _ (.field _) |>.seq (.field _) |>.seq (.field _) |>.seq (.field _) |>.seq (.field _)
    |>.seq (.field _) |>.seq (.field _) |>.seq (.field _)

theorem FriendRequest.checks : FriendRequest.shape.Checks :=
  Checks.map _ (.field _) |>.seq (.field _) |>.seq (.field _) |>.seq (.field _) |>.seq (.field _)

theorem Conversation.checks : Conversation.shape.Checks :=
  Checks.map _ (.field _) |>.seq (.field _) |>.seq (.field _) |>.seq (.field _) |>.seq (.field _)
    |>.seq (.field _)

theorem Message.checks : Message.shape.Checks :=
  Checks.map _ (.field _) |>.seq (.field _) |>.seq (.field _) |>.seq (.field _) |>.seq (.field _)
    |>.seq (.field _)

theorem Location.checks : Location.shape.Checks :=
  Checks.map _ (.field _) |>.seq (.field _) |>.seq (.field _) |>.seq (.field _) |>.seq (.field _)
    |>.seq (.field _) |>.seq (.field _) |>.seq (.field _) |>.seq (.field _) |>.seq (.field _)

/-! ## Locations -/

/-- The number of a number value; a whole number is rounded to the nearest one. -/
def Json.float? : Json → Option Float
  | .number (.float x) => some x
  | .number (.int n) => some (Float.ofInt n)
  | _ => none

theorem Json.text_ofJson_iff (v : Json) (s : String) : Decoder.text.ofJson v = .ok s ↔ v.text? = some s := by
  cases v with
  | string t => exact ⟨fun h => congrArg some (Except.ok.inj h), fun h => congrArg Except.ok (Option.some.inj h)⟩
  | null | bool | number | array | object => exact ⟨nofun, nofun⟩

theorem Json.float_ofJson_iff (v : Json) (x : Float) :
    Decoder.float.ofJson v = .ok x ↔ v.float? = some x := by
  cases v with
  | number n =>
    cases n <;>
      exact ⟨fun h => congrArg some (Except.ok.inj h), fun h => congrArg Except.ok (Option.some.inj h)⟩
  | null | bool | string | array | object => exact ⟨nofun, nofun⟩

namespace Location

/-- The fields of a location, if its spellings were other names of one field each. -/
def aliased : Json.Shape Location :=
  Location.mk
    <$> Json.Shape.ofField (.required "id" Id.decoder)
    <*> Json.Shape.ofField (.required "name" .text)
    <*> Json.Shape.ofField (.optional "address" .text ["formatted_address"])
    <*> Json.Shape.ofField (.optional "latitude" .float ["lat"])
    <*> Json.Shape.ofField (.optional "longitude" .float ["lng", "lon"])
    <*> Json.Shape.ofField (.optional "category" .text)

theorem aliased_checks : aliased.Checks :=
  Checks.map _ (.field _) |>.seq (.field _) |>.seq (.field _) |>.seq (.field _) |>.seq (.field _)
    |>.seq (.field _)

/-- What a location is that is built of values for its fields, of which some may be given several times. -/
structure Built (id name category : Option Json) (address latitude longitude : List Json) (l : Location) :
    Prop where
  id : (Shape.ofField (.required "id" Id.decoder)).build (fun _ => id.map Node.ofJson) = .ok l.id
  name : (Shape.ofField (.required "name" .text)).build (fun _ => name.map Node.ofJson) = .ok l.name
  address : FirstOf Json.text? address l.address
  latitude : FirstOf Json.float? latitude l.latitude
  longitude : FirstOf Json.float? longitude l.longitude
  category : FirstOf Json.text? category.toList l.category

section

variable {members : List (String × Json)} {look : String → Option Node} {l : Location}

/-- A location is built of what stands under each of its names. -/
theorem build_iff (hlook : ∀ n ns, n :: ns ∈ shape.rules.map Rule.names →
      look n = (said members (n :: ns)).map Node.ofJson) :
    shape.build look = .ok l ↔
      Built (said members ["id"]) (said members ["name"]) (said members ["category"])
        (under members ["address", "formatted_address"]) (under members ["latitude", "lat"])
        (under members ["longitude", "lng", "lon"]) l := by
  have htext (n : String) (h : [n] ∈ shape.rules.map Rule.names) (x : Option String) :
      (Shape.ofField (.optional n .text)).build look = .ok x ↔ _ :=
    Shape.build_optional_iff rfl Json.text_ofJson_iff (hlook n [] h)
  have hfloat (n : String) (h : [n] ∈ shape.rules.map Rule.names) (x : Option Float) :
      (Shape.ofField (.optional n .float)).build look = .ok x ↔ _ :=
    Shape.build_optional_iff rfl Json.float_ofJson_iff (hlook n [] h)
  have hid : (Shape.ofField (.required "id" (@Id.decoder .location))).build look = _ :=
    Shape.build_field (hlook "id" [] (by decide))
  have hname : (Shape.ofField (.required "name" .text)).build look = _ :=
    Shape.build_field (hlook "name" [] (by decide))
  have hunder : under members [] = [] := rfl
  -- Each name is a field of its own; those of one thing are put together by `Option.or`, in their order.
  simp only [shape, Shape.build_seq, Shape.build_map, hid, hname, htext "address" (by decide),
    htext "formatted_address" (by decide), hfloat "latitude" (by decide), hfloat "lat" (by decide),
    hfloat "longitude" (by decide), hfloat "lng" (by decide), hfloat "lon" (by decide),
    htext "category" (by decide), under_cons, hunder, List.append_nil]
  constructor
  · rintro ⟨_, ⟨_, ⟨_, ⟨_, ⟨_, ⟨_, ⟨_, ⟨_, ⟨_, ⟨id, hid, rfl⟩, name, hname, rfl⟩, address, haddress, rfl⟩,
      formatted, hformatted, rfl⟩, latitude, hlatitude, rfl⟩, lat, hlat, rfl⟩, longitude, hlongitude, rfl⟩,
      lng, hlng, rfl⟩, lon, hlon, rfl⟩, category, hcategory, rfl⟩
    exact ⟨hid, hname, FirstOf.append_iff.2 ⟨_, _, haddress, hformatted, rfl⟩,
      FirstOf.append_iff.2 ⟨_, _, hlatitude, hlat, rfl⟩, FirstOf.append_iff.2
        ⟨_, _, hlongitude, FirstOf.append_iff.2 ⟨_, _, hlng, hlon, rfl⟩, Option.or_assoc⟩, hcategory⟩
  · rintro ⟨hid, hname, haddresses, hlatitudes, hlongitudes, hcategory⟩
    obtain ⟨address, formatted, haddress, hformatted, ha⟩ := FirstOf.append_iff.1 haddresses
    obtain ⟨latitude, lat, hlatitude, hlat, hy⟩ := FirstOf.append_iff.1 hlatitudes
    obtain ⟨longitude, _, hlongitude, hshort, hx⟩ := FirstOf.append_iff.1 hlongitudes
    obtain ⟨lng, lon, hlng, hlon, rfl⟩ := FirstOf.append_iff.1 hshort
    refine ⟨_, ⟨_, ⟨_, ⟨_, ⟨_, ⟨_, ⟨_, ⟨_, ⟨_, ⟨_, hid, rfl⟩, _, hname, rfl⟩, _, haddress, rfl⟩,
      _, hformatted, rfl⟩, _, hlatitude, rfl⟩, _, hlat, rfl⟩, _, hlongitude, rfl⟩, _, hlng, rfl⟩,
      _, hlon, rfl⟩, _, hcategory, ?_⟩
    rw [Option.or_assoc, ← ha, ← hy, ← hx]

/-- With one field of each name it is built of what is said of this field. -/
theorem aliased_build_iff (hlook : ∀ n ns, n :: ns ∈ aliased.rules.map Rule.names →
      look n = (said members (n :: ns)).map Node.ofJson) :
    aliased.build look = .ok l ↔
      Built (said members ["id"]) (said members ["name"]) (said members ["category"])
        (said members ["address", "formatted_address"]).toList
        (said members ["latitude", "lat"]).toList (said members ["longitude", "lng", "lon"]).toList l := by
  have htext (n : String) (ns : List String) (h : n :: ns ∈ aliased.rules.map Rule.names)
      (x : Option String) : (Shape.ofField (.optional n .text ns)).build look = .ok x ↔ _ :=
    Shape.build_optional_iff rfl Json.text_ofJson_iff (hlook n ns h)
  have hfloat (n : String) (ns : List String) (h : n :: ns ∈ aliased.rules.map Rule.names)
      (x : Option Float) : (Shape.ofField (.optional n .float ns)).build look = .ok x ↔ _ :=
    Shape.build_optional_iff rfl Json.float_ofJson_iff (hlook n ns h)
  have hid : (Shape.ofField (.required "id" (@Id.decoder .location))).build look = _ :=
    Shape.build_field (hlook "id" [] (by decide))
  have hname : (Shape.ofField (.required "name" .text)).build look = _ :=
    Shape.build_field (hlook "name" [] (by decide))
  simp only [aliased, Shape.build_seq, Shape.build_map, hid, hname,
    htext "address" ["formatted_address"] (by decide), hfloat "latitude" ["lat"] (by decide),
    hfloat "longitude" ["lng", "lon"] (by decide), htext "category" [] (by decide)]
  constructor
  · rintro ⟨_, ⟨_, ⟨_, ⟨_, ⟨_, ⟨id, hid, rfl⟩, name, hname, rfl⟩, address, haddress, rfl⟩,
      latitude, hlatitude, rfl⟩, longitude, hlongitude, rfl⟩, category, hcategory, rfl⟩
    exact ⟨hid, hname, haddress, hlatitude, hlongitude, hcategory⟩
  · rintro ⟨hid, hname, haddress, hlatitude, hlongitude, hcategory⟩
    exact ⟨_, ⟨_, ⟨_, ⟨_, ⟨_, ⟨_, hid, rfl⟩, _, hname, rfl⟩, _, haddress, rfl⟩, _, hlatitude, rfl⟩,
      _, hlongitude, rfl⟩, _, hcategory, rfl⟩

/-- A location is read as what is built of the members, if none of its names stands there twice. -/
theorem decode_iff_built (h : Single (shape.rules.map Rule.names) members) :
    decoder.ofJson (.object members) = .ok l ↔
      Built (said members ["id"]) (said members ["name"]) (said members ["category"])
        (under members ["address", "formatted_address"]) (under members ["latitude", "lat"])
        (under members ["longitude", "lng", "lon"]) l := by
  have hnames : (shape.rules.map Rule.names).flatten.Nodup := by decide
  rw [decoder, Shape.decode_ofJson_iff checks (Shape.nodup_assigned hnames h)]
  exact build_iff fun n ns hns => congrArg _ (Shape.lookup_assigned hnames hns members)

/-- If no field stands there twice, the names of a location are as good as other names of one field each. -/
theorem decode_eq_aliased (h : Single Resource.location.spellings members) :
    decoder.ofJson (.object members) = .ok l ↔
      (aliased.decode "LocationWire").ofJson (.object members) = .ok l := by
  have hnames : (aliased.rules.map Rule.names).flatten.Nodup := by decide
  have hsub : ∀ ns' ∈ shape.rules.map Rule.names, ∃ ns ∈ Resource.location.spellings, ns' ⊆ ns := by decide
  have htoList (ns : List String) (hns : ns ∈ Resource.location.spellings) (hnodup : ns.Nodup) :
      (said members ns).toList = under members ns :=
    toList_said hnodup (h.mono fun ms hms => ⟨ns, hns, List.mem_singleton.1 hms ▸ List.Subset.refl ns⟩)
  rw [decode_iff_built (h.mono hsub),
    Shape.decode_ofJson_iff aliased_checks (Shape.nodup_assigned hnames h),
    aliased_build_iff fun n ns hns => congrArg _ (Shape.lookup_assigned hnames hns members),
    htoList ["address", "formatted_address"] (by decide) (by decide),
    htoList ["latitude", "lat"] (by decide) (by decide),
    htoList ["longitude", "lng", "lon"] (by decide) (by decide)]

/-- The names of the address and of the coordinates. -/
def spelled : List String :=
  ["address", "formatted_address", "latitude", "lat", "longitude", "lng", "lon"]

/-- The members that say neither the address nor a coordinate. -/
def unspelled (members : List (String × Json)) : List (String × Json) :=
  members.filter fun p => !spelled.contains p.1

/-- Whether a location is what members say: the address and each coordinate is the first under its names that
is not `null`, if all are of the right kind or `null`, and without these members the location is the same
without address and coordinates. -/
structure ReadFrom (members : List (String × Json)) (l : Location) : Prop where
  address : FirstOf Json.text? (under members ["address", "formatted_address"]) l.address
  latitude : FirstOf Json.float? (under members ["latitude", "lat"]) l.latitude
  longitude : FirstOf Json.float? (under members ["longitude", "lng", "lon"]) l.longitude
  rest : decoder.ofJson (.object (unspelled members)) =
    .ok { l with address := none, latitude := none, longitude := none }

/-- Where no name stands twice, each field of a location has one name. -/
theorem single_rules (h : (members.map Prod.fst).Nodup) : Single (shape.rules.map Rule.names) members :=
  single_of_nodup h (by decide)

/-- What is read of the members that say neither the address nor a coordinate. -/
theorem decode_unspelled_iff (h : (members.map Prod.fst).Nodup) :
    decoder.ofJson (.object (unspelled members)) = .ok l ↔
      Built (said members ["id"]) (said members ["name"]) (said members ["category"]) [] [] [] l := by
  have hsub : ((unspelled members).map Prod.fst).Nodup := h.sublist (List.filter_sublist.map Prod.fst)
  have hsaid (n : String) (hn : ∀ m ∈ [n], (!spelled.contains m) = true) :
      said (unspelled members) [n] = said members [n] := said_filter hn members
  have hunder (ns : List String) (hns : ∀ n ∈ ns, (!spelled.contains n) = false) :
      under (unspelled members) ns = [] := under_filter hns members
  rw [decode_iff_built (single_rules hsub), hunder _ (by decide), hunder _ (by decide),
    hunder _ (by decide), hsaid "id" (by decide), hsaid "name" (by decide), hsaid "category" (by decide)]

/-- A location is what its members say, whatever else they hold. -/
theorem decode_iff (h : (members.map Prod.fst).Nodup) :
    decoder.ofJson (.object members) = .ok l ↔ ReadFrom members l := by
  have hnone {α : Type} {read? : Json → Option α} : FirstOf read? [] none := ⟨nofun, rfl⟩
  rw [decode_iff_built (single_rules h)]
  constructor
  · rintro ⟨hid, hname, haddress, hlatitude, hlongitude, hcategory⟩
    exact ⟨haddress, hlatitude, hlongitude,
      (decode_unspelled_iff h).2 ⟨hid, hname, hnone, hnone, hnone, hcategory⟩⟩
  · rintro ⟨haddress, hlatitude, hlongitude, hdecode⟩
    obtain ⟨hid, hname, -, -, -, hcategory⟩ := (decode_unspelled_iff h).1 hdecode
    exact ⟨hid, hname, haddress, hlatitude, hlongitude, hcategory⟩

/-- That an address or a coordinate stands under several names does not make a location unreadable, if each
value is of the right kind. -/
theorem exists_decode_iff (h : (members.map Prod.fst).Nodup)
    (haddress : OfKind Json.text? (under members ["address", "formatted_address"]))
    (hlatitude : OfKind Json.float? (under members ["latitude", "lat"]))
    (hlongitude : OfKind Json.float? (under members ["longitude", "lng", "lon"])) :
    (∃ l, decoder.ofJson (.object members) = .ok l) ↔
      ∃ l, decoder.ofJson (.object (unspelled members)) = .ok l := by
  constructor
  · rintro ⟨l, hl⟩
    exact ⟨_, ((decode_iff h).1 hl).rest⟩
  · rintro ⟨l, hl⟩
    obtain ⟨hid, hname, -, -, -, hcategory⟩ := (decode_unspelled_iff h).1 hl
    let first {α : Type} (read? : Json → Option α) (ns : List String) : Option α :=
      (under members ns).findSome? read?
    exact ⟨{ l with
        address := first Json.text? ["address", "formatted_address"]
        latitude := first Json.float? ["latitude", "lat"]
        longitude := first Json.float? ["longitude", "lng", "lon"] },
      (decode_iff_built (single_rules h)).2
        ⟨hid, hname, ⟨haddress, rfl⟩, ⟨hlatitude, rfl⟩, ⟨hlongitude, rfl⟩, hcategory⟩⟩

end

end Location

/-! ## All things -/

namespace Resource

/-- What is read of a thing depends neither on the names under which its fields stand, if none stands there
twice, nor on members that are no fields. Of an address or a coordinate that stands under several names, the
first that is not `null` counts, and they do not make the location unreadable if each is of the right kind. -/
theorem read_respelled :
    (∀ (r : Resource) (members members' : List (String × Json)), Single r.spellings members →
      Respelled r.spellings members members' → ∀ a : r.Thing,
        r.decoder.ofJson (.object members') = .ok a ↔ r.decoder.ofJson (.object members) = .ok a) ∧
      ∀ members : List (String × Json), (members.map Prod.fst).Nodup →
        (∀ l, location.decoder.ofJson (.object members) = .ok l ↔ Location.ReadFrom members l) ∧
        (OfKind Json.text? (under members ["address", "formatted_address"]) →
          OfKind Json.float? (under members ["latitude", "lat"]) →
          OfKind Json.float? (under members ["longitude", "lng", "lon"]) →
            ((∃ l, location.decoder.ofJson (.object members) = .ok l) ↔
              ∃ l, location.decoder.ofJson (.object (Location.unspelled members)) = .ok l)) := by
  refine ⟨fun r members members' hsingle h a => ?_, fun members h =>
    ⟨fun l => Location.decode_iff h, Location.exists_decode_iff h⟩⟩
  cases r with
  | user => exact Shape.decode_respelled Profile.checks (by decide) hsingle h _
  | group => exact Shape.decode_respelled Group.checks (by decide) hsingle h _
  | plan => exact Shape.decode_respelled Plan.checks (by decide) hsingle h _
  | activity => exact Shape.decode_respelled Activity.checks (by decide) hsingle h _
  | friendRequest => exact Shape.decode_respelled FriendRequest.checks (by decide) hsingle h _
  | conversation => exact Shape.decode_respelled Conversation.checks (by decide) hsingle h _
  | message => exact Shape.decode_respelled Message.checks (by decide) hsingle h _
  | location =>
    have haliased := Shape.decode_respelled Location.aliased_checks (by decide) hsingle h "LocationWire" (a := a)
    exact (Location.decode_eq_aliased (hsingle.respelled (by decide) h)).trans
      (haliased.trans (Location.decode_eq_aliased hsingle).symm)

/-- A message that is written with other names, in another order and with a member that is no field; and a
place with two addresses, of which one is `null`, and with two latitudes. -/
theorem read_other_spellings :
    message.decoder.ofJson (.object [("mood", .null), ("body", .string "Ciao"), ("sender_id", .number (.int 4)),
      ("id", .string "9")]) = .ok ⟨⟨"9"⟩, none, ⟨"4"⟩, "Ciao", none, none⟩ ∧
    Location.ReadFrom
      [("id", .number (.int 7)), ("name", .string "Forum"), ("lat", .number (.int 40)), ("address", .null),
        ("formatted_address", .string "Roma"), ("latitude", .number (.int 41)), ("lon", .number (.int 12))]
      ⟨⟨"7"⟩, "Forum", some "Roma", some (Float.ofInt 41), some (Float.ofInt 12), none⟩ ∧
    ∃ l, location.decoder.ofJson (.object
      [("id", .number (.int 7)), ("name", .string "Forum"), ("lat", .number (.int 40)), ("address", .null),
        ("formatted_address", .string "Roma"), ("latitude", .number (.int 41)), ("lon", .number (.int 12))]) =
      .ok l := by
  have hplace := read_respelled.2
    [("id", .number (.int 7)), ("name", .string "Forum"), ("lat", .number (.int 40)), ("address", .null),
      ("formatted_address", .string "Roma"), ("latitude", .number (.int 41)), ("lon", .number (.int 12))]
    (by decide)
  refine ⟨?_, (hplace.1 _).1 rfl, (hplace.2 ?_ ?_ ?_).2 ⟨_, rfl⟩⟩
  · refine (read_respelled.1 message
      [("id", .string "9"), ("sender", .number (.int 4)), ("text", .string "Ciao")] _ (by decide)
      ⟨[("id", .string "9"), ("sender_id", .number (.int 4)), ("body", .string "Ciao")], [("mood", .null)],
        .cons ⟨.inl rfl, rfl⟩ (.cons ⟨.inr ?_, rfl⟩ (.cons ⟨.inr ?_, rfl⟩ .nil)), by decide,
        List.reverse_perm _⟩ _).2 rfl
    · exact ⟨["sender", "sender_id"], by decide, by decide, by decide⟩
    · exact ⟨["text", "content", "body"], by decide, by decide, by decide⟩
  · exact List.forall_mem_cons.2 ⟨.inl rfl, List.forall_mem_singleton.2 (.inr rfl)⟩
  · exact List.forall_mem_cons.2 ⟨.inr rfl, List.forall_mem_singleton.2 (.inr rfl)⟩
  · exact List.forall_mem_singleton.2 (.inr rfl)

end Resource

end TripClient
