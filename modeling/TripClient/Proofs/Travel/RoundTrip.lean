import TripClient.Answer.Listing
import TripClient.Proofs.Json.Record
import TripClient.Proofs.Text.Trim
import TripClient.Travel.Chat
import TripClient.Travel.Friend
import TripClient.Travel.Group
import TripClient.Travel.Location

/-!
# Things that are read back

What is read of a user, a group, a plan or any other of the things with ids, from an object with any
spellings of its fields or from an array, can be written and read again without a change, on its own or
wrapped as servers wrap it (`read_back`). An id that is read is trimmed and not empty (`Id.inverts`), and
what is written of a thing holds no member under which it could itself be wrapped, so that it is not
taken apart (`Answer.item_of_written`).
-/

namespace TripClient

open Json

/-! ## Ids -/

namespace Id

variable {resource : Resource}

/-- A digit is no blank. -/
theorem isBlank_of_isDigit {c : Char} (h : c.isDigit = true) : Text.isBlank c = false := by
  simp only [Char.isDigit, Bool.and_eq_true, decide_eq_true_eq, ge_iff_le, UInt32.le_iff_toNat_le] at h
  obtain ⟨hlow, hhigh⟩ := h
  have hlow' : 48 ≤ c.toNat := hlow
  have hhigh' : c.toNat ≤ 57 := hhigh
  simp only [Text.isBlank, Bool.or_eq_false_iff, Bool.and_eq_false_iff, decide_eq_false_iff_not,
    beq_eq_false_iff_ne]
  omega

/-- The text of a whole number has no blanks. -/
theorem trim_intText (n : Int) : Text.trim (intText n) = intText n := by
  refine Text.trim_eq_self fun c hc => ?_
  rw [intText, String.toList_append, List.mem_append] at hc
  rcases hc with hc | hc
  · unfold Decimal.signText at hc
    split at hc
    · obtain rfl : c = '-' := by simpa using hc
      decide
    · simp at hc
  · rw [Decimal.digitText, String.toList_ofList] at hc
    exact isBlank_of_isDigit (Nat.isDigit_of_mem_toDigits (by decide) (by decide) hc)

/-- The text that a value gives for an id is trimmed. -/
theorem trim_of_rawText? {v : Json} {s : String} (h : rawText? v = some s) : Text.trim s = s := by
  unfold rawText? at h
  split at h
  · cases h
    exact Text.trim_trim _
  · cases h
    exact trim_intText _
  · cases h

/-- A value is the id of the text it gives, unless this is empty. -/
theorem ofJson_eq_ok_iff {v : Json} {id : Id resource} :
    ofJson v = .ok id ↔ rawText? v = some id.text ∧ id.text ≠ "" := by
  unfold ofJson
  cases rawText? v with
  | none => exact ⟨nofun, nofun⟩
  | some s =>
    by_cases hs : s = ""
    · subst hs
      exact ⟨nofun, fun h => absurd (Option.some_inj.1 h.1).symm h.2⟩
    · simp only [String.isEmpty_iff, hs, if_false, Except.ok.injEq, Option.some_inj]
      exact ⟨fun h => h ▸ ⟨rfl, hs⟩, fun h => congrArg Id.mk h.1⟩

/-- An id that is read is trimmed and not empty, and so it is read back. -/
theorem inverts : (@decoder resource).Inverts toJson := by
  intro n id h
  obtain ⟨v, -, hv⟩ := bind_eq_ok.1 h
  obtain ⟨hraw, hempty⟩ := ofJson_eq_ok_iff.1 (mapError_eq_ok.1 hv)
  refine bind_eq_ok.2 ⟨.string id.text, rfl, mapError_eq_ok.2 (ofJson_eq_ok_iff.2 ⟨?_, hempty⟩)⟩
  exact congrArg some (trim_of_rawText? hraw)

/-- Fields that are ids. -/
theorem required_inverts {name : String} {spellings : List String} :
    (Field.required name (@decoder resource) spellings).Inverts toJson :=
  Field.required_inverts inverts

theorem optional_inverts {name : String} {spellings : List String} :
    (Field.optional name (@decoder resource) spellings).Inverts toJson? :=
  Field.optional_inverts (Decoder.option_inverts inverts (fun _ => nofun) rfl fun _ => rfl) rfl

end Id

/-! ## Fields -/

section
variable {name : String} {spellings : List String}

/-- A field that is a text, or absent. -/
theorem optional_text : (Field.optional name .text spellings).Inverts .ofText? :=
  Field.optional_inverts Decoder.ofText?_inverts rfl

/-- A field that is a text. -/
theorem required_text : (Field.required name .text spellings).Inverts .string :=
  Field.required_inverts Decoder.text_inverts

/-- A field that is a number, or absent. -/
theorem optional_float : (Field.optional name .float spellings).Inverts .ofFloat? :=
  Field.optional_inverts
    (Decoder.option_inverts Decoder.float_inverts (fun _ => nofun) rfl fun _ => rfl) rfl

/-- A field that is a truth value, and false when it is absent. -/
theorem usually_false : (Field.withDefault name .bool false spellings).Inverts .bool :=
  Field.withDefault_inverts Decoder.bool_inverts rfl

/-- A field that is a record, or absent. -/
theorem optional_record {α : Type} {d : Decoder α} {write : α → Json} {write? : Option α → Json}
    {ns : List String} (h : Shape.Mirrored d write ns) (hnone : write? none = .null)
    (hsome : ∀ a, write? (some a) = write a) : (Field.optional name d spellings).Inverts write? := by
  refine Field.optional_inverts (Decoder.option_inverts h.inverts (fun a hnull => ?_) hnone hsome) hnone
  obtain ⟨members, hobject, -⟩ := h.object a
  rw [hobject] at hnull
  cases hnull

/-- A field that is a list of records, and empty when it is absent. -/
theorem usually_empty {α : Type} {d : Decoder α} {write : α → Json} {ns : List String}
    (h : Shape.Mirrored d write ns) :
    (Field.withDefault name (.list d) [] spellings).Inverts fun as => .array (as.map write) :=
  Field.withDefault_inverts (Decoder.list_inverts h.inverts) rfl

end

/-! ## Records -/

theorem Profile.mirrored : Shape.Mirrored Profile.decoder Profile.toJson
    ["id", "username", "display_name", "email", "avatar_url", "bio"] := by
  apply Shape.mirrored
  case h => exact ⟨fun _ => rfl, fun _ => rfl, by decide⟩
  case hfields => decide
  intro given p h
  simp only [Profile.shape, Shape.build_seq, Shape.build_map] at h
  obtain ⟨_, ⟨_, ⟨_, ⟨_, ⟨_, ⟨id, hid, rfl⟩, username, husername, rfl⟩, displayName, hdisplayName, rfl⟩,
    email, hemail, rfl⟩, avatarUrl, havatarUrl, rfl⟩, bio, hbio, rfl⟩ := h
  refine .seq (.seq (.seq (.seq (.seq (.map _ ?_) ?_) ?_) ?_) ?_) ?_
  · exact .again Id.required_inverts hid rfl
  · exact .again required_text husername rfl
  · exact .again optional_text hdisplayName rfl
  · exact .again optional_text hemail rfl
  · exact .again optional_text havatarUrl rfl
  · exact .again optional_text hbio rfl

theorem Group.mirrored : Shape.Mirrored Group.decoder Group.toJson
    ["id", "name", "description", "cover_url", "member_count", "is_member", "owner", "created_at"] := by
  apply Shape.mirrored
  case h => exact ⟨fun _ => rfl, fun _ => rfl, by decide⟩
  case hfields => decide
  intro given g h
  simp only [Group.shape, Shape.build_seq, Shape.build_map] at h
  obtain ⟨_, ⟨_, ⟨_, ⟨_, ⟨_, ⟨_, ⟨_, ⟨id, hid, rfl⟩, name, hname, rfl⟩, description, hdescription, rfl⟩,
    coverUrl, hcoverUrl, rfl⟩, memberCount, hmemberCount, rfl⟩, isMember, hisMember, rfl⟩,
    owner, howner, rfl⟩, createdAt, hcreatedAt, rfl⟩ := h
  have hcount : (Field.optional "member_count" .count ["members_count"]).Inverts
      fun n? => n?.elim .null .ofNat :=
    Field.optional_inverts (Decoder.option_inverts (Decoder.natUpTo_inverts _ _) (fun _ => nofun) rfl
      fun _ => rfl) rfl
  have howner' : (Field.optional "owner" Profile.decoder).Inverts
      fun p? => p?.elim .null Profile.toJson :=
    optional_record Profile.mirrored rfl fun _ => rfl
  refine .seq (.seq (.seq (.seq (.seq (.seq (.seq (.map _ ?_) ?_) ?_) ?_) ?_) ?_) ?_) ?_
  · exact .again Id.required_inverts hid rfl
  · exact .again required_text hname rfl
  · exact .again optional_text hdescription rfl
  · exact .again optional_text hcoverUrl rfl
  · exact .again hcount hmemberCount (by cases memberCount <;> rfl)
  · exact .again usually_false hisMember rfl
  · exact .again howner' howner (by cases owner <;> rfl)
  · exact .again optional_text hcreatedAt rfl

theorem Activity.mirrored : Shape.Mirrored Activity.decoder Activity.toJson
    ["id", "title", "description", "start_time", "end_time", "location", "latitude", "longitude"] := by
  apply Shape.mirrored
  case h => exact ⟨fun _ => rfl, fun _ => rfl, by decide⟩
  case hfields => decide
  intro given a h
  simp only [Activity.shape, Shape.build_seq, Shape.build_map] at h
  obtain ⟨_, ⟨_, ⟨_, ⟨_, ⟨_, ⟨_, ⟨_, ⟨id, hid, rfl⟩, title, htitle, rfl⟩, description, hdescription, rfl⟩,
    startTime, hstartTime, rfl⟩, endTime, hendTime, rfl⟩, location, hlocation, rfl⟩,
    latitude, hlatitude, rfl⟩, longitude, hlongitude, rfl⟩ := h
  refine .seq (.seq (.seq (.seq (.seq (.seq (.seq (.map _ ?_) ?_) ?_) ?_) ?_) ?_) ?_) ?_
  · exact .again Id.required_inverts hid rfl
  · exact .again required_text htitle rfl
  · exact .again optional_text hdescription rfl
  · exact .again optional_text hstartTime rfl
  · exact .again optional_text hendTime rfl
  · exact .again optional_text hlocation rfl
  · exact .again optional_float hlatitude rfl
  · exact .again optional_float hlongitude rfl

theorem Plan.mirrored : Shape.Mirrored Plan.decoder Plan.toJson
    ["id", "title", "group", "description", "destination", "start_date", "end_date", "activities"] := by
  apply Shape.mirrored
  case h => exact ⟨fun _ => rfl, fun _ => rfl, by decide⟩
  case hfields => decide
  intro given p h
  simp only [Plan.shape, Shape.build_seq, Shape.build_map] at h
  obtain ⟨_, ⟨_, ⟨_, ⟨_, ⟨_, ⟨_, ⟨_, ⟨id, hid, rfl⟩, title, htitle, rfl⟩, group, hgroup, rfl⟩,
    description, hdescription, rfl⟩, destination, hdestination, rfl⟩, startDate, hstartDate, rfl⟩,
    endDate, hendDate, rfl⟩, activities, hactivities, rfl⟩ := h
  refine .seq (.seq (.seq (.seq (.seq (.seq (.seq (.map _ ?_) ?_) ?_) ?_) ?_) ?_) ?_) ?_
  · exact .again Id.required_inverts hid rfl
  · exact .again required_text htitle rfl
  · exact .again Id.optional_inverts hgroup rfl
  · exact .again optional_text hdescription rfl
  · exact .again optional_text hdestination rfl
  · exact .again optional_text hstartDate rfl
  · exact .again optional_text hendDate rfl
  · exact .again (usually_empty Activity.mirrored) hactivities rfl

/-- A status is read back by its name. -/
theorem FriendRequestStatus.inverts :
    FriendRequestStatus.decoder.Inverts FriendRequestStatus.toJson := by
  intro n s _
  cases s <;> rfl

theorem FriendRequest.mirrored : Shape.Mirrored FriendRequest.decoder FriendRequest.toJson
    ["id", "from_user", "to_user", "status", "created_at"] := by
  apply Shape.mirrored
  case h => exact ⟨fun _ => rfl, fun _ => rfl, by decide⟩
  case hfields => decide
  intro given r h
  simp only [FriendRequest.shape, Shape.build_seq, Shape.build_map] at h
  obtain ⟨_, ⟨_, ⟨_, ⟨_, ⟨id, hid, rfl⟩, sender, hsender, rfl⟩, receiver, hreceiver, rfl⟩,
    status, hstatus, rfl⟩, createdAt, hcreatedAt, rfl⟩ := h
  have hreceiver' : (Field.optional "to_user" Profile.decoder ["receiver", "recipient"]).Inverts
      fun p? => p?.elim .null Profile.toJson :=
    optional_record Profile.mirrored rfl fun _ => rfl
  refine .seq (.seq (.seq (.seq (.map _ ?_) ?_) ?_) ?_) ?_
  · exact .again Id.required_inverts hid rfl
  · exact .again (Field.required_inverts Profile.mirrored.inverts) hsender rfl
  · exact .again hreceiver' hreceiver (by cases receiver <;> rfl)
  · exact .again (Field.withDefault_inverts FriendRequestStatus.inverts rfl) hstatus rfl
  · exact .again optional_text hcreatedAt rfl

theorem Message.mirrored : Shape.Mirrored Message.decoder Message.toJson
    ["id", "conversation", "sender", "text", "attachment_url", "created_at"] := by
  apply Shape.mirrored
  case h => exact ⟨fun _ => rfl, fun _ => rfl, by decide⟩
  case hfields => decide
  intro given m h
  simp only [Message.shape, Shape.build_seq, Shape.build_map] at h
  obtain ⟨_, ⟨_, ⟨_, ⟨_, ⟨_, ⟨id, hid, rfl⟩, conversation, hconversation, rfl⟩, sender, hsender, rfl⟩,
    text, htext, rfl⟩, attachmentUrl, hattachmentUrl, rfl⟩, createdAt, hcreatedAt, rfl⟩ := h
  refine .seq (.seq (.seq (.seq (.seq (.map _ ?_) ?_) ?_) ?_) ?_) ?_
  · exact .again Id.required_inverts hid rfl
  · exact .again Id.optional_inverts hconversation rfl
  · exact .again Id.required_inverts hsender rfl
  · exact .again (Field.withDefault_inverts Decoder.text_inverts rfl) htext rfl
  · exact .again optional_text hattachmentUrl rfl
  · exact .again optional_text hcreatedAt rfl

theorem Conversation.mirrored : Shape.Mirrored Conversation.decoder Conversation.toJson
    ["id", "title", "is_group", "participants", "last_message", "unread_count"] := by
  apply Shape.mirrored
  case h => exact ⟨fun _ => rfl, fun _ => rfl, by decide⟩
  case hfields => decide
  intro given c h
  simp only [Conversation.shape, Shape.build_seq, Shape.build_map] at h
  obtain ⟨_, ⟨_, ⟨_, ⟨_, ⟨_, ⟨id, hid, rfl⟩, title, htitle, rfl⟩, isGroup, hisGroup, rfl⟩,
    participants, hparticipants, rfl⟩, lastMessage, hlastMessage, rfl⟩, unreadCount, hunreadCount, rfl⟩ := h
  have hmessage : (Field.optional "last_message" Message.decoder).Inverts
      fun m? => m?.elim .null Message.toJson :=
    optional_record Message.mirrored rfl fun _ => rfl
  refine .seq (.seq (.seq (.seq (.seq (.map _ ?_) ?_) ?_) ?_) ?_) ?_
  · exact .again Id.required_inverts hid rfl
  · exact .again optional_text htitle rfl
  · exact .again usually_false hisGroup rfl
  · exact .again (usually_empty Profile.mirrored) hparticipants rfl
  · exact .again hmessage hlastMessage (by cases lastMessage <;> rfl)
  · exact .again (Field.withDefault_inverts (Decoder.natUpTo_inverts _ _) rfl) hunreadCount rfl

/-- A location is written under the first spelling of its address and its coordinates, so that the
others are absent when it is read back. -/
theorem Location.mirrored : Shape.Mirrored Location.decoder Location.toJson
    ["id", "name", "address", "latitude", "longitude", "category"] := by
  apply Shape.mirrored
  case h => exact ⟨fun _ => rfl, fun _ => rfl, by decide⟩
  case hfields => decide
  intro given l h
  simp only [Location.shape, Shape.build_seq, Shape.build_map] at h
  obtain ⟨_, ⟨_, ⟨_, ⟨_, ⟨_, ⟨_, ⟨_, ⟨_, ⟨_, ⟨id, hid, rfl⟩, name, hname, rfl⟩, address, -, rfl⟩,
    formatted, -, rfl⟩, latitude, -, rfl⟩, lat, -, rfl⟩, longitude, -, rfl⟩, lng, -, rfl⟩,
    lon, -, rfl⟩, category, hcategory, rfl⟩ := h
  have htext (s? : Option String) : (Decoder.option .text).ofJson (.ofText? s?) = .ok s? := by
    cases s? <;> rfl
  have hfloat (x? : Option Float) : (Decoder.option .float).ofJson (.ofFloat? x?) = .ok x? := by
    cases x? <;> rfl
  refine Shape.Reads.of_eq (.seq (.seq (.seq (.seq (.seq (.seq (.seq (.seq (.seq (.map _
    (.again Id.required_inverts hid rfl))
    (.again required_text hname rfl))
    (.field rfl (htext (address.or formatted)))) (.absent rfl rfl))
    (.field rfl (hfloat (latitude.or lat)))) (.absent rfl rfl))
    (.field rfl (hfloat ((longitude.or lng).or lon)))) (.absent rfl rfl)) (.absent rfl rfl))
    (.again optional_text hcategory rfl)) ?_
  simp only [Option.or_none]

/-! ## Wrapped things -/

namespace Answer

variable {α : Type} {d : Decoder α} {write : α → Json} {ns : List String} {a : α} {key : String}
  {members : List (String × Json)}

/-- The object under a name, if one stands there. -/
def wrapped? (members : List (String × Json)) (name : String) : Option Json :=
  match Sorted.get? name members with
  | some (.object inner) => some (.object inner)
  | _ => none

theorem unwrap_object (key : String) (members : List (String × Json)) :
    unwrap (some key) (.object members) =
      ((wrapped? members key).or (wrapped? members "data")).getD (.object members) := by
  have hfind : unwrap (some key) (.object members) =
      ([key, "data"].findSome? (wrapped? members)).getD (.object members) := rfl
  rw [hfind, List.findSome?_cons, List.findSome?_cons, List.findSome?_nil]
  cases wrapped? members key with
  | some v => rfl
  | none => cases wrapped? members "data" <;> rfl

theorem wrapped?_eq_none (h : ∀ inner, Sorted.get? key members ≠ some (.object inner)) :
    wrapped? members key = none := by
  unfold wrapped?
  split
  · next inner hinner => exact absurd hinner (h inner)
  · rfl

/-- An answer is read as what is wrapped in it. -/
theorem item_of_unwrap {v e : Json} (hv : unwrap (some key) v = e) (he : d.ofJson e = .ok a) :
    item d (some key) v = .ok a := by
  rw [item, hv, mapError_eq_ok]
  exact he

/-- A value is read back: alone, as an answer, and as what an answer has under the key or as `data`. -/
structure ReadBack (d : Decoder α) (key : String) (e : Json) (a : α) : Prop where
  alone : d.ofJson e = .ok a
  bare : item d (some key) e = .ok a
  underKey : ∀ members, Sorted.get? key members = some e →
    item d (some key) (.object members) = .ok a
  asData : ∀ members, Sorted.get? "data" members = some e →
    (∀ inner, Sorted.get? key members ≠ some (.object inner)) →
      item d (some key) (.object members) = .ok a

/-- What is written under names of which none is the key or `data` is read back in all these ways. -/
theorem item_of_written (h : Shape.Mirrored d write ns) (hkey : key ∉ ns) (hdata : "data" ∉ ns)
    (ha : d.ofJson (write a) = .ok a) : ReadBack d key (write a) a := by
  obtain ⟨own, hown, habsent⟩ := h.object a
  have hnone (name : String) (hname : name ∉ ns) : wrapped? own name = none :=
    wrapped?_eq_none fun inner => by rw [habsent name hname]; nofun
  refine ⟨ha, item_of_unwrap ?_ ha, fun members hmembers => item_of_unwrap ?_ ha,
    fun members hmembers hother => item_of_unwrap ?_ ha⟩
  · rw [hown, unwrap_object, hnone key hkey, hnone "data" hdata]
    rfl
  · have hwrapped : wrapped? members key = some (write a) := by
      rw [wrapped?, hmembers, hown]
    rw [unwrap_object, hwrapped]
    rfl
  · have hwrapped : wrapped? members "data" = some (write a) := by
      rw [wrapped?, hmembers, hown]
    rw [unwrap_object, wrapped?_eq_none hother, hwrapped]
    rfl

end Answer

/-! ## All things with ids -/

namespace Resource

/-- What is known of a thing of some kind. -/
abbrev Thing : Resource → Type
  | user => Profile
  | group => Group
  | plan => Plan
  | activity => Activity
  | friendRequest => FriendRequest
  | conversation => Conversation
  | message => Message
  | location => Location

/-- How a thing is read. -/
def decoder : (r : Resource) → Decoder r.Thing
  | user => Profile.decoder
  | group => Group.decoder
  | plan => Plan.decoder
  | activity => Activity.decoder
  | friendRequest => FriendRequest.decoder
  | conversation => Conversation.decoder
  | message => Message.decoder
  | location => Location.decoder

/-- A thing as JSON. -/
def toJson : (r : Resource) → r.Thing → Json
  | user => Profile.toJson
  | group => Group.toJson
  | plan => Plan.toJson
  | activity => Activity.toJson
  | friendRequest => FriendRequest.toJson
  | conversation => Conversation.toJson
  | message => Message.toJson
  | location => Location.toJson

/-- The name under which answers wrap a thing. -/
def key : Resource → String
  | user => "user"
  | group => "group"
  | plan => "plan"
  | activity => "activity"
  | friendRequest => "request"
  | conversation => "conversation"
  | message => "message"
  | location => "location"

/-- Whatever is read of a thing is read back from what is written for it, in all the ways in which
answers wrap it. -/
theorem read_back (r : Resource) (j : Json) (a : r.Thing) (h : r.decoder.ofJson j = .ok a) :
    Answer.ReadBack r.decoder r.key (r.toJson a) a := by
  have of_mirrored {ns : List String} (hr : Shape.Mirrored r.decoder r.toJson ns)
      (hkey : r.key ∉ ns) (hdata : "data" ∉ ns) : Answer.ReadBack r.decoder r.key (r.toJson a) a :=
    Answer.item_of_written hr hkey hdata (hr.inverts _ a h)
  cases r with
  | user => exact of_mirrored Profile.mirrored (by decide) (by decide)
  | group => exact of_mirrored Group.mirrored (by decide) (by decide)
  | plan => exact of_mirrored Plan.mirrored (by decide) (by decide)
  | activity => exact of_mirrored Activity.mirrored (by decide) (by decide)
  | friendRequest => exact of_mirrored FriendRequest.mirrored (by decide) (by decide)
  | conversation => exact of_mirrored Conversation.mirrored (by decide) (by decide)
  | message => exact of_mirrored Message.mirrored (by decide) (by decide)
  | location => exact of_mirrored Location.mirrored (by decide) (by decide)

/-- A conversation as an array, with a member under another spelling of the name, and with a message
that has a number for an id and a member that no message has. -/
theorem conversation_read_back :
    let j : Json := .array [.number (.int (-7)), .null, .bool true,
      .array [.object [("full_name", .string "Lan"), ("id", .string " u1 "), ("username", .string "lan")]],
      .object [("color", .bool false), ("content", .string "Xin"), ("id", .ofNat 1), ("sender_id", .ofNat 2)]]
    let a : Conversation := ⟨⟨"-7"⟩, none, true, [⟨⟨"u1"⟩, "lan", some "Lan", none, none, none⟩],
      some ⟨⟨"1"⟩, none, ⟨"2"⟩, "Xin", none, none⟩, 0⟩
    conversation.decoder.ofJson j = .ok a ∧
      Answer.ReadBack conversation.decoder conversation.key (conversation.toJson a) a := by
  intro j a
  have h : conversation.decoder.ofJson j = .ok a := by rfl
  exact ⟨h, read_back .conversation j a h⟩

end Resource

end TripClient
