import TripClient.Proofs.Json.Written
import TripClient.Proofs.Settings

/-!
# What is kept as text

Failures and settings are handed over as the text of their JSON. A failure that was made in any of the
ways there are, with whatever texts (`Failure.Built`), is read back from its text, and so are settings
that pass their check (`texts_read_back`).
-/

namespace TripClient

open Json
open Text (bytesOf)

/-! ## Failures -/

namespace Failure

/-- How failures are made: of a kind or of a status, and then with messages for developers and with
named values. -/
inductive Built : Failure → Prop
  | ofKind (kind : Kind) (message : String) : Built (.ofKind kind message)
  | ofStatus {status : Nat} (body : ByteArray) : status ≤ 65535 → Built (.ofStatus status body)
  | withInternal {f : Failure} (message : String) : Built f → Built (f.withInternal message)
  | withContext {f : Failure} (name value : String) : Built f → Built (f.withContext name value)

/-- What its text needs to say all of a failure. -/
structure Sound (f : Failure) : Prop where
  status : ∀ status ∈ f.status, status ≤ 65535
  context : Sorted.Rising f.context

theorem Built.sound {f : Failure} (h : Built f) : Sound f := by
  induction h with
  | ofKind => exact ⟨nofun, .nil⟩
  | ofStatus body hstatus =>
    unfold Failure.ofStatus
    split
    · exact ⟨fun _ h => Option.some_inj.1 h ▸ hstatus, .nil⟩
    · exact ⟨fun _ h => Option.some_inj.1 h ▸ hstatus, .nil⟩
  | withInternal _ _ ih => exact ⟨ih.status, ih.context⟩
  | withContext name value _ ih => exact ⟨ih.status, Sorted.rising_insert ih.context name value⟩

/-- A kind is read by its name. -/
theorem Kind.decoder_of_writes {n : Node} {kind : Kind} (h : n.Writes (.string kind.name)) :
    Kind.decoder n = .ok kind := by
  cases h
  cases kind <;> rfl

/-- The status of a failure as JSON. -/
theorem status_of_writes {status? : Option Nat} {n : Node}
    (hn : n.Writes (match status? with | some status => .ofNat status | none => .null))
    (h : ∀ status ∈ status?, status ≤ 65535) : Decoder.option (.natUpTo 65535 "u16") n = .ok status? := by
  cases status? with
  | none => exact Decoder.option_of_null hn
  | some status => exact Decoder.option_of_writes hn nofun (Decoder.natUpTo_of_writes hn (h _ rfl) "u16")

/-- The text of a failure says all of it. -/
theorem kept_toJson {f : Failure} (h : Sound f) : Kept maxDepth f.toJson := by
  have hinternal : Kept 126 (.ofText? f.internal) := by
    cases f.internal with
    | none => exact .null
    | some message => exact .string message
  refine .object fun m hm => ?_
  simp only [List.mem_cons, List.not_mem_nil, or_false] at hm
  rcases hm with rfl | rfl | rfl | rfl | rfl | rfl
  · exact .string _
  · exact .string _
  · split
    · next status hstatus => exact .whole (fits_ofNat (Nat.le_trans (h.status status hstatus) (by decide)))
    · exact .null
  · exact .bool _
  · exact hinternal
  · refine .object fun m hm => ?_
    obtain ⟨named, -, rfl⟩ := List.mem_map.1 hm
    exact .string named.2

/-- A failure is read from whatever document writes it. -/
theorem decoder_of_writes {f : Failure} (h : Sound f) {n : Node} (hn : n.Writes f.toJson) :
    Failure.decoder n = .ok f := by
  refine Shape.decode_of_writes
    ["kind", "message", "status", "server_message", "internal_message", "context"] rfl (by decide)
    (by decide) (fun look hlook => ?_) hn "AppError"
  obtain ⟨kind, hkind, hkindWrites⟩ := hlook "kind" _ rfl
  obtain ⟨message, hmessage, hmessageWrites⟩ := hlook "message" _ rfl
  obtain ⟨status, hstatus, hstatusWrites⟩ := hlook "status" _ rfl
  obtain ⟨fromServer, hfromServer, hfromServerWrites⟩ := hlook "server_message" _ rfl
  obtain ⟨internal, hinternal, hinternalWrites⟩ := hlook "internal_message" _ rfl
  obtain ⟨context, hcontext, hcontextWrites⟩ := hlook "context" _ rfl
  refine Shape.Reads.of_eq (.seq (.seq (.seq (.seq (.seq (.map _
    (.field hkind (Kind.decoder_of_writes hkindWrites)))
    (.field hmessage (Decoder.text_of_writes hmessageWrites)))
    (.field hstatus (status_of_writes hstatusWrites h.status)))
    (.field hfromServer (Decoder.bool_of_writes hfromServerWrites)))
    (.field hinternal (Decoder.ofText?_of_writes hinternalWrites)))
    (.field hcontext (Decoder.pairs_of_writes (fun _ _ hn => Decoder.text_of_writes hn) hcontextWrites))) ?_
  rw [Sorted.ofList_eq_self h.context]

end Failure

/-! ## Settings -/

namespace Settings

open Http.Request (maxTimeout)

/-- The numbers in settings are of 64 bits. -/
structure InWords (s : Settings) : Prop where
  request : s.requestTimeout ≤ maxWord
  upload : s.uploadTimeout ≤ maxWord
  capacity : s.cacheCapacity ≤ maxWord
  response : s.maxResponseBytes ≤ maxWord

/-- Whatever the check of settings bounds is of 64 bits. -/
theorem Checked.inWords {s : Settings} (h : Checked s) (hcapacity : s.cacheCapacity ≤ maxWord) :
    InWords s where
  request := Nat.le_trans h.request.2 (by decide)
  upload := Nat.le_trans h.upload.2 (by decide)
  capacity := hcapacity
  response := Nat.le_trans h.response.2 (by decide)

/-- The text of settings says all of them. -/
theorem kept_toJson {s : Settings} (h : InWords s) : Kept maxDepth s.toJson := by
  refine .object fun m hm => ?_
  simp only [List.mem_cons, List.not_mem_nil, or_false] at hm
  rcases hm with rfl | rfl | rfl | rfl | rfl | rfl
  · exact .string _
  · exact .whole (fits_ofNat h.request)
  · exact .whole (fits_ofNat h.upload)
  · exact .whole (fits_ofNat h.capacity)
  · exact .whole (fits_ofNat h.response)
  · exact .string _

/-- Settings are read from whatever document writes them. -/
theorem decoder_of_writes {s : Settings} (h : InWords s) {n : Node} (hn : n.Writes s.toJson) :
    decoder n = .ok s := by
  refine Shape.decode_of_writes ["base_url", "request_timeout_ms", "upload_timeout_ms",
    "detail_cache_capacity", "max_response_bytes", "user_agent"] rfl (by decide) (by decide)
    (fun look hlook => ?_) hn "ClientConfig"
  obtain ⟨base, hbase, hbaseWrites⟩ := hlook "base_url" _ rfl
  obtain ⟨request, hrequest, hrequestWrites⟩ := hlook "request_timeout_ms" _ rfl
  obtain ⟨upload, hupload, huploadWrites⟩ := hlook "upload_timeout_ms" _ rfl
  obtain ⟨capacity, hcapacity, hcapacityWrites⟩ := hlook "detail_cache_capacity" _ rfl
  obtain ⟨response, hresponse, hresponseWrites⟩ := hlook "max_response_bytes" _ rfl
  obtain ⟨agent, hagent, hagentWrites⟩ := hlook "user_agent" _ rfl
  refine .seq (.seq (.seq (.seq (.seq (.map _ ?_) ?_) ?_) ?_) ?_) ?_
  · exact .field hbase (Decoder.text_of_writes hbaseWrites)
  · exact .field hrequest (Decoder.natUpTo_of_writes hrequestWrites h.request _)
  · exact .field hupload (Decoder.natUpTo_of_writes huploadWrites h.upload _)
  · exact .field hcapacity (Decoder.natUpTo_of_writes hcapacityWrites h.capacity _)
  · exact .field hresponse (Decoder.natUpTo_of_writes hresponseWrites h.response _)
  · exact .field hagent (Decoder.text_of_writes hagentWrites)

end Settings

/-! ## Texts -/

/-- What is read from every document that writes a value is read from its text. -/
theorem ofDocument_render {α : Type} {d : Decoder α} {v : Json} {a : α} (hv : Kept maxDepth v)
    (hd : ∀ n, n.Writes v → d n = .ok a) :
    d.ofDocument (.ofBytes (bytesOf v.render)) = .ok a := by
  obtain ⟨root, hdocument, hwrites⟩ := ofBytes_render hv
  rw [hdocument]
  exact bind_eq_ok.2 ⟨a, hd root hwrites, rfl⟩

/-- Every failure is read back from its text, however it was made; and settings that pass their check
are read back from theirs, and pass it again. -/
theorem texts_read_back :
    (∀ f, Failure.Built f → Failure.decoder.ofDocument (.ofBytes (bytesOf f.text)) = .ok f) ∧
      ∀ s : Settings, s.check = .ok () → s.cacheCapacity ≤ Settings.maxWord →
        Settings.ofText s.toJson.render = .ok s := by
  constructor
  · intro f hf
    exact ofDocument_render (Failure.kept_toJson hf.sound) fun _ => Failure.decoder_of_writes hf.sound
  · intro s hs hcapacity
    have hwords := (Settings.check_eq_ok.1 hs).inWords hcapacity
    have hread := ofDocument_render (Settings.kept_toJson hwords)
      fun _ => Settings.decoder_of_writes hwords
    rw [Settings.ofText, hread]
    exact bind_eq_ok.2 ⟨(), hs, rfl⟩

/-- A failure with quotes, slashes, control characters and characters beyond ASCII in its texts. -/
def Failure.garbled : Failure :=
  ((Failure.ofStatus 422 ⟨#[]⟩).withInternal "\"\\/\n\x01😀").withContext "tr\u1ea1m" "\t"

/-- It is read back, and so are the settings for a server on the same machine. -/
theorem garbled_read_back :
    Failure.decoder.ofDocument (.ofBytes (bytesOf Failure.garbled.text)) = .ok .garbled ∧
      Settings.ofText Settings.loopback.toJson.render = .ok .loopback := by
  refine ⟨texts_read_back.1 _ ?_, texts_read_back.2 _ (by rfl) (by decide)⟩
  exact .withContext _ _ (.withInternal _ (.ofStatus _ (by decide)))

end TripClient
