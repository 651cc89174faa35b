import TripClient.Proofs.Json.Printed
import TripClient.Proofs.Json.Record

/-!
# Decoders on texts

A decoder that reads a value wherever it stands reads it out of every document that writes it
(`Node.Writes`). For single values this is shown decoder by decoder; a record is read if each of its
fields is, from whatever stands under its name (`Shape.decode_of_writes`).
-/

namespace TripClient.Json

/-! ## Single values -/

mutual

/-- What writes a value can be passed over. -/
theorem Node.Writes.skip : ∀ {n : Node} {v : Json}, n.Writes v → Decoder.skip n = .ok ()
  | _, _, .null _ | _, _, .bool _ _ | _, _, .number _ _ | _, _, .string _ _ => rfl
  | _, _, .array _ h => h.skip
  | _, _, .object _ _ h => h.skip

theorem Items.Writes.skip : ∀ {items : Items} {vs : List Json}, items.Writes vs →
    Decoder.skipItems items = .ok ()
  | _, _, .done _ => rfl
  | _, _, .item _ hn hrest => by
    rw [Decoder.skipItems, hn.skip]
    exact hrest.skip

theorem Members.Writes.skip : ∀ {members : Members} {ms : List (String × Json)}, members.Writes ms →
    Decoder.skipMembers members = .ok ()
  | _, _, .done _ => rfl
  | _, _, .member _ hn hrest => by
    rw [Decoder.skipMembers, hn.skip]
    exact hrest.skip

end

namespace Decoder

variable {n : Node}

theorem text_of_writes {s : String} (h : n.Writes (.string s)) : text n = .ok s := by
  cases h
  rfl

theorem bool_of_writes {b : Bool} (h : n.Writes (.bool b)) : bool n = .ok b := by
  cases h
  rfl

theorem natUpTo_of_writes {k max : Nat} (h : n.Writes (.ofNat k)) (hk : k ≤ max) (typeName : String) :
    natUpTo max typeName n = .ok k := by
  cases h
  have hrange : 0 ≤ (k : Int) ∧ (k : Int) ≤ (max : Int) := by omega
  exact if_pos hrange

theorem option_of_writes {α : Type} {d : Decoder α} {v : Json} {a : α} (h : n.Writes v)
    (hv : v ≠ .null) (hd : d n = .ok a) : option d n = .ok (some a) := by
  cases h with
  | null => exact absurd rfl hv
  | bool | number | string | array | object =>
    rw [option, hd]
    · rfl
    · nofun

theorem option_of_null {α : Type} {d : Decoder α} (h : n.Writes .null) : option d n = .ok none := by
  cases h
  rfl

/-- A text that may be absent. -/
theorem ofText?_of_writes {s? : Option String} (h : n.Writes (.ofText? s?)) :
    option text n = .ok s? := by
  cases s? with
  | none => exact option_of_null h
  | some s => exact option_of_writes h nofun (text_of_writes h)

/-- Named values. -/
theorem pairs_of_writes {α : Type} {d : Decoder α} {write : α → Json}
    (hd : ∀ n a, n.Writes (write a) → d n = .ok a) {ps : List (String × α)}
    (h : n.Writes (.object (ps.map fun (name, a) => (name, write a)))) : pairs d n = .ok ps := by
  cases h with
  | @object members _ _ _ h =>
    refine bind_eq_ok.2 ⟨(), rfl, ?_⟩
    induction ps generalizing members with
    | nil =>
      cases h
      rfl
    | cons p ps ih =>
      cases h with
      | member hname hn hrest =>
        rw [Decoder.members, hname]
        simp only [hd _ _ hn, ih hrest]
        rfl

end Decoder

/-! ## Records -/

/-- Members that write others stand under their names, and hold what writes their values. -/
theorem Members.Writes.lists : ∀ {members : Members} {ms : List (String × Json)}, members.Writes ms →
    ∃ es, members.Lists es ∧ es.map Prod.fst = ms.map Prod.fst ∧
      (∀ p ∈ es, Decoder.skip p.2 = .ok ()) ∧
      ∀ name v, (name, v) ∈ ms → ∃ n, (name, n) ∈ es ∧ n.Writes v
  | _, _, .done stop => ⟨[], .done stop, rfl, nofun, nofun⟩
  | _, _, .member hname hn hrest => by
    obtain ⟨es, hlists, hnames, hskip, hvalues⟩ := hrest.lists
    refine ⟨_, .member hname hlists, congrArg (_ :: ·) hnames,
      List.forall_mem_cons.2 ⟨hn.skip, hskip⟩, fun name v hmem => ?_⟩
    rcases List.mem_cons.1 hmem with heq | hmem
    · cases heq
      exact ⟨_, List.mem_cons_self, hn⟩
    · obtain ⟨n, hn, hwrites⟩ := hvalues name v hmem
      exact ⟨n, List.mem_cons_of_mem _ hn, hwrites⟩

namespace Shape

variable {α : Type}

/-- A record is read from every document that writes its members, if the shape builds it from whatever
writes their values. -/
theorem decode_of_writes (ns : List String) {s : Shape α} {members : List (String × Json)} {a : α}
    (hns : members.map Prod.fst = ns) (hnodup : ns.Nodup)
    (hfields : ∀ n ∈ ns, (s.rules.find? (·.accepts n)).map Rule.name = some n)
    (hreads : ∀ look : String → Option Node,
      (∀ name v, members.lookup name = some v → ∃ n, look name = some n ∧ n.Writes v) → s.Reads look a)
    {n : Node} (h : n.Writes (.object members)) (name : String) : s.decode name n = .ok a := by
  cases h with
  | object start head h =>
    obtain ⟨es, hlists, hnames, hskip, hvalues⟩ := h.lists
    rw [hns] at hnames
    have hassigned : assigned s.rules es = es := assigned_eq_self hfields fun n hn => hnames ▸ hn
    have hnodup' : (es.map Prod.fst).Nodup := hnames ▸ hnodup
    refine Reads.decode hlists hskip (by rwa [hassigned]) ?_ name start head
    rw [hassigned]
    refine hreads _ fun name v hlookup => ?_
    obtain ⟨before, after, hmembers, -⟩ := List.lookup_eq_some_iff.1 hlookup
    obtain ⟨n, hn, hwrites⟩ := hvalues name v (hmembers ▸ List.mem_append_cons_self)
    exact ⟨n, Sorted.lookup_of_mem hnodup' hn, hwrites⟩

end Shape

end TripClient.Json
