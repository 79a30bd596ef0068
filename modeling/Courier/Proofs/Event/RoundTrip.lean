import Courier.Proofs.Event.Reading
import Courier.Proofs.Json.RoundTrip

/-! An event is read back from its text. The text lists the known members and then the fields, each where
it can be read; the known members fill the slots, so that a field with the name of a filled one is the
second of its name. -/
namespace Courier.Event

def knownMembers (e : Event) : List (String × Value) :=
  ("type", Value.text e.kind) :: ("timestamp", Value.text e.timestamp) ::
    (e.sentAt.map fun t => ("sentAt", Value.text t)).toList

def memberValues (e : Event) : List (String × Value) := e.knownMembers ++ e.fields.entries

/-- The object that an event is written as; of a field and a known member of one name the field stands. -/
def toObject (e : Event) : Object := Object.ofMembers e.memberValues

def value (e : Event) : Value := Value.object e.toObject

section

variable {e : Event} (legible : (Json.object e.fields.members).Legible)

include legible

theorem spellsMember_memberValues : List.Forall₂ Json.SpellsMember e.members e.memberValues := by
  have fields := Json.spells_members e.fields.members e.fields.canonical.2 legible
  refine .cons ⟨rfl, Json.spells_text e.kind⟩ (.cons ⟨rfl, Json.spells_text e.timestamp⟩ ?_)
  cases e.sentAt with
  | none => exact fields
  | some time => exact .cons ⟨rfl, Json.spells_text time⟩ fields

theorem spells_value : Json.Spells e.toJson e.value :=
  .object (spellsMember_memberValues legible)

theorem readMembers_text (room : e.toJson.depth ≤ Json.depthLimit) :
    ∃ behind, Json.skipBlank e.text.toList = '\x7b' :: behind ∧
      Json.readMembers Json.strict (Json.depthLimit - 1) behind = .ok (e.memberValues, []) := by
  have text := Json.toList_object e.members []
  rw [List.append_nil] at text
  refine ⟨_, (congrArg Json.skipBlank text).trans (Json.skipBlank_cons rfl _), ?_⟩
  exact Json.readMembers_renderMembers (spellsMember_memberValues legible)
    (Nat.le_of_succ_le_succ room) []

end

/-! ### Slots that are filled -/

namespace Sofar

structure Filled (s : Sofar) : Prop where
  kind : s.kind.isSome = true
  timestamp : s.timestamp.isSome = true
  sentAt : s.sentAt.isSome = true

variable {s : Sofar} {m : String × Value} {ms : List (String × Value)}

theorem Filled.take (filled : s.Filled) (known : m.1 ∈ knownKeys) :
    s.take m = .error (.mismatch (.duplicateField m.1)) := by
  rcases mem_knownKeys.1 known with kind | timestamp | sentAt
  · rw [take_type kind, takeSlot_of_taken kind filled.kind, kind]
    rfl
  · rw [take_timestamp timestamp, takeSlot_of_taken timestamp filled.timestamp, timestamp]
    rfl
  · rw [take_sentAt sentAt, takeSlot_of_taken sentAt filled.sentAt, sentAt]
    rfl

theorem foldlM_take_of_others (others : ∀ m ∈ ms, m.1 ∉ knownKeys) : ms.foldlM take s =
    .ok { s with fields := ms.foldl (fun o m => o.insert m.1 m.2) s.fields } := by
  induction ms generalizing s with
  | nil => rfl
  | cons m ms ih =>
    obtain ⟨other, others⟩ := List.forall_mem_cons.1 others
    rw [List.foldlM_cons, take_other other]
    exact ih others

theorem Filled.foldlM_take (filled : s.Filled) (known : ∃ m ∈ ms, m.1 ∈ knownKeys) :
    ∃ m ∈ ms, m.1 ∈ knownKeys ∧ ms.foldlM Sofar.take s = .error (.mismatch (.duplicateField m.1)) := by
  induction ms generalizing s with
  | nil =>
    obtain ⟨m, hm, -⟩ := known
    cases hm
  | cons m ms ih =>
    rw [List.foldlM_cons]
    by_cases first : m.1 ∈ knownKeys
    · rw [filled.take first]
      exact ⟨m, List.mem_cons_self, first, rfl⟩
    · obtain ⟨m', hm', known⟩ := known
      have behind : m' ∈ ms := (List.mem_cons.1 hm').resolve_left fun same => first (same ▸ known)
      have still : Filled { s with fields := s.fields.insert m.1 m.2 } := ⟨filled.1, filled.2, filled.3⟩
      obtain ⟨d, hd, repeated, refused⟩ := ih still ⟨m', behind, known⟩
      rw [take_other first]
      exact ⟨d, List.mem_cons_of_mem m hd, repeated, refused⟩

end Sofar

theorem foldlM_knownMembers (e : Event) : e.knownMembers.foldlM Sofar.take Sofar.empty =
    .ok ⟨some e.kind, some e.timestamp, e.sentAt.map some, Object.empty⟩ := by
  obtain ⟨kind, timestamp, sentAt, fields⟩ := e
  cases sentAt <;> rfl

theorem foldlM_memberValues (e : Event) : e.memberValues.foldlM Sofar.take Sofar.empty =
    e.fields.entries.foldlM Sofar.take
      ⟨some e.kind, some e.timestamp, e.sentAt.map some, Object.empty⟩ := by
  rw [memberValues, List.foldlM_append, foldlM_knownMembers]
  rfl

/-! ### What is read -/

section

variable {now : String} {e : Event} (legible : (Json.object e.fields.members).Legible)
  (room : e.toJson.depth ≤ Json.depthLimit)

include legible room

theorem ofText_text (apart : ∀ key ∈ knownKeys, e.get? key = none) : ofText now e.text = .ok e := by
  obtain ⟨behind, opened, listed⟩ := readMembers_text legible room
  have others : ∀ m ∈ e.fields.entries, m.1 ∉ knownKeys := by
    intro m hm known
    have held : (e.get? m.1).isSome = true := Object.isSome_get?_iff.2 ⟨m, hm, rfl⟩
    rw [apart m.1 known] at held
    cases held
  have kept : e.fields.entries.foldl (fun o m => o.insert m.1 m.2) Object.empty = e.fields :=
    e.fields.ofMembers_entries
  have taken := foldlM_memberValues e
  rw [Sofar.foldlM_take_of_others others, kept] at taken
  obtain ⟨once, found⟩ := Sofar.foldlM_take_empty_eq_ok_iff.1 taken
  have finished :
      Sofar.finish now ⟨some e.kind, some e.timestamp, e.sentAt.map some, e.fields⟩ = .ok e := by
    obtain ⟨kind, timestamp, sentAt, fields⟩ := e
    cases sentAt <;> rfl
  exact (ofChars_eq_ok_iff opened).2
    ⟨e.memberValues, [], listed, once, ofObject_eq_ok_iff.2 ⟨_, found, finished⟩, rfl⟩

/-- A stamped event with a field named like a known member is not read: the field is the second. -/
theorem ofText_text_of_repeated (stamped : e.sentAt.isSome = true)
    (repeated : ∃ key ∈ knownKeys, (e.get? key).isSome = true) :
    ∃ key ∈ knownKeys, (e.get? key).isSome = true ∧
      ofText now e.text = .error (.mismatch (.duplicateField key)) := by
  obtain ⟨behind, opened, listed⟩ := readMembers_text legible room
  have filled : Sofar.Filled ⟨some e.kind, some e.timestamp, e.sentAt.map some, Object.empty⟩ :=
    ⟨rfl, rfl, by rw [Option.isSome_map, stamped]⟩
  obtain ⟨key, known, held⟩ := repeated
  obtain ⟨m, hm, rfl⟩ := Object.isSome_get?_iff.1 held
  obtain ⟨d, hd, again, refused⟩ := filled.foldlM_take ⟨m, hm, known⟩
  refine ⟨d.1, again, Object.isSome_get?_iff.2 ⟨d, hd, rfl⟩, ?_⟩
  have folded := Sofar.steps_take.foldMembers_eq listed Sofar.empty
  rw [foldlM_memberValues, refused] at folded
  unfold ofText ofChars
  rw [opened]
  change (Json.foldMembers Json.strict Sofar.step Sofar.empty behind >>= fun p => _) = _
  rw [folded]
  rfl

end

/-- An event is read back as it was written, straight away and through a value, unless a field has the
name of a known member; then a stamped event is refused, for such a field. -/
theorem text_round_trip (now : String) (e : Event)
    (floatless : (Json.object e.fields.members).Floatless) (room : e.toJson.depth ≤ Json.depthLimit) :
    ((∀ key ∈ knownKeys, e.get? key = none) →
      ofText now e.text = .ok e ∧ ∃ v, Value.ofText e.text = .ok v ∧ ofValue now v = .ok e) ∧
    (e.sentAt.isSome = true → (∃ key ∈ knownKeys, (e.get? key).isSome = true) →
      ∃ key ∈ knownKeys, (e.get? key).isSome = true ∧
        ofText now e.text = .error (.mismatch (.duplicateField key))) := by
  refine ⟨fun apart => ?_, ofText_text_of_repeated floatless.legible room⟩
  have read : ofText now e.text = .ok e := ofText_text floatless.legible room apart
  exact ⟨read, (ofText_eq_ok_iff.1 read).1⟩

def nested : Event := ⟨"track", "2024-02-29T12:34:56.789Z", none, Object.empty.insert "properties"
  (Value.list [Value.int (-1) (by decide), Value.null, Value.text "\n"])⟩

def shadowed : Event := ⟨"track", "2024-02-29T12:34:56.789Z", some "2024-02-29T12:34:57.000Z",
  Object.empty.insert "type" (Value.text "page")⟩

theorem text_round_trip_nested_shadowed :
    (ofText "" nested.text = .ok nested ∧
        ∃ v, Value.ofText nested.text = .ok v ∧ ofValue "" v = .ok nested) ∧
      ofText "" shadowed.text = .error (.mismatch (.duplicateField "type")) := by
  have floatless : (Json.object nested.fields.members).Floatless :=
    ⟨⟨trivial, trivial, trivial, trivial⟩, trivial⟩
  have apart : ∀ key ∈ knownKeys, nested.get? key = none := by
    simp [knownKeys, nested, get?, Object.get?_insert]
  obtain ⟨key, -, held, refused⟩ :=
    (text_round_trip "" shadowed ⟨trivial, trivial⟩ (by decide)).2 rfl ⟨"type", by decide, rfl⟩
  have type_alone : key = "type" := by
    by_contra other
    rw [get?, shadowed, Object.get?_insert, if_neg other, Object.get?_empty] at held
    cases held
  rw [type_alone] at refused
  exact ⟨(text_round_trip "" nested floatless (by decide)).1 apart, refused⟩

end Courier.Event
