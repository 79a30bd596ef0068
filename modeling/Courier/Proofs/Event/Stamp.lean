import Courier.Event.Basic
import Courier.Proofs.Event.Size

/-! Stamps take the same room, whatever time they name: they are of one length, and none of their
characters is escaped. An event that has one may be given another without changing its size, and
without changing any of its text but the stamp itself. -/
namespace Courier

namespace Time

def isStampChar (c : Char) : Bool :=
  c.isDigit || c = '-' || c = ':' || c = '.' || c = 'T' || c = 'Z'

/-- The text of a time with a year of four digits. -/
structure IsStamp (s : String) : Prop where
  size : s.utf8ByteSize = 24
  chars : s.toList.all isStampChar = true

theorem all_isStampChar_padded (width n : Nat) : (padded width n).toList.all isStampChar = true := by
  rw [padded, String.toList_ofList, List.all_eq_true]
  intro c hc
  have digit : c.isDigit = true := by
    rcases List.mem_append.1 hc with zero | hd
    · rw [List.eq_of_mem_replicate zero]
      rfl
    · exact Nat.isDigit_of_mem_toDigits (by decide) (by decide) hd
  simp [isStampChar, digit]

theorem all_isStampChar_text (millis : Nat) : (text millis).toList.all isStampChar = true := by
  rw [text]
  simp only [String.toList_append, List.all_append, all_isStampChar_padded, Bool.true_and]
  rfl

theorem isStamp_text {millis : Nat} (h : (text millis).utf8ByteSize = 24) : IsStamp (text millis) :=
  ⟨h, all_isStampChar_text millis⟩

theorem IsStamp.unescaped {s : String} (h : IsStamp s) : Json.Unescaped s := by
  intro c hc
  have stamp := List.all_eq_true.1 h.chars c hc
  simp only [isStampChar, Bool.or_eq_true, decide_eq_true_eq] at stamp
  rcases stamp with ((((digit | rfl) | rfl) | rfl) | rfl) | rfl
  · have printable : 48 ≤ c.toNat := (Char.isDigit_iff_toNat.1 digit).1
    refine ⟨?_, ?_, Nat.le_trans (by decide) printable⟩ <;>
      · rintro rfl
        cases digit
  all_goals decide

theorem IsStamp.quotedSize {s : String} (h : IsStamp s) : Json.quotedSize s = 26 := by
  rw [h.unescaped.quotedSize, h.size]

end Time

/-- Was given a stamp, whatever it said before. -/
def Event.IsStamped (e : Event) : Prop := ∃ time, e.sentAt = some time ∧ Time.IsStamp time

theorem Event.isStamped_stamp {time : String} (h : Time.IsStamp time) (e : Event) :
    (e.stamp time).IsStamped :=
  ⟨time, rfl, h⟩

theorem Event.size_eq_of_isStamped {e e' : Event} (he : e.IsStamped) (he' : e'.IsStamped)
    (same : e.content = e'.content) : e.size = e'.size := by
  obtain ⟨time, hs, ht⟩ := he
  obtain ⟨time', hs', ht'⟩ := he'
  have restamped : e' = e.stamp time' := by
    obtain ⟨kind, timestamp, sentAt, fields⟩ := e
    obtain ⟨kind', timestamp', sentAt', fields'⟩ := e'
    cases hs'
    cases same
    rfl
  rw [restamped, size_stamp hs (ht'.quotedSize.trans ht.quotedSize.symm)]

theorem Envelope.encodedSize_eq_of_isStamped (env : Envelope) {batch batch' : List Event}
    (h : ∀ e ∈ batch, e.IsStamped) (h' : ∀ e ∈ batch', e.IsStamped)
    (same : batch.map (·.content) = batch'.map (·.content)) :
    env.encodedSize batch = env.encodedSize batch' := by
  refine env.encodedSize_congr ?_
  induction batch generalizing batch' with
  | nil =>
    cases List.map_eq_nil_iff.1 same.symm
    rfl
  | cons e batch ih =>
    cases batch' with
    | nil => cases same
    | cons e' batch' =>
      obtain ⟨he, hbatch⟩ := List.forall_mem_cons.1 h
      obtain ⟨he', hbatch'⟩ := List.forall_mem_cons.1 h'
      obtain ⟨first, others⟩ := List.cons.inj same
      rw [List.map_cons, List.map_cons, Event.size_eq_of_isStamped he he' first,
        ih hbatch hbatch' others]

/-! ### The text around the stamps -/

theorem Event.exists_around (e : Event) : ∃ front back : String, ∀ time,
    (e.stamp time).toJson.render = front ++ (Json.quote time ++ back) := by
  refine ⟨"\x7b" ++ (Json.quote "type" ++ (":" ++ (Json.quote e.kind ++ ("," ++
    (Json.quote "timestamp" ++ (":" ++ (Json.quote e.timestamp ++ ("," ++
      (Json.quote "sentAt" ++ ":"))))))))), Json.renderMembersTail e.fields.members ++ "\x7d", ?_⟩
  intro time
  simp only [toJson, members, stamp, Option.map_some, Option.toList_some, List.singleton_append,
    Json.render, Json.renderMembers, Json.renderMembersTail, String.append_assoc]

theorem Event.exists_pieces_tail (batch : List Event) (front back : String) : ∃ pieces : List String,
    pieces.length = batch.length + 1 ∧ ∀ time,
      front ++ (Json.renderItemsTail ((batch.map (Event.stamp time)).map Event.toJson) ++ back) =
        (Json.quote time).intercalate pieces := by
  induction batch generalizing front with
  | nil =>
    refine ⟨[front ++ back], rfl, fun time => ?_⟩
    rw [String.intercalate_singleton]
    simp [Json.renderItemsTail]
  | cons e batch ih =>
    obtain ⟨left, right, around⟩ := e.exists_around
    obtain ⟨pieces, length, joined⟩ := ih right
    refine ⟨(front ++ ("," ++ left)) :: pieces, by simp [length], fun time => ?_⟩
    have some_left : pieces ≠ [] := List.ne_nil_of_length_eq_add_one length
    rw [String.intercalate_cons_of_ne_nil some_left, ← joined time]
    simp only [List.map_cons, Json.renderItemsTail, around, String.append_assoc]

/-- A body is the same text around the stamps, whenever it is sent. -/
theorem Envelope.exists_pieces (env : Envelope) {batch : List Event} (some_batch : batch ≠ []) :
    ∃ pieces : List String, pieces.length = batch.length + 1 ∧ ∀ time,
      env.encode (batch.map (Event.stamp time)) = (Json.quote time).intercalate pieces := by
  obtain ⟨e, batch, rfl⟩ := List.exists_cons_of_ne_nil some_batch
  obtain ⟨left, right, around⟩ := e.exists_around
  obtain ⟨pieces, length, joined⟩ := Event.exists_pieces_tail batch right
    ("]" ++ (Json.renderMembersTail env.trailer ++ "\x7d"))
  refine ⟨("\x7b" ++ (Json.quote "batch" ++ (":" ++ ("[" ++ left)))) :: pieces, by simp [length],
    fun time => ?_⟩
  have some_left : pieces ≠ [] := List.ne_nil_of_length_eq_add_one length
  rw [String.intercalate_cons_of_ne_nil some_left, ← joined time]
  simp only [encode, body, List.map_cons, Json.render, Json.renderMembers, Json.renderItems, around,
    String.append_assoc]

end Courier
