import Courier.Proofs.Json.Size
import Mathlib.Data.List.Forall2

/-! What a batch takes when it is written: what its envelope takes without events, what each event takes
by itself, and a comma between each two. So every event makes a batch larger, and a batch stays as large
as it is when stamps in it give way to others of their size. -/
namespace Courier

namespace Json

def Unescaped (s : String) : Prop := ∀ c ∈ s.toList, c ≠ '"' ∧ c ≠ '\\' ∧ 32 ≤ c.toNat

instance (s : String) : Decidable (Unescaped s) := List.decidableBAll _ s.toList

theorem escapedSize_of_shown {c : Char} (h : c ≠ '"' ∧ c ≠ '\\' ∧ 32 ≤ c.toNat) :
    escapedSize c = c.utf8Size := by
  obtain ⟨quote, backslash, shown⟩ := h
  have unnamed : ¬(c = '"' ∨ c = '\\' ∨ c = '\x08' ∨ c = '\t' ∨ c = '\n' ∨ c = '\x0c' ∨ c = '\r') := by
    rintro (rfl | rfl | rfl | rfl | rfl | rfl | rfl)
    · exact quote rfl
    · exact backslash rfl
    all_goals exact absurd shown (by decide)
  rw [escapedSize, if_neg unnamed, if_neg (Nat.not_lt.2 shown)]

theorem Unescaped.quotedSize {s : String} (h : Unescaped s) : quotedSize s = 2 + s.utf8ByteSize := by
  have sum (cs : List Char) (hcs : ∀ c ∈ cs, c ≠ '"' ∧ c ≠ '\\' ∧ 32 ≤ c.toNat) :
      cs.foldr (fun c n => escapedSize c + n) 0 = (String.ofList cs).utf8ByteSize := by
    induction cs with
    | nil => rfl
    | cons c cs ih =>
      obtain ⟨hc, hcs⟩ := List.forall_mem_cons.1 hcs
      rw [List.foldr_cons, escapedSize_of_shown hc, ih hcs, utf8ByteSize_ofList_cons]
  rw [Json.quotedSize, sum _ h, String.ofList_toList]

theorem sizeItems_append (xs ys : List Json) :
    sizeItems (xs ++ ys) = sizeItems xs + sizeItems ys := by
  induction xs with
  | nil => simp [sizeItems]
  | cons x xs ih => simp only [List.cons_append, sizeItems, ih, Nat.add_assoc]

theorem sizeItems_congr {xs ys : List Json} (same : xs.map size = ys.map size) :
    sizeItems xs = sizeItems ys := by
  induction xs generalizing ys with
  | nil =>
    cases List.map_eq_nil_iff.1 same.symm
    rfl
  | cons x xs ih =>
    obtain ⟨y, ys, rfl, first, others⟩ := List.map_eq_cons_iff.1 same.symm
    rw [sizeItems, sizeItems, first, ih others.symm]

end Json

namespace Event

def size (e : Event) : Nat := e.toJson.size

theorem utf8ByteSize_text (e : Event) : e.text.utf8ByteSize = e.size := Json.utf8ByteSize_render _

theorem size_pos (e : Event) : 0 < e.size := by
  unfold size toJson Json.size
  omega

theorem size_stamp {e : Event} {old new : String} (stamped : e.sentAt = some old)
    (same : Json.quotedSize new = Json.quotedSize old) : (e.stamp new).size = e.size := by
  obtain ⟨kind, timestamp, sentAt, fields⟩ := e
  cases stamped
  simp only [size, stamp, toJson, members, Json.size, Json.sizeMembers, Option.map_some,
    Option.toList_some, List.singleton_append, List.length_cons, same]

end Event

namespace Envelope

theorem encodedSize_eq (env : Envelope) (batch : List Event) : env.encodedSize batch =
    env.encodedSize [] +
      (Json.separators batch.length + Json.sizeItems (batch.map Event.toJson)) := by
  simp only [encodedSize, body, Json.size, Json.sizeMembers, List.length_cons, List.length_map,
    List.map_nil, List.length_nil, Json.sizeItems, Json.separators]
  omega

theorem encodedSize_congr (env : Envelope) {batch batch' : List Event}
    (same : batch.map Event.size = batch'.map Event.size) :
    env.encodedSize batch = env.encodedSize batch' := by
  have length : batch.length = batch'.length := by simpa using congrArg List.length same
  have events : Json.sizeItems (batch.map Event.toJson) = Json.sizeItems (batch'.map Event.toJson) := by
    refine Json.sizeItems_congr ?_
    rw [List.map_map, List.map_map]
    exact same
  rw [encodedSize_eq, encodedSize_eq env batch', length, events]

theorem encodedSize_le_append (env : Envelope) (batch more : List Event) :
    env.encodedSize batch ≤ env.encodedSize (batch ++ more) := by
  rw [encodedSize_eq, encodedSize_eq env (batch ++ more), List.length_append, List.map_append,
    Json.sizeItems_append]
  unfold Json.separators
  omega

theorem encodedSize_concat (env : Envelope) (batch : List Event) (e : Event) :
    env.encodedSize (batch ++ [e]) =
      env.encodedSize batch + e.size + if batch = [] then 0 else 1 := by
  have added : Json.sizeItems ([e].map Event.toJson) = e.size := Nat.add_zero _
  rw [encodedSize_eq, encodedSize_eq env batch, List.length_append, List.map_append,
    Json.sizeItems_append, added]
  unfold Json.separators
  cases batch with
  | nil => simp [Json.sizeItems]
  | cons e' batch =>
    simp only [List.length_cons, List.length_nil, reduceCtorEq, if_false]
    omega

theorem encodedSize_lt_append (env : Envelope) (batch : List Event) {more : List Event}
    (some_more : more ≠ []) : env.encodedSize batch < env.encodedSize (batch ++ more) := by
  obtain ⟨e, more, rfl⟩ := List.exists_cons_of_ne_nil some_more
  have first : env.encodedSize batch < env.encodedSize (batch ++ [e]) := by
    have pos := e.size_pos
    rw [encodedSize_concat]
    omega
  rw [List.append_cons]
  exact Nat.lt_of_lt_of_le first (env.encodedSize_le_append (batch ++ [e]) more)

end Envelope

/-- Is the same event, or was given another stamp in place of one of that length, and neither of these
stamps has a character to be escaped. -/
inductive Event.Restamped (e : Event) : Event → Prop where
  | same : Restamped e e
  | restamp {old new : String} (stamped : e.sentAt = some old) (length : new.utf8ByteSize = old.utf8ByteSize)
      (shown : Json.Unescaped old) (shown' : Json.Unescaped new) : Restamped e (e.stamp new)

theorem Event.Restamped.size_eq {e e' : Event} (h : e.Restamped e') : e.size = e'.size := by
  cases h with
  | same => rfl
  | restamp stamped length shown shown' =>
    refine (size_stamp stamped ?_).symm
    rw [shown.quotedSize, shown'.quotedSize, length]

namespace Envelope

/-- What is measured is what is written: an event adds its own text, and a comma if it is not the first,
and a batch that is stamped anew with stamps of the same size takes what it took before. -/
theorem encodedSize_additive (env : Envelope) (batch : List Event) :
    env.encodedSize batch = (env.encode batch).utf8ByteSize ∧
    (∀ e, env.encodedSize (batch ++ [e]) =
      env.encodedSize batch + e.text.utf8ByteSize + if batch = [] then 0 else 1) ∧
    (∀ more, more ≠ [] → env.encodedSize batch < env.encodedSize (batch ++ more)) ∧
    ∀ batch', List.Forall₂ Event.Restamped batch batch' →
      env.encodedSize batch' = env.encodedSize batch := by
  refine ⟨(env.utf8ByteSize_encode batch).symm, fun e => ?_, fun _ => env.encodedSize_lt_append batch,
    fun batch' restamped => ?_⟩
  · rw [e.utf8ByteSize_text]
    exact env.encodedSize_concat batch e
  · refine (env.encodedSize_congr ?_).symm
    induction restamped with
    | nil => rfl
    | cons first _ ih => rw [List.map_cons, List.map_cons, first.size_eq, ih]

def halfStamped (stamp : String) : List Event :=
  [⟨"track", "", some stamp, Object.empty⟩, .new "page" ""]

theorem encodedSize_additive_halfStamped :
    default.encodedSize (halfStamped "12:00") <
        default.encodedSize (halfStamped "12:00" ++ [.new "page" ""]) ∧
      default.encodedSize (halfStamped "12:59") = default.encodedSize (halfStamped "12:00") := by
  obtain ⟨-, -, grows, restamped⟩ := encodedSize_additive default (halfStamped "12:00")
  refine ⟨grows _ (List.cons_ne_nil _ _), restamped _ (.cons ?_ (.cons .same .nil))⟩
  exact .restamp rfl rfl (by decide) (by decide)

end Envelope

end Courier
