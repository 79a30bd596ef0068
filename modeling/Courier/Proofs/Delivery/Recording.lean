import Courier.Delivery.Recorder
import Courier.Proofs.Event.RoundTrip
import Mathlib.Data.List.Forall2

/-! What is sent can be read back. The body of a batch is read as an object of the events' objects with
the context and the integrations they are sent with, so that a recorder finds in the requests it keeps
the batches they were made of. Only the floats of the context and the integrations are not always read
as they were: digits are read in float arithmetic, which may end at a neighbour of the float they stand
for. -/
namespace Courier

namespace Event

theorem get?_toObject (e : Event) (key : String) : e.toObject.get? key = (e.get? key).or
    (if key = "type" then some (Value.text e.kind)
      else if key = "timestamp" then some (Value.text e.timestamp)
      else if key = "sentAt" then e.sentAt.map Value.text
      else none) := by
  rw [toObject, memberValues, Object.get?_ofMembers_append, Object.ofMembers_entries, get?]
  congr 1
  obtain ⟨kind, timestamp, sentAt, fields⟩ := e
  by_cases type : key = "type"
  · cases sentAt <;> simp [knownMembers, Object.ofMembers, Object.get?_insert, type]
  by_cases time : key = "timestamp"
  · cases sentAt <;> simp [knownMembers, Object.ofMembers, Object.get?_insert, time]
  · cases sentAt <;> simp [knownMembers, Object.ofMembers, Object.get?_insert, type, time]

end Event

namespace Envelope

/-- A batch whose text can be read in an envelope: there are no floats in the events, and lists and
objects are not nested too deep. -/
structure Readable (env : Envelope) (batch : List Event) : Prop where
  events : ∀ e ∈ batch, (Json.object e.fields.members).Floatless
  room : (env.body batch).depth ≤ Json.depthLimit

def toObject (env : Envelope) (batch : List Event) : Object :=
  Object.ofMembers (("batch", Value.list (batch.map Event.value)) ::
    ((env.context.map fun o => ("context", Value.object o.reread)).toList ++
      (env.integrations.map fun o => ("integrations", Value.object o.reread)).toList))

theorem get?_toObject (env : Envelope) (batch : List Event) (key : String) :
    (env.toObject batch).get? key =
      if key = "batch" then some (Value.list (batch.map Event.value))
      else if key = "context" then env.context.map fun o => Value.object o.reread
      else if key = "integrations" then env.integrations.map fun o => Value.object o.reread
      else none := by
  obtain ⟨context, integrations⟩ := env
  by_cases events : key = "batch"
  · cases context <;> cases integrations <;>
      simp [toObject, Object.ofMembers, Object.get?_insert, events]
  by_cases setting : key = "context"
  · cases context <;> cases integrations <;>
      simp [toObject, Object.ofMembers, Object.get?_insert, setting]
  · cases context <;> cases integrations <;>
      simp [toObject, Object.ofMembers, Object.get?_insert, events, setting]

variable {env : Envelope} {batch : List Event}

theorem Readable.spells_body (readable : env.Readable batch) :
    Json.Spells (env.body batch) (Value.object (env.toObject batch)) := by
  have events : List.Forall₂ Json.Spells (batch.map Event.toJson)
      (batch.map Event.value) := by
    rw [List.forall₂_map_left_iff, List.forall₂_map_right_iff, List.forall₂_same]
    exact fun e he => Event.spells_value (readable.events e he).legible
  have optional (key : String) (part : Option Object) : List.Forall₂ Json.SpellsMember
      (part.map fun o => (key, Json.object o.members)).toList
      (part.map fun o => (key, Value.object o.reread)).toList := by
    cases part with
    | none => exact .nil
    | some o => exact .cons ⟨rfl, Json.spells_reread (.object o.members) o.canonical⟩ .nil
  exact .object (.cons ⟨rfl, .list events⟩ (List.rel_append
    (optional "context" env.context) (optional "integrations" env.integrations)))

theorem Readable.ofText_encode (readable : env.Readable batch) :
    Value.ofText (env.encode batch) = .ok (Value.object (env.toObject batch)) :=
  readable.spells_body.ofText readable.room

end Envelope

namespace Value

theorem items_map_json (vs : List Value) (h : Json.CanonicalItems (vs.map json)) :
    items (vs.map json) h = vs := by
  induction vs with
  | nil => rfl
  | cons v vs ih => exact congrArg (v :: ·) (ih h.2)

theorem toList?_list (vs : List Value) : (list vs).toList? = some vs :=
  congrArg some (items_map_json vs (list vs).canonical)

end Value

namespace Recorder

def deliverAll (r : Recorder) (requests : List Request) : Recorder :=
  requests.foldl (fun r q => (r.deliver q).2) r

theorem requests_deliverAll (r : Recorder) (requests : List Request) :
    (r.deliverAll requests).requests = r.requests ++ requests := by
  induction requests generalizing r with
  | nil => exact (List.append_nil _).symm
  | cons q requests ih =>
    have kept : (r.deliver q).2.requests = r.requests ++ [q] := rfl
    change ((r.deliver q).2.deliverAll requests).requests = _
    rw [ih, kept, List.append_assoc, List.singleton_append]

theorem batchOf_encode {env : Envelope} {batch : List Event} (readable : env.Readable batch) :
    batchOf (env.encode batch) = some (batch.map Event.value) := by
  rw [batchOf, readable.ofText_encode]
  change ((env.toObject batch).get? "batch").bind Value.toList? = _
  rw [env.get?_toObject, if_pos rfl]
  exact Value.toList?_list _

/-- Whatever was sent can be read back: the body of each batch is read as an object with the events'
objects, the context and the integrations in it and nothing else, where these two have the readings of
their floats in them; and a recorder lists the batches it was handed after those it had, one for each
request and in their order, whatever it answered. -/
theorem bodies_read_back (r : Recorder) (requests : List Request) (sent : List (Envelope × List Event))
    (bodies : requests.map Request.body = sent.map fun s => s.1.encode s.2)
    (readable : ∀ s ∈ sent, s.1.Readable s.2) :
    (∀ s ∈ sent, ∃ body, Value.ofText (s.1.encode s.2) = .ok (Value.object body) ∧ ∀ key,
      body.get? key =
        if key = "batch" then some (Value.list (s.2.map Event.value))
        else if key = "context" then s.1.context.map fun o => Value.object o.reread
        else if key = "integrations" then s.1.integrations.map fun o => Value.object o.reread
        else none) ∧
    (∀ o : Object, o.reread = o ↔ (Json.object o.members).Legible) ∧
    (∀ s ∈ sent, ∀ e ∈ s.2, ∀ key, e.toObject.get? key = (e.get? key).or
      (if key = "type" then some (Value.text e.kind)
        else if key = "timestamp" then some (Value.text e.timestamp)
        else if key = "sentAt" then e.sentAt.map Value.text
        else none)) ∧
    (r.deliverAll requests).batches =
      r.batches ++ sent.map fun s => s.2.map Event.value := by
  refine ⟨fun s hs => ⟨s.1.toObject s.2, (readable s hs).ofText_encode, s.1.get?_toObject s.2⟩,
    Object.reread_eq_self_iff, fun s _ e _ => e.get?_toObject, ?_⟩
  have listed : requests.filterMap (fun q => batchOf q.body) =
      sent.map fun s => s.2.map Event.value := by
    calc
      requests.filterMap (fun q => batchOf q.body)
          = (requests.map Request.body).filterMap batchOf := by
        rw [List.filterMap_map]
        rfl
      _ = sent.filterMap (fun s => batchOf (s.1.encode s.2)) := by
        rw [bodies, List.filterMap_map]
        rfl
      _ = sent.filterMap (fun s => some (s.2.map Event.value)) :=
        List.filterMap_congr fun s hs => batchOf_encode (readable s hs)
      _ = sent.map fun s => s.2.map Event.value := congrFun List.filterMap_eq_map' sent
  rw [batches, requests_deliverAll, List.filterMap_append, listed]
  rfl

/-- An object with a float whose digits are read as the next float above it. -/
def measure : Object where
  members := [("x", .float 31.245270191439438)]
  canonical := ⟨List.pairwise_singleton _ _, show Float.isFinite _ = true by decide +kernel, trivial⟩

theorem readingOf_measure : Json.readingOf 31.245270191439438 = 31.24527019143944 := by
  have digits : Json.floatLayout.render 31.245270191439438 = "31.245270191439438" := by decide +kernel
  have scaled : Json.scale? 31245270191439438 (-15) = some 31.24527019143944 := by
    rw [Json.scale?, if_pos (by decide), Json.scaleDown, if_pos (by decide)]
    decide +kernel
  have value : Json.Literal.toFloat? ⟨false, "31".toList, some "245270191439438".toList, none⟩ =
      some 31.24527019143944 := (congrArg (Option.map _) scaled).trans rfl
  have read : Json.strict.number "31.245270191439438".toList =
      .ok (Value.float 31.24527019143944, []) := by
    refine Json.bind_eq_ok_iff.2 ⟨(⟨false, "31".toList, some "245270191439438".toList, none⟩, []), rfl, ?_⟩
    dsimp only
    rw [Json.Literal.toValue?, Json.Literal.toInt?_eq_none (.inl (Option.some_ne_none _)), value]
    rfl
  rw [Json.readingOf, digits, read, Value.float_of_isFinite (by decide +kernel)]

theorem reread_measure : measure.reread.members = [("x", .float 31.24527019143944)] :=
  congrArg (fun y => [("x", Json.float y)]) readingOf_measure

theorem reread_measure_ne : measure.reread ≠ measure := by
  intro same
  have members := congrArg Object.members same
  rw [reread_measure] at members
  have floats : (31.24527019143944 : Float) = 31.245270191439438 :=
    Json.float.inj (congrArg Prod.snd (List.cons.inj members).1)
  exact absurd (congrArg Float.toBits floats) (by decide +kernel)

def measured : Envelope := ⟨some measure, none⟩

theorem bodies_read_back_twoRefused :
    (∃ body, Value.ofText (measured.encode [Event.shadowed]) = .ok (Value.object body) ∧
      body.get? "batch" = some (Value.list [Event.shadowed.value]) ∧
      body.get? "context" = some (Value.object measure.reread) ∧ body.get? "integrations" = none) ∧
    measure.reread.members = [("x", .float 31.24527019143944)] ∧
    (refusing.deliverAll [⟨"POST", "", [], measured.encode [Event.shadowed]⟩,
      ⟨"POST", "", [], Envelope.encode ⟨none, none⟩ [Event.nested, Event.shadowed]⟩]).batches =
      [[Event.shadowed.value], [Event.nested.value, Event.shadowed.value]] := by
  have nested : (Json.object Event.nested.fields.members).Floatless :=
    ⟨⟨trivial, trivial, trivial, trivial⟩, trivial⟩
  have shadowed : (Json.object Event.shadowed.fields.members).Floatless := ⟨trivial, trivial⟩
  have first : measured.Readable [Event.shadowed] := ⟨by simpa using shadowed, by decide⟩
  have second : Envelope.Readable ⟨none, none⟩ [Event.nested, Event.shadowed] :=
    ⟨by simpa using ⟨nested, shadowed⟩, by decide⟩
  obtain ⟨bodies, -, -, listed⟩ := bodies_read_back refusing [⟨"POST", "", [], _⟩, ⟨"POST", "", [], _⟩]
    [(measured, [Event.shadowed]), (⟨none, none⟩, [Event.nested, Event.shadowed])] rfl
    (by simpa using ⟨first, second⟩)
  obtain ⟨body, read, fields⟩ := bodies (measured, [Event.shadowed]) List.mem_cons_self
  exact ⟨⟨body, read, fields "batch", fields "context", fields "integrations"⟩, reread_measure, listed⟩

/-- What is read of a body need not have the envelope's own context in it. -/
theorem not_read_back_measured : measured.Readable [] ∧
    ¬ ∃ body, Value.ofText (measured.encode []) = .ok (Value.object body) ∧
      body.get? "context" = measured.context.map Value.object := by
  have readable : measured.Readable [] := ⟨by simp, by decide⟩
  refine ⟨readable, ?_⟩
  rintro ⟨body, read, same⟩
  rw [readable.ofText_encode] at read
  have found : (measured.toObject []).get? "context" = some (Value.object measure.reread) :=
    measured.get?_toObject [] "context"
  have objects : Value.object (measured.toObject []) = Value.object body := Except.ok.inj read
  have members : (measured.toObject []).members = body.members :=
    Json.object.inj (congrArg Value.json objects)
  rw [Object.ext members] at found
  have context := congrArg Value.json (Option.some.inj (found.symm.trans same))
  exact reread_measure_ne (Object.ext (Json.object.inj context))

end Recorder

end Courier
