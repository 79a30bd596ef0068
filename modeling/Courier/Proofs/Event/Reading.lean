import Courier.Event.Reader
import Courier.Proofs.Json.Kinds
import Courier.Proofs.Json.Objects

/-! The two ways to read an event agree. Read straight from a text, each known member goes into a slot
that takes one value; read from a value, each is looked up. What is in a slot after all members is what
would have been looked up, if the slot was met at most once. -/
namespace Courier

namespace Json

/-- The members of the object that a text spells, with those that are repeated; none if the text does
not open an object that can be read. -/
def membersOf (text : String) : List (String × Value) :=
  match skipBlank text.toList with
  | '\x7b' :: behind => match readMembers strict (depthLimit - 1) behind with
    | .ok (ms, _) => ms
    | .error _ => []
  | _ => []

end Json

namespace Event

def knownKeys : List String := ["type", "timestamp", "sentAt"]

theorem mem_knownKeys {key : String} :
    key ∈ knownKeys ↔ key = "type" ∨ key = "timestamp" ∨ key = "sentAt" := by
  simp [knownKeys]

theorem not_mem_knownKeys {key : String} (other : key ∉ knownKeys) :
    key ≠ "type" ∧ key ≠ "timestamp" ∧ key ≠ "sentAt" := by
  rwa [mem_knownKeys, not_or, not_or] at other

theorem onlyScalars_textOf : Json.OnlyScalars textOf := by
  intro found a accepted
  constructor <;> rintro rfl <;> cases accepted

theorem onlyScalars_optionalTextOf : Json.OnlyScalars optionalTextOf := by
  intro found a accepted
  constructor <;> rintro rfl <;> cases accepted

/-! ### Slots -/

section

variable {α : Type} (key : String) (accept : Found → Except Mismatch α)

/-- A slot takes the value of its key, and a second one never. -/
def takeSlot (slot : Option α) (m : String × Value) : Except Json.Fault (Option α) :=
  if m.1 = key then
    if slot.isSome then .error (.mismatch (.duplicateField key))
    else ((accept m.2.found).mapError .mismatch).map some
  else .ok slot

def slotOf : Option Value → Except Mismatch (Option α)
  | some v => (accept v.found).map some
  | none => .ok none

variable {key accept} {slot held : Option α} {m : String × Value} {ms : List (String × Value)}

theorem takeSlot_of_ne (other : m.1 ≠ key) : takeSlot key accept slot m = .ok slot := if_neg other

theorem takeSlot_of_taken (known : m.1 = key) (taken : slot.isSome = true) :
    takeSlot key accept slot m = .error (.mismatch (.duplicateField key)) := by
  rw [takeSlot, if_pos known, if_pos taken]

theorem takeSlot_empty (known : m.1 = key) :
    takeSlot key accept none m = ((accept m.2.found).mapError .mismatch).map some := if_pos known

theorem takeSlot_eq_ok_iff (known : m.1 = key) : takeSlot key accept slot m = .ok held ↔
    slot = none ∧ slotOf accept (some m.2) = .ok held := by
  cases slot with
  | some a =>
    rw [takeSlot_of_taken known rfl]
    constructor
    · intro h
      cases h
    · rintro ⟨h, -⟩
      cases h
  | none =>
    rw [takeSlot_empty known, slotOf]
    cases accept m.2.found with
    | error e =>
      constructor
      · intro h
        cases h
      · rintro ⟨-, h⟩
        cases h
    | ok a =>
      constructor
      · intro h
        cases h
        exact ⟨rfl, rfl⟩
      · rintro ⟨-, h⟩
        cases h
        rfl

theorem slotOf_eq_none_iff {v : Option Value} : slotOf accept v = .ok none ↔ v = none := by
  cases v with
  | none => exact ⟨fun _ => rfl, fun _ => rfl⟩
  | some v =>
    refine ⟨fun h => ?_, fun h => nomatch h⟩
    obtain ⟨a, -, h⟩ := Json.map_eq_ok_iff.1 h
    cases h

theorem foldlM_takeSlot_eq_ok_iff : ms.foldlM (takeSlot key accept) none = .ok held ↔
    (ms.map Prod.fst).count key ≤ 1 ∧ slotOf accept ((Object.ofMembers ms).get? key) = .ok held := by
  -- From the end, since of equal keys it is the last that is looked up.
  induction ms using List.reverseRecOn generalizing held with
  | nil =>
    rw [show (Object.ofMembers []).get? key = none from Object.get?_empty]
    constructor
    · intro h
      cases h
      exact ⟨Nat.zero_le _, rfl⟩
    · rintro ⟨-, h⟩
      cases h
      rfl
  | append_singleton ms m ih =>
    have last : (ms ++ [m]).foldlM (takeSlot key accept) none = .ok held ↔
        ∃ slot, ms.foldlM (takeSlot key accept) none = .ok slot ∧
          takeSlot key accept slot m = .ok held := by
      rw [List.foldlM_append, Json.bind_eq_ok_iff]
      simp only [List.foldlM_cons, List.foldlM_nil, bind_pure]
    rw [last, Object.ofMembers_concat, Object.get?_insert, List.map_append, List.count_append]
    by_cases known : m.1 = key
    · have once : List.count key ([m].map Prod.fst) = 1 := by
        rw [List.map_singleton, known, List.count_singleton_self]
      have unmet : (Object.ofMembers ms).get? key = none ↔ (ms.map Prod.fst).count key = 0 :=
        Object.get?_ofMembers_eq_none_iff.trans List.count_eq_zero.symm
      simp only [takeSlot_eq_ok_iff known, ih]
      rw [once, if_pos known.symm]
      constructor
      · rintro ⟨_, ⟨-, looked⟩, rfl, taken⟩
        rw [unmet.1 (slotOf_eq_none_iff.1 looked)]
        exact ⟨Nat.le_refl _, taken⟩
      · rintro ⟨single, taken⟩
        have none_before : (ms.map Prod.fst).count key = 0 := by omega
        exact ⟨none, ⟨by omega, slotOf_eq_none_iff.2 (unmet.2 none_before)⟩, rfl, taken⟩
    · have never : List.count key ([m].map Prod.fst) = 0 := by
        rw [List.map_singleton]
        exact List.count_eq_zero.2 fun h => known (List.mem_singleton.1 h).symm
      rw [never, if_neg fun h => known h.symm, Nat.add_zero, ← ih]
      simp only [takeSlot_of_ne known]
      constructor
      · rintro ⟨slot, folded, same⟩
        cases same
        exact folded
      · intro folded
        exact ⟨held, folded, rfl⟩

end

/-! ### Members taken one by one -/

section

open Json

variable {α : Type} {key : String} {accept : Found → Except Mismatch α} {slot : Option α}
  {depth : Nat} {cs rest : List Char}

def stepSlot {σ : Type} (key : String) (accept : Found → Except Mismatch α) (slot : Option α)
    (hold : α → σ) (cs : List Char) : Except Fault (σ × List Char) :=
  if slot.isSome then .error (.mismatch (.duplicateField key))
  else do
    let (a, cs) ← readAs accept (← expectColon cs)
    .ok (hold a, cs)

theorem stepSlot_of_readMember {σ : Type} (scalars : OnlyScalars accept) (hold : Option α → σ) {v : Value}
    (read : readMember strict depth cs = .ok (v, rest)) :
    stepSlot key accept slot (fun a => hold (some a)) cs =
      ((takeSlot key accept slot (key, v)).map hold).map (·, rest) := by
  obtain ⟨behind, colon, read⟩ := bind_eq_ok_iff.1 read
  cases slot with
  | some a =>
    rw [takeSlot_of_taken (show (key, v).1 = key from rfl) rfl]
    rfl
  | none =>
    rw [takeSlot_empty (show (key, v).1 = key from rfl), stepSlot, colon]
    change (readAs accept behind >>= fun p => _) = _
    rw [readAs_of_readValue scalars read]
    cases accept v.found <;> rfl

theorem exists_readMember_of_stepSlot {σ : Type} (scalars : OnlyScalars accept) {hold : α → σ} {s : σ}
    (stepped : stepSlot key accept slot hold cs = .ok (s, rest)) :
    ∃ v, readMember strict depth cs = .ok (v, rest) := by
  unfold stepSlot at stepped
  split at stepped
  · cases stepped
  · obtain ⟨behind, colon, stepped⟩ := bind_eq_ok_iff.1 stepped
    obtain ⟨⟨a, left⟩, read, stepped⟩ := bind_eq_ok_iff.1 stepped
    cases stepped
    obtain ⟨v, read⟩ := exists_readValue_of_readAs scalars read
    exact ⟨v, bind_eq_ok_iff.2 ⟨behind, colon, read⟩⟩

end

namespace Sofar

variable {s u : Sofar} {m : String × Value} {ms : List (String × Value)}

def take (s : Sofar) (m : String × Value) : Except Json.Fault Sofar := do
  let kind ← takeSlot "type" textOf s.kind m
  let timestamp ← takeSlot "timestamp" textOf s.timestamp m
  let sentAt ← takeSlot "sentAt" optionalTextOf s.sentAt m
  .ok ⟨kind, timestamp, sentAt, if m.1 ∈ knownKeys then s.fields else s.fields.insert m.1 m.2⟩

theorem take_type (known : m.1 = "type") :
    s.take m = (takeSlot "type" textOf s.kind m).map fun kind => { s with kind } := by
  obtain ⟨key, v⟩ := m
  cases known
  rw [take]
  cases takeSlot "type" textOf s.kind ("type", v) <;> rfl

theorem take_timestamp (known : m.1 = "timestamp") :
    s.take m = (takeSlot "timestamp" textOf s.timestamp m).map fun timestamp => { s with timestamp } := by
  obtain ⟨key, v⟩ := m
  cases known
  rw [take, takeSlot_of_ne (by simp)]
  change (takeSlot "timestamp" textOf s.timestamp ("timestamp", v) >>= fun _ => _) = _
  cases takeSlot "timestamp" textOf s.timestamp ("timestamp", v) <;> rfl

theorem take_sentAt (known : m.1 = "sentAt") :
    s.take m = (takeSlot "sentAt" optionalTextOf s.sentAt m).map fun sentAt => { s with sentAt } := by
  obtain ⟨key, v⟩ := m
  cases known
  rw [take, takeSlot_of_ne (by simp), takeSlot_of_ne (by simp)]
  change (takeSlot "sentAt" optionalTextOf s.sentAt ("sentAt", v) >>= fun _ => _) = _
  cases takeSlot "sentAt" optionalTextOf s.sentAt ("sentAt", v) <;> rfl

theorem take_other (other : m.1 ∉ knownKeys) :
    s.take m = .ok { s with fields := s.fields.insert m.1 m.2 } := by
  obtain ⟨noKind, noTimestamp, noSentAt⟩ := not_mem_knownKeys other
  rw [take, takeSlot_of_ne noKind, takeSlot_of_ne noTimestamp, takeSlot_of_ne noSentAt]
  change Except.ok _ = Except.ok _
  rw [if_neg other]

theorem take_eq_ok_iff : s.take m = .ok u ↔
    takeSlot "type" textOf s.kind m = .ok u.kind ∧
      takeSlot "timestamp" textOf s.timestamp m = .ok u.timestamp ∧
      takeSlot "sentAt" optionalTextOf s.sentAt m = .ok u.sentAt ∧
      u.fields = if m.1 ∈ knownKeys then s.fields else s.fields.insert m.1 m.2 := by
  constructor
  · intro taken
    obtain ⟨kind, hkind, taken⟩ := Json.bind_eq_ok_iff.1 taken
    obtain ⟨timestamp, htimestamp, taken⟩ := Json.bind_eq_ok_iff.1 taken
    obtain ⟨sentAt, hsentAt, taken⟩ := Json.bind_eq_ok_iff.1 taken
    cases taken
    exact ⟨hkind, htimestamp, hsentAt, rfl⟩
  · rintro ⟨hkind, htimestamp, hsentAt, hfields⟩
    refine Json.bind_eq_ok_iff.2 ⟨_, hkind, Json.bind_eq_ok_iff.2 ⟨_, htimestamp,
      Json.bind_eq_ok_iff.2 ⟨_, hsentAt, ?_⟩⟩⟩
    rw [← hfields]

theorem step_type (s : Sofar) (cs : List Char) : step s "type" cs =
    stepSlot "type" textOf s.kind (fun kind => { s with kind := some kind }) cs := rfl

theorem step_timestamp (s : Sofar) (cs : List Char) : step s "timestamp" cs =
    stepSlot "timestamp" textOf s.timestamp
      (fun timestamp => { s with timestamp := some timestamp }) cs := rfl

theorem step_sentAt (s : Sofar) (cs : List Char) : step s "sentAt" cs =
    stepSlot "sentAt" optionalTextOf s.sentAt (fun sentAt => { s with sentAt := some sentAt }) cs := rfl

theorem step_other {key : String} (other : key ∉ knownKeys) (s : Sofar) (cs : List Char) :
    step s key cs = (do
      let (v, cs) ← Json.readMember Json.strict (Json.depthLimit - 1) cs
      .ok ({ s with fields := s.fields.insert key v }, cs)) := by
  obtain ⟨noKind, noTimestamp, noSentAt⟩ := not_mem_knownKeys other
  rw [step, if_neg noKind, if_neg noTimestamp, if_neg noSentAt, Json.readMember, bind_assoc]

theorem steps_take : Json.Steps Json.strict (Json.depthLimit - 1) step take where
  made := by
    intro s key cs v rest read
    by_cases known : key ∈ knownKeys
    · rcases mem_knownKeys.1 known with rfl | rfl | rfl
      · rw [step_type, take_type rfl]
        exact stepSlot_of_readMember onlyScalars_textOf (fun kind => { s with kind }) read
      · rw [step_timestamp, take_timestamp rfl]
        exact stepSlot_of_readMember onlyScalars_textOf (fun timestamp => { s with timestamp }) read
      · rw [step_sentAt, take_sentAt rfl]
        exact stepSlot_of_readMember onlyScalars_optionalTextOf (fun sentAt => { s with sentAt }) read
    · rw [step_other known, take_other known, read]
      rfl
  only := by
    intro s key cs u rest stepped
    by_cases known : key ∈ knownKeys
    · rcases mem_knownKeys.1 known with rfl | rfl | rfl
      · rw [step_type] at stepped
        exact exists_readMember_of_stepSlot onlyScalars_textOf stepped
      · rw [step_timestamp] at stepped
        exact exists_readMember_of_stepSlot onlyScalars_textOf stepped
      · rw [step_sentAt] at stepped
        exact exists_readMember_of_stepSlot onlyScalars_optionalTextOf stepped
    · rw [step_other known] at stepped
      obtain ⟨⟨v, left⟩, read, stepped⟩ := Json.bind_eq_ok_iff.1 stepped
      cases stepped
      exact ⟨v, read⟩

theorem foldlM_take_eq_ok_iff : ms.foldlM take s = .ok u ↔
    ms.foldlM (takeSlot "type" textOf) s.kind = .ok u.kind ∧
      ms.foldlM (takeSlot "timestamp" textOf) s.timestamp = .ok u.timestamp ∧
      ms.foldlM (takeSlot "sentAt" optionalTextOf) s.sentAt = .ok u.sentAt ∧
      u.fields = ms.foldl (fun o m => if m.1 ∈ knownKeys then o else o.insert m.1 m.2) s.fields := by
  induction ms generalizing s with
  | nil =>
    obtain ⟨kind, timestamp, sentAt, fields⟩ := s
    obtain ⟨kind', timestamp', sentAt', fields'⟩ := u
    constructor
    · intro h
      cases h
      exact ⟨rfl, rfl, rfl, rfl⟩
    · rintro ⟨h₁, h₂, h₃, rfl⟩
      cases h₁
      cases h₂
      cases h₃
      rfl
  | cons m ms ih =>
    simp only [List.foldlM_cons, Json.bind_eq_ok_iff, take_eq_ok_iff, ih, List.foldl_cons]
    constructor
    · rintro ⟨w, ⟨kind, timestamp, sentAt, fields⟩, kinds, timestamps, sentAts, kept⟩
      rw [fields] at kept
      exact ⟨⟨_, kind, kinds⟩, ⟨_, timestamp, timestamps⟩, ⟨_, sentAt, sentAts⟩, kept⟩
    · rintro ⟨⟨a, kind, kinds⟩, ⟨b, timestamp, timestamps⟩, ⟨c, sentAt, sentAts⟩, kept⟩
      exact ⟨⟨a, b, c, _⟩, ⟨kind, timestamp, sentAt, rfl⟩, kinds, timestamps, sentAts, kept⟩

end Sofar

/-! ### Members looked up -/

theorem get?_otherMembers (o : Object) (key : String) :
    (otherMembers o).get? key = if key ∈ knownKeys then none else o.get? key := by
  rw [otherMembers, Object.get?_erase, Object.get?_erase, Object.get?_erase]
  by_cases kind : key = "type"
  · simp [kind, knownKeys]
  by_cases timestamp : key = "timestamp"
  · simp [timestamp, knownKeys]
  by_cases sentAt : key = "sentAt" <;> simp [kind, timestamp, sentAt, knownKeys]

theorem foldl_insert_others (ms : List (String × Value)) :
    ms.foldl (fun o m => if m.1 ∈ knownKeys then o else o.insert m.1 m.2) Object.empty =
      otherMembers (Object.ofMembers ms) := by
  refine Object.ext_get? fun key => ?_
  rw [get?_otherMembers]
  induction ms using List.reverseRecOn with
  | nil => simp [Object.ofMembers]
  | append_singleton ms m ih =>
    rw [List.foldl_append, Object.ofMembers_concat, Object.get?_insert]
    change (if m.1 ∈ knownKeys then _ else _ : Object).get? key = _
    by_cases known : m.1 ∈ knownKeys
    · rw [if_pos known, ih]
      by_cases same : key = m.1
      · rw [same, if_pos known, if_pos known]
      · rw [if_neg same]
    · rw [if_neg known, Object.get?_insert, ih]
      by_cases same : key = m.1
      · rw [if_pos same, same, if_neg known, if_pos rfl]
      · rw [if_neg same, if_neg same]

/-- What an event is made of is found in an object. -/
structure Sofar.FoundIn (s : Sofar) (o : Object) : Prop where
  kind : slotOf textOf (o.get? "type") = .ok s.kind
  timestamp : slotOf textOf (o.get? "timestamp") = .ok s.timestamp
  sentAt : slotOf optionalTextOf (o.get? "sentAt") = .ok s.sentAt
  fields : s.fields = otherMembers o

def KnownOnce (ms : List (String × Value)) : Prop := ∀ key ∈ knownKeys, (ms.map Prod.fst).count key ≤ 1

theorem Sofar.foldlM_take_empty_eq_ok_iff {s : Sofar} {ms : List (String × Value)} :
    ms.foldlM Sofar.take Sofar.empty = .ok s ↔ KnownOnce ms ∧ s.FoundIn (Object.ofMembers ms) := by
  have once : KnownOnce ms ↔ (ms.map Prod.fst).count "type" ≤ 1 ∧
      (ms.map Prod.fst).count "timestamp" ≤ 1 ∧ (ms.map Prod.fst).count "sentAt" ≤ 1 := by
    simp [KnownOnce, knownKeys]
  rw [foldlM_take_eq_ok_iff, once]
  simp only [Sofar.empty, foldlM_takeSlot_eq_ok_iff, foldl_insert_others]
  constructor
  · rintro ⟨⟨kinds, kind⟩, ⟨timestamps, timestamp⟩, ⟨sentAts, sentAt⟩, fields⟩
    exact ⟨⟨kinds, timestamps, sentAts⟩, ⟨kind, timestamp, sentAt, fields⟩⟩
  · rintro ⟨⟨kinds, timestamps, sentAts⟩, ⟨kind, timestamp, sentAt, fields⟩⟩
    exact ⟨⟨kinds, kind⟩, ⟨timestamps, timestamp⟩, ⟨sentAts, sentAt⟩, fields⟩

section

variable {α β : Type} {accept : Found → Except Mismatch α} {v : Option Value}
  {next : α → Except Mismatch β} {b : β}

theorem lookUp_eq_ok_iff {other : Except Mismatch α} :
    (match v with
      | some v => accept v.found >>= next
      | none => other >>= next) = .ok b ↔
    ∃ slot, slotOf accept v = .ok slot ∧ slot.elim other .ok >>= next = .ok b := by
  cases v with
  | none =>
    constructor
    · intro h
      exact ⟨none, rfl, h⟩
    · rintro ⟨slot, looked, h⟩
      cases looked
      exact h
  | some v =>
    constructor
    · intro h
      obtain ⟨a, accepted, h⟩ := Json.bind_eq_ok_iff.1 h
      exact ⟨some a, Json.map_eq_ok_iff.2 ⟨a, accepted, rfl⟩, h⟩
    · rintro ⟨slot, looked, h⟩
      obtain ⟨a, accepted, rfl⟩ := Json.map_eq_ok_iff.1 looked
      exact Json.bind_eq_ok_iff.2 ⟨a, accepted, h⟩

theorem elim_bind {slot : Option α} {d : α} : slot.elim (.ok d) .ok >>= next = next (slot.getD d) := by
  cases slot <;> rfl

end

theorem ofObject_eq_ok_iff {now : String} {o : Object} {e : Event} :
    ofObject now o = .ok e ↔ ∃ s : Sofar, s.FoundIn o ∧ s.finish now = .ok e := by
  constructor
  · intro made
    obtain ⟨c, sentAt, made⟩ := lookUp_eq_ok_iff.1 made
    rw [elim_bind] at made
    obtain ⟨b, timestamp, made⟩ := lookUp_eq_ok_iff.1 made
    rw [elim_bind] at made
    obtain ⟨a, kind, made⟩ := lookUp_eq_ok_iff.1 made
    cases a with
    | none => cases made
    | some a => exact ⟨⟨some a, b, c, otherMembers o⟩, ⟨kind, timestamp, sentAt, rfl⟩, made⟩
  · rintro ⟨⟨a, b, c, fields⟩, ⟨kind, timestamp, sentAt, rfl⟩, finished⟩
    cases a with
    | none => cases finished
    | some a =>
      refine lookUp_eq_ok_iff.2 ⟨c, sentAt, ?_⟩
      rw [elim_bind]
      refine lookUp_eq_ok_iff.2 ⟨b, timestamp, ?_⟩
      rw [elim_bind]
      exact lookUp_eq_ok_iff.2 ⟨some a, kind, finished⟩

/-! ### Both readers -/

section

variable {now : String} {cs behind : List Char} {e : Event} {v : Value}

theorem ofChars_eq_ok_iff (opened : Json.skipBlank cs = '\x7b' :: behind) : ofChars now cs = .ok e ↔
    ∃ ms rest, Json.readMembers Json.strict (Json.depthLimit - 1) behind = .ok (ms, rest) ∧
      KnownOnce ms ∧ ofObject now (Object.ofMembers ms) = .ok e ∧ Json.expectEnd rest = .ok () := by
  unfold ofChars
  rw [opened]
  constructor
  · intro read
    obtain ⟨⟨s, rest⟩, folded, read⟩ := Json.bind_eq_ok_iff.1 read
    obtain ⟨ms, listed, taken⟩ := Sofar.steps_take.foldMembers_eq_ok_iff.1 folded
    obtain ⟨once, found⟩ := Sofar.foldlM_take_empty_eq_ok_iff.1 taken
    dsimp only at read
    split at read
    next e' finished =>
      obtain ⟨_, ended, read⟩ := Json.bind_eq_ok_iff.1 read
      cases read
      exact ⟨ms, rest, listed, once, ofObject_eq_ok_iff.2 ⟨s, found, finished⟩, ended⟩
    · cases read
  · rintro ⟨ms, rest, listed, once, made, ended⟩
    obtain ⟨s, found, finished⟩ := ofObject_eq_ok_iff.1 made
    have folded := Sofar.steps_take.foldMembers_eq_ok_iff.2
      ⟨ms, listed, Sofar.foldlM_take_empty_eq_ok_iff.2 ⟨once, found⟩⟩
    refine Json.bind_eq_ok_iff.2 ⟨(s, rest), folded, ?_⟩
    dsimp only
    rw [finished]
    exact Json.bind_eq_ok_iff.2 ⟨(), ended, rfl⟩

theorem ofChars_ne_ok (unopened : ∀ behind, Json.skipBlank cs ≠ '\x7b' :: behind) :
    ofChars now cs ≠ .ok e := by
  intro read
  unfold ofChars at read
  split at read
  next behind opened => exact unopened behind opened
  next =>
    obtain ⟨p, -, read⟩ := Json.bind_eq_ok_iff.1 read
    cases read

theorem ofCharsWithin_eq_ok_iff (opened : Json.skipBlank cs = '\x7b' :: behind) :
    Value.ofCharsWithin Json.depthLimit cs = .ok v ↔
      ∃ ms rest, Json.readMembers Json.strict (Json.depthLimit - 1) behind = .ok (ms, rest) ∧
        v = Value.object (Object.ofMembers ms) ∧ Json.expectEnd rest = .ok () := by
  constructor
  · intro read
    obtain ⟨⟨w, rest⟩, read, closed⟩ := Json.bind_eq_ok_iff.1 read
    obtain ⟨_, ended, same⟩ := Json.bind_eq_ok_iff.1 closed
    cases same
    obtain ⟨ms, listed, value⟩ := (Json.readValue_object_iff opened).1 read
    exact ⟨ms, rest, listed, value, ended⟩
  · rintro ⟨ms, rest, listed, rfl, ended⟩
    exact Json.bind_eq_ok_iff.2 ⟨(_, rest), (Json.readValue_object_iff opened).2 ⟨ms, listed, rfl⟩,
      Json.bind_eq_ok_iff.2 ⟨(), ended, rfl⟩⟩

theorem toObject?_of_ofCharsWithin (unopened : ∀ behind, Json.skipBlank cs ≠ '\x7b' :: behind)
    {depth : Nat} (read : Value.ofCharsWithin depth cs = .ok v) : v.toObject? = none := by
  obtain ⟨⟨w, rest⟩, read, closed⟩ := Json.bind_eq_ok_iff.1 read
  obtain ⟨-, -, same⟩ := Json.bind_eq_ok_iff.1 closed
  cases same
  by_cases list : ∃ behind, Json.skipBlank cs = '[' :: behind
  · obtain ⟨behind, opened⟩ := list
    exact Json.toObject?_of_found (Json.found_of_readValue_list opened read)
  · rw [Json.readValue_of_scalar (not_exists.1 list) unopened] at read
    exact Json.toObject?_of_readScalar read

theorem membersOf_eq {text : String} {ms : List (String × Value)} {rest : List Char}
    (opened : Json.skipBlank text.toList = '\x7b' :: behind)
    (listed : Json.readMembers Json.strict (Json.depthLimit - 1) behind = .ok (ms, rest)) :
    Json.membersOf text = ms := by
  simp only [Json.membersOf, opened, listed]

theorem get?_of_ofObject {o : Object} (made : ofObject now o = .ok e) (key : String) :
    e.get? key = if key ∈ knownKeys then none else o.get? key := by
  obtain ⟨s, found, finished⟩ := ofObject_eq_ok_iff.1 made
  unfold Sofar.finish at finished
  split at finished
  · cases finished
    rw [get?, found.fields, get?_otherMembers]
  · cases finished

end

theorem ofText_eq_ok_iff {now text : String} {e : Event} : ofText now text = .ok e ↔
    (∃ v, Value.ofText text = .ok v ∧ ofValue now v = .ok e) ∧ KnownOnce (Json.membersOf text) := by
  by_cases object : ∃ behind, Json.skipBlank text.toList = '\x7b' :: behind
  · obtain ⟨behind, opened⟩ := object
    rw [ofText, ofChars_eq_ok_iff opened]
    constructor
    · rintro ⟨ms, rest, listed, once, made, ended⟩
      rw [membersOf_eq opened listed]
      exact ⟨⟨_, (ofCharsWithin_eq_ok_iff opened).2 ⟨ms, rest, listed, rfl, ended⟩, made⟩, once⟩
    · rintro ⟨⟨v, read, made⟩, once⟩
      obtain ⟨ms, rest, listed, rfl, ended⟩ := (ofCharsWithin_eq_ok_iff opened).1 read
      rw [membersOf_eq opened listed] at once
      exact ⟨ms, rest, listed, once, made, ended⟩
  · have unopened := not_exists.1 object
    constructor
    · intro read
      exact absurd read (ofChars_ne_ok unopened)
    · rintro ⟨⟨v, read, made⟩, -⟩
      rw [ofValue, toObject?_of_ofCharsWithin unopened read] at made
      cases made

theorem get?_of_ofText {now text : String} {e : Event} (read : ofText now text = .ok e) {key : String}
    (other : key ∉ knownKeys) : e.get? key = Entries.find? key (Json.membersOf text).reverse := by
  by_cases object : ∃ behind, Json.skipBlank text.toList = '\x7b' :: behind
  · obtain ⟨behind, opened⟩ := object
    obtain ⟨ms, rest, listed, -, made, -⟩ := (ofChars_eq_ok_iff opened).1 read
    rw [membersOf_eq opened listed, get?_of_ofObject made, if_neg other, Object.get?_ofMembers]
  · exact absurd read (ofChars_ne_ok (not_exists.1 object))

/-- A text is read as an event straight away if and only if it is read as a value, an event is made of the
value, and no known key is met twice; the events are the same. Of any other key that is repeated the last
stands, in an event and, since every object is read by its members, in whatever stands inside it. -/
theorem readers_agree (now text : String) :
    (∀ e, ofText now text = .ok e ↔
      (∃ v, Value.ofText text = .ok v ∧ ofValue now v = .ok e) ∧ KnownOnce (Json.membersOf text)) ∧
    (∀ e, ofText now text = .ok e → ∀ key ∉ knownKeys,
      e.get? key = Entries.find? key (Json.membersOf text).reverse) ∧
    ∀ depth cs behind v rest, Json.skipBlank cs = '\x7b' :: behind →
      Json.readValue Json.strict (depth + 1) cs = .ok (v, rest) →
      ∃ ms o, Json.readMembers Json.strict depth behind = .ok (ms, rest) ∧ v = Value.object o ∧
        ∀ key, o.get? key = Entries.find? key ms.reverse := by
  refine ⟨fun e => ofText_eq_ok_iff, fun e read key other => get?_of_ofText read other, ?_⟩
  intro depth cs behind v rest opened read
  obtain ⟨ms, listed, rfl⟩ := (Json.readValue_object_iff opened).1 read
  exact ⟨ms, Object.ofMembers ms, listed, rfl, fun key => Object.get?_ofMembers ms⟩

/-- A field is repeated, and so is a member of the object that stands last. -/
def pageTwice : String := "\x7b\"type\":\"page\",\"n\":1,\"n\":\x7b\"m\":1,\"m\":2\x7d\x7d"

theorem readers_agree_pageTwice : ∃ e, ofText "" pageTwice = .ok e ∧
    (∃ v, Value.ofText pageTwice = .ok v ∧ ofValue "" v = .ok e) ∧
      KnownOnce (Json.membersOf pageTwice) ∧
        e.get? "n" = some (Value.object (Object.empty.insert "m" (Value.int 2 (by decide)))) := by
  obtain ⟨agree, last_stands, -⟩ := readers_agree "" pageTwice
  have read : ofText "" pageTwice = .ok ⟨"page", "", none, Object.empty.insert "n"
    (Value.object (Object.empty.insert "m" (Value.int 2 (by decide))))⟩ := rfl
  obtain ⟨through_value, once⟩ := (agree _).1 read
  refine ⟨_, read, through_value, once, ?_⟩
  rw [last_stands _ read "n" (by simp [knownKeys])]
  rfl

end Event

end Courier
