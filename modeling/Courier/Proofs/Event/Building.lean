import Courier.Event.Shorthand
import Courier.Proofs.Json.Objects

/-! Events as they are built. Of several edits of one thing the last decides, so that an event is known
by the last edit of each of its fields and of its time, whatever came before and in whatever order. -/
namespace Courier

namespace Edit

/-- The last edit of a field, or of the time where no field is named. -/
def last? (target : Option String) (edits : List Edit) : Option Edit :=
  edits.reverse.find? (·.target? = target)

theorem last?_concat (target : Option String) (edits : List Edit) (c : Edit) :
    last? target (edits ++ [c]) = if c.target? = target then some c else last? target edits := by
  rw [last?, List.reverse_append, List.reverse_singleton, List.singleton_append, List.find?_cons]
  by_cases aimed : c.target? = target
  · rw [if_pos aimed, decide_eq_true aimed]
  · rw [if_neg aimed, decide_eq_false aimed]
    rfl

theorem last?_eq_none_iff {target : Option String} {edits : List Edit} :
    last? target edits = none ↔ ∀ c ∈ edits, c.target? ≠ target := by
  simp [last?, List.find?_eq_none]

theorem target?_eq_none_iff {c : Edit} : c.target? = none ↔ ∃ time, c = .timestamp time := by
  cases c with
  | timestamp time => exact ⟨fun _ => ⟨time, rfl⟩, fun _ => rfl⟩
  | text | object | field => exact ⟨nofun, nofun⟩

def time? : Edit → Option String
  | .timestamp time => some time
  | _ => none

end Edit

namespace Event

variable {e : Event} {c : Edit} {key : String}

theorem get?_put (key k : String) (v : Option Value) (e : Event) :
    (e.put key v).get? k = if k = key then v else e.get? k := by
  cases v with
  | some v => exact Object.get?_insert
  | none => exact Object.get?_erase

theorem get?_edit (e : Event) (c : Edit) (key : String) :
    (e.edit c).get? key = if c.target? = some key then c.written? else e.get? key := by
  have aimed (k : String) (v : Option Value) :
      (e.put k v).get? key = if some k = some key then v else e.get? key := by
    rw [get?_put]
    by_cases same : key = k
    · rw [if_pos same, if_pos (congrArg some same.symm)]
    · rw [if_neg same, if_neg fun h => same (Option.some.inj h).symm]
  cases c with
  | text k value => exact aimed k _
  | object k value => exact aimed k _
  | field k value => exact aimed k _
  | timestamp time => rfl

theorem timestamp_edit (e : Event) (c : Edit) :
    (e.edit c).timestamp = c.time?.getD e.timestamp := by
  cases c <;> rfl

theorem kind_edit (e : Event) (c : Edit) : (e.edit c).kind = e.kind := by
  cases c <;> rfl

theorem sentAt_edit (e : Event) (c : Edit) : (e.edit c).sentAt = e.sentAt := by
  cases c <;> rfl

theorem editAll_concat (e : Event) (edits : List Edit) (c : Edit) :
    e.editAll (edits ++ [c]) = (e.editAll edits).edit c := List.foldl_append

theorem editAll_append (e : Event) (edits more : List Edit) :
    e.editAll (edits ++ more) = (e.editAll edits).editAll more := List.foldl_append

/-! ### The last edit decides -/

theorem get?_editAll (e : Event) (edits : List Edit) (key : String) :
    (e.editAll edits).get? key = (Edit.last? (some key) edits).elim (e.get? key) Edit.written? := by
  induction edits using List.reverseRecOn with
  | nil => rfl
  | append_singleton edits c ih =>
    rw [editAll_concat, get?_edit, ih, Edit.last?_concat]
    split <;> rfl

theorem timestamp_editAll (e : Event) (edits : List Edit) :
    (e.editAll edits).timestamp = ((Edit.last? none edits).bind Edit.time?).getD e.timestamp := by
  induction edits using List.reverseRecOn with
  | nil => rfl
  | append_singleton edits c ih =>
    rw [editAll_concat, timestamp_edit, ih, Edit.last?_concat]
    split
    next aimed =>
      obtain ⟨time, rfl⟩ := Edit.target?_eq_none_iff.1 aimed
      rfl
    next astray => cases c <;> first | rfl | exact absurd rfl astray

theorem kind_editAll (e : Event) (edits : List Edit) : (e.editAll edits).kind = e.kind := by
  induction edits using List.reverseRecOn with
  | nil => rfl
  | append_singleton edits c ih => rw [editAll_concat, kind_edit, ih]

theorem sentAt_editAll (e : Event) (edits : List Edit) : (e.editAll edits).sentAt = e.sentAt := by
  induction edits using List.reverseRecOn with
  | nil => rfl
  | append_singleton edits c ih => rw [editAll_concat, sentAt_edit, ih]

theorem ext_get? {e' : Event} (kind : e.kind = e'.kind) (timestamp : e.timestamp = e'.timestamp)
    (sentAt : e.sentAt = e'.sentAt) (same : ∀ key, e.get? key = e'.get? key) : e = e' := by
  obtain ⟨kind₁, timestamp₁, sentAt₁, fields₁⟩ := e
  obtain ⟨kind₂, timestamp₂, sentAt₂, fields₂⟩ := e'
  cases kind
  cases timestamp
  cases sentAt
  cases Object.ext_get? same
  rfl

theorem editAll_congr (e : Event) {edits edits' : List Edit}
    (same : ∀ target, Edit.last? target edits = Edit.last? target edits') :
    e.editAll edits = e.editAll edits' := by
  apply ext_get?
  · rw [kind_editAll, kind_editAll]
  · rw [timestamp_editAll, timestamp_editAll, same none]
  · rw [sentAt_editAll, sentAt_editAll]
  · intro key
    rw [get?_editAll, get?_editAll, same (some key)]

def history (o : Opening) (edits : List Edit) : List Edit := o.edits ++ edits

theorem opened_eq_editAll (now : String) (o : Opening) (edits : List Edit) :
    opened now o edits = (Event.new o.kind now).editAll (history o edits) :=
  (editAll_append _ o.edits edits).symm

theorem get?_opened (now : String) (o : Opening) (edits : List Edit) (key : String) :
    (opened now o edits).get? key = (Edit.last? (some key) (history o edits)).bind Edit.written? := by
  have unset : (Event.new o.kind now).get? key = none := Object.get?_empty
  rw [opened_eq_editAll, get?_editAll, unset]
  cases Edit.last? (some key) (history o edits) <;> rfl

theorem timestamp_opened (now : String) (o : Opening) (edits : List Edit) :
    (opened now o edits).timestamp = ((Edit.last? none (history o edits)).bind Edit.time?).getD now := by
  rw [opened_eq_editAll, timestamp_editAll]
  rfl

/-- What an event is by the last edit of each of its parts. -/
structure LastEdited (now : String) (o : Opening) (edits : List Edit) (e : Event) : Prop where
  kind : e.kind = o.kind
  sentAt : e.sentAt = none
  timestamp : e.timestamp = match Edit.last? none (history o edits) with
    | some (.timestamp time) => time
    | _ => now
  field : ∀ key, e.get? key = match Edit.last? (some key) (history o edits) with
    | some (.text _ value) => if value = "" then none else some (Value.text value)
    | some (.object _ value) => if value.toObject?.isSome then some value else none
    | some (.field _ value) => some value
    | some (.timestamp _) => none
    | none => none

/-- The last edit of each part decides, and events whose parts have the same last edits are written
alike. -/
theorem last_edit_decides (now : String) (o : Opening) :
    (∀ edits, LastEdited now o edits (opened now o edits)) ∧
      ∀ edits edits',
        (∀ target, Edit.last? target (history o edits) = Edit.last? target (history o edits')) →
        (opened now o edits).text = (opened now o edits').text := by
  refine ⟨fun edits => ⟨?_, ?_, ?_, fun key => ?_⟩, fun edits edits' same => ?_⟩
  · rw [opened_eq_editAll, kind_editAll]
    rfl
  · rw [opened_eq_editAll, sentAt_editAll]
    rfl
  · rw [timestamp_opened]
    cases Edit.last? none (history o edits) with
    | none => rfl
    | some c => cases c <;> rfl
  · rw [get?_opened]
    cases Edit.last? (some key) (history o edits) with
    | none => rfl
    | some c => cases c <;> rfl
  · rw [opened_eq_editAll, opened_eq_editAll, editAll_congr _ same]

/-- The user that the opening names is replaced and then removed. -/
def renamedAndRemoved : List Edit :=
  [Edit.userId "b", .timestamp "2024-02-29T12:34:56.789Z", .field "n" Value.null, Edit.userId ""]

def removed : List Edit :=
  [Edit.userId "", .field "n" Value.null, .timestamp "2024-02-29T12:34:56.789Z"]

theorem last_edit_decides_removed :
    (opened "" (.identify "a") renamedAndRemoved).text = (opened "" (.identify "a") removed).text ∧
      (opened "" (.identify "a") renamedAndRemoved).get? "userId" = none ∧
      (opened "" (.identify "a") renamedAndRemoved).get? "n" = some Value.null := by
  obtain ⟨decided, alike⟩ := last_edit_decides "" (.identify "a")
  have same (target : Option String) :
      Edit.last? target (history (.identify "a") renamedAndRemoved) =
        Edit.last? target (history (.identify "a") removed) := by
    by_cases met : target ∈ [some "userId", some "n", none]
    · simp only [List.mem_cons, List.not_mem_nil, or_false] at met
      rcases met with rfl | rfl | rfl <;> rfl
    · have unmet (edits : List Edit) (aims : ∀ c ∈ edits, c.target? ∈ [some "userId", some "n", none]) :
          Edit.last? target edits = none :=
        Edit.last?_eq_none_iff.2 fun c hc aimed => met (aimed ▸ aims c hc)
      rw [unmet _ (by decide), unmet _ (by decide)]
  exact ⟨alike _ _ same, (decided _).field "userId", (decided _).field "n"⟩

end Event

end Courier
