import Courier.Event.Basic

/-! Building events. An `Edit` sets or removes one thing; a text edit removes its field when the text
is empty and an object edit when the value is not an object, so optional values pass through. Events of
the standard kinds have shorthands for how they are usually submitted: by a user, with what else is
known. -/
namespace Courier

inductive Edit where
  | text (key value : String)
  | object (key : String) (value : Value)
  | field (key : String) (value : Value)
  | timestamp (time : String)

namespace Edit

def userId (id : String) : Edit := .text "userId" id

def anonymousId (id : String) : Edit := .text "anonymousId" id

def properties (v : Value) : Edit := .object "properties" v

def traits (v : Value) : Edit := .object "traits" v

def context (v : Value) : Edit := .object "context" v

def integrations (v : Value) : Edit := .object "integrations" v

def target? : Edit → Option String
  | .text key _ => some key
  | .object key _ => some key
  | .field key _ => some key
  | .timestamp _ => none

def written? : Edit → Option Value
  | .text _ value => if value = "" then none else some (Value.text value)
  | .object _ value => if value.toObject?.isSome then some value else none
  | .field _ value => some value
  | .timestamp _ => none

end Edit

namespace Event

def put (key : String) (v : Option Value) (e : Event) : Event :=
  { e with fields := match v with
      | some v => e.fields.insert key v
      | none => e.fields.erase key }

def edit (e : Event) : Edit → Event
  | .timestamp time => { e with timestamp := time }
  | .text key value => e.put key (Edit.text key value).written?
  | .object key value => e.put key (Edit.object key value).written?
  | .field key value => e.put key (Edit.field key value).written?

def editAll (e : Event) (edits : List Edit) : Event := edits.foldl edit e

end Event

/-- How an event is started; the standard kinds come with the text they are about. -/
inductive Opening where
  | other (kind : String)
  | track (event : String)
  | identify (user : String)
  | page (name : String)
  | screen (name : String)
  | aliased (previous user : String)
  | group (id : String)

namespace Opening

def kind : Opening → String
  | other kind => kind
  | track _ => Standard.track.name
  | identify _ => Standard.identify.name
  | page _ => Standard.page.name
  | screen _ => Standard.screen.name
  | aliased _ _ => Standard.aliased.name
  | group _ => Standard.group.name

def edits : Opening → List Edit
  | other _ => []
  | track event => [.text "event" event]
  | identify user => [Edit.userId user]
  | page name => [.text "name" name]
  | screen name => [.text "name" name]
  | aliased previous user => [.text "previousId" previous, Edit.userId user]
  | group id => [.text "groupId" id]

def event (o : Opening) (now : String) : Event := (Event.new o.kind now).editAll o.edits

end Opening

/-! ### Shorthands -/

namespace Event

def opened (now : String) (o : Opening) (edits : List Edit) : Event := (o.event now).editAll edits

def track (now user event : String) (properties : Value) : Event :=
  opened now (.track event) [Edit.userId user, Edit.properties properties]

def identify (now user : String) (traits : Value) : Event :=
  opened now (.identify user) [Edit.traits traits]

def page (now user name : String) (properties : Value) : Event :=
  opened now (.page name) [Edit.userId user, Edit.properties properties]

def screen (now user name : String) (properties : Value) : Event :=
  opened now (.screen name) [Edit.userId user, Edit.properties properties]

def aliased (now previous user : String) : Event := opened now (.aliased previous user) []

def group (now user id : String) (traits : Value) : Event :=
  opened now (.group id) [Edit.userId user, Edit.traits traits]

end Event

end Courier
