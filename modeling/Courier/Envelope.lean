import Courier.Event.Basic

/-! The wrapping of a batch: the events with, where they are given, a context and integrations. -/
namespace Courier

structure Envelope where
  context : Option Object
  integrations : Option Object
  deriving BEq, Inhabited

namespace Envelope

def libraryName : String := "beacon"

def libraryVersion : String := "0.1.0"

def defaultContext : Object :=
  Object.ofMembers [
    ("library", Value.object (Object.ofMembers
      [("name", Value.text libraryName), ("version", Value.text libraryVersion)])),
    ("os", Value.object (Object.ofMembers [("name", Value.text "linux")]))]

def default : Envelope := ⟨some defaultContext, none⟩

def trailer (env : Envelope) : List (String × Json) :=
  (env.context.map fun o => ("context", Json.object o.members)).toList ++
    (env.integrations.map fun o => ("integrations", Json.object o.members)).toList

def body (env : Envelope) (batch : List Event) : Json :=
  .object (("batch", .list (batch.map Event.toJson)) :: env.trailer)

def encode (env : Envelope) (batch : List Event) : String := (env.body batch).render

/-- Bytes of `encode`, without writing it. -/
def encodedSize (env : Envelope) (batch : List Event) : Nat := (env.body batch).size

/-- The library that the context names, as `name/version`, if both are texts. -/
def userAgent? (env : Envelope) : Option String := do
  let library ← (← env.context).get? "library"
  let name ← (← library.get? "name").toText?
  let version ← (← library.get? "version").toText?
  some (name ++ "/" ++ version)

end Envelope

end Courier
