import Courier.Json.Reader
import Courier.Delivery.Request

/-! A transport in memory: it keeps every request and answers from a script. -/
namespace Courier

/-- Things to hand out in order, and what to hand out when they are used up. -/
structure Script (α : Type) where
  next : List α
  fallback : α

def Script.take (s : Script α) : α × Script α :=
  match s.next with
  | a :: rest => (a, { s with next := rest })
  | [] => (s.fallback, s)

def Script.extend (more : List α) (s : Script α) : Script α := { s with next := s.next ++ more }

inductive Reply where
  | status (code : Nat)
  | refuse (reason : String)

def Reply.result : Reply → Except TransportError Response
  | status code => .ok ⟨code, ""⟩
  | refuse reason => .error (.connect reason)

structure Recorder where
  script : Script Reply
  requests : List Request

namespace Recorder

def new (fallback : Reply) : Recorder := ⟨⟨[], fallback⟩, []⟩

def accepting : Recorder := new (.status 200)

def refusing : Recorder := new (.refuse "Connection refused")

def withScript (replies : List Reply) (r : Recorder) : Recorder :=
  { r with script := r.script.extend replies }

def deliver (r : Recorder) (request : Request) : Except TransportError Response × Recorder :=
  let (reply, script) := r.script.take
  (reply.result, ⟨script, r.requests ++ [request]⟩)

def attempts (r : Recorder) : Nat := r.requests.length

/-- The list named `batch` of a body, if the body is an object that has one. -/
def batchOf (body : String) : Option (List Value) :=
  match Value.ofText body with
  | .ok v => (v.get? "batch").bind Value.toList?
  | .error _ => none

def batches (r : Recorder) : List (List Value) := r.requests.filterMap fun q => batchOf q.body

end Recorder

end Courier
