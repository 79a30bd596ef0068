import Courier.Delivery.Recorder

/-! A collector behind a gate: a request waits at a closed gate until it gets a permit or the gate is
opened. -/
namespace Courier

structure Gate where
  isOpen : Bool
  permits : Nat

namespace Gate

/-- An open gate takes no permits. -/
def pass? (g : Gate) : Option Gate :=
  if g.isOpen then some g
  else match g.permits with
    | 0 => none
    | permits + 1 => some { g with permits := permits }

def hold (g : Gate) : Gate := { g with isOpen := false }

def release (g : Gate) : Gate := { g with isOpen := true }

def permit (g : Gate) : Gate := { g with permits := g.permits + 1 }

end Gate

structure Collector where
  gate : Gate
  script : Script Answer
  received : List Request

def Collector.answer? (request : Request) (c : Collector) : Option (Answer × Collector) :=
  c.gate.pass?.map fun gate =>
    let (answer, script) := c.script.take
    (answer, ⟨gate, script, c.received ++ [request]⟩)

def Collector.onGate (f : Gate → Gate) (c : Collector) : Collector := { c with gate := f c.gate }

end Courier
