import Courier.Envelope
import Courier.Delivery.Schedule

/-! What the callers of a client and its worker share: the events queued, the batch made of them, and
what decides when that batch is sent. A handler is whoever is told of outcomes. -/
namespace Courier

structure Backlog (η : Type) where
  queue : List Event
  batch : List Event
  /-- Events of a finished batch whose outcome is still being reported. -/
  settling : Nat
  schedule : Schedule
  /-- Failed attempts since the last success, or since nothing was left to deliver. -/
  failures : Nat
  needFlush : Bool
  /-- Callers that wait for everything to be delivered. -/
  waiters : Nat
  closing : Bool
  handler : Option η

namespace Backlog

def new (handler : Option η) : Backlog η := ⟨[], [], 0, Schedule.never, 0, false, 0, false, handler⟩

def isDrained (b : Backlog η) : Bool := b.queue.isEmpty && b.batch.isEmpty && b.settling == 0

def isUrgent (b : Backlog η) : Bool := b.needFlush || 0 < b.waiters

def pending (b : Backlog η) : Nat := b.queue.length + b.batch.length + b.settling

/-- An event that finds the queue empty arms the flush deadline. -/
def enqueue (e : Event) (deadline : Nat) (b : Backlog η) : Backlog η :=
  { b with
    queue := b.queue ++ [e]
    schedule := if b.queue.isEmpty then b.schedule.armFlush deadline else b.schedule }

/-- Grows a batch from the head of a queue, up to `count` events and below `size` bytes; the first
event of a batch is taken however large it is. The flag says that the size stopped it. -/
def grow (env : Envelope) (count size : Nat) :
    List Event → List Event → List Event × List Event × Bool
  | batch, [] => (batch, [], false)
  | batch, e :: queue =>
    if batch.length < count then
      if env.encodedSize (batch ++ [e]) < size then grow env count size (batch ++ [e]) queue
      else if batch.isEmpty then ([e], queue, true)
      else (batch, e :: queue, true)
    else (batch, e :: queue, false)

/-- A batch that has come to one of its bounds is ready to be sent. -/
def assemble (env : Envelope) (count size : Nat) (b : Backlog η) : Backlog η :=
  let (batch, queue, isFull) := grow env count size b.batch b.queue
  { b with
    batch := batch
    queue := queue
    needFlush := b.needFlush || isFull || count ≤ batch.length }

def stampBatch (time : String) (b : Backlog η) : Backlog η :=
  { b with batch := b.batch.map (Event.stamp time) }

def beginSettling (b : Backlog η) : Backlog η :=
  { b with batch := [], settling := b.batch.length }

def endSettling (b : Backlog η) : Backlog η := { b with settling := 0 }

def clearQueue (b : Backlog η) : Backlog η := { b with queue := [] }

def askFlush (b : Backlog η) : Backlog η := { b with needFlush := true }

def addWaiter (b : Backlog η) : Backlog η := { b with waiters := b.waiters + 1 }

def removeWaiter (b : Backlog η) : Backlog η := { b with waiters := b.waiters - 1 }

def close (b : Backlog η) : Backlog η := { b with closing := true }

def setHandler (handler : Option η) (b : Backlog η) : Backlog η := { b with handler := handler }

/-- Old failures and deadlines are forgotten; a wish to flush is not. -/
def forget (b : Backlog η) : Backlog η := { b with failures := 0, schedule := Schedule.never }

/-- Whichever deadline or wish is honoured, the attempt that follows is also the retry. -/
def beginAttempt (b : Backlog η) : Backlog η :=
  { b with needFlush := false, schedule := b.schedule.clearRetry }

def succeed (b : Backlog η) : Backlog η := { b with failures := 0 }

def failUntil (retry : Nat) (b : Backlog η) : Backlog η :=
  { b with failures := b.failures + 1, schedule := b.schedule.armRetry retry }

end Backlog

end Courier
