import Courier.Settings.Basic

/-! Deadlines and retries, in milliseconds from an arbitrary origin. A `Schedule` holds at most one
deadline for flushing and one for retrying; arming one only ever moves it earlier. -/
namespace Courier

structure RetryPolicy where
  maxRetries : Nat
  interval : Nat

namespace RetryPolicy

def ofSettings (s : Settings) : RetryPolicy := ⟨s.maxRetries.toNat, s.retryIntervalMs.toNat⟩

def shouldRetry (p : RetryPolicy) (failures : Nat) : Bool := failures < p.maxRetries

def remaining (p : RetryPolicy) (failures : Nat) : Nat := p.maxRetries - failures

def nextRetry (p : RetryPolicy) (now : Nat) : Nat := now + p.interval

end RetryPolicy

structure Schedule where
  flush : Option Nat
  retry : Option Nat
  deriving DecidableEq, Inhabited

namespace Schedule

def never : Schedule := ⟨none, none⟩

def earlier (deadline : Option Nat) (time : Nat) : Option Nat :=
  match deadline with
  | some t => some (min t time)
  | none => some time

def armFlush (time : Nat) (s : Schedule) : Schedule := { s with flush := earlier s.flush time }

def armRetry (time : Nat) (s : Schedule) : Schedule := { s with retry := earlier s.retry time }

def clearRetry (s : Schedule) : Schedule := { s with retry := none }

def next (s : Schedule) : Option Nat :=
  match s.flush, s.retry with
  | some f, some r => some (min f r)
  | some f, none => some f
  | none, r => r

def isDue (now : Nat) (s : Schedule) : Bool := s.next.any (· ≤ now)

end Schedule

end Courier
