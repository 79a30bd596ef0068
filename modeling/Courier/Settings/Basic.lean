import Courier.Json.Fault
import Courier.Text.Cutting

/-! Settings of a client. A `Field` names one of them together with the type it holds, so readers of
every format fill the same partial settings and share one rule for what a field accepts. -/
namespace Courier

structure Settings where
  writeKey : String := ""
  host : String := "https://api.segment.io"
  maxRetries : UInt32 := 5
  retryIntervalMs : UInt64 := 1000
  flushCount : UInt64 := 250
  flushSize : UInt64 := 512000
  flushIntervalMs : UInt64 := 10000
  deriving DecidableEq, Inhabited

inductive Field where
  | writeKey
  | host
  | maxRetries
  | retryIntervalMs
  | flushCount
  | flushSize
  | flushIntervalMs
  deriving DecidableEq

namespace Field

def all : List Field :=
  [writeKey, host, maxRetries, retryIntervalMs, flushCount, flushSize, flushIntervalMs]

def name : Field → String
  | writeKey => "write_key"
  | host => "host"
  | maxRetries => "max_retries"
  | retryIntervalMs => "retry_interval_ms"
  | flushCount => "flush_count"
  | flushSize => "flush_size"
  | flushIntervalMs => "flush_interval_ms"

def ofName? (name : String) : Option Field := all.find? (fun f => f.name = name)

@[reducible] def Carrier : Field → Type
  | writeKey | host => String
  | maxRetries => UInt32
  | retryIntervalMs | flushCount | flushSize | flushIntervalMs => UInt64

def acceptText : Found → Except Mismatch String
  | .text s => .ok s
  | found => .error (.wrongType found "a string")

/-- A whole number below `bound`; `expected` names the numbers that fit. -/
def acceptWhole (bound : Nat) (expected : String) : Found → Except Mismatch Nat
  | .integer n =>
    if 0 ≤ n ∧ n < bound then .ok n.toNat else .error (.wrongValue (.integer n) expected)
  | found => .error (.wrongType found expected)

def accept : (f : Field) → Found → Except Mismatch f.Carrier
  | writeKey, found => acceptText found
  | host, found => acceptText found
  | maxRetries, found => (acceptWhole UInt32.size "u32" found).map UInt32.ofNat
  | retryIntervalMs, found => (acceptWhole UInt64.size "u64" found).map UInt64.ofNat
  | flushCount, found => (acceptWhole UInt64.size "usize" found).map UInt64.ofNat
  | flushSize, found => (acceptWhole UInt64.size "usize" found).map UInt64.ofNat
  | flushIntervalMs, found => (acceptWhole UInt64.size "u64" found).map UInt64.ofNat

def toJson : (f : Field) → f.Carrier → Json
  | writeKey, s => .str s
  | host, s => .str s
  | maxRetries, n => .int n.toNat
  | retryIntervalMs, n => .int n.toNat
  | flushCount, n => .int n.toNat
  | flushSize, n => .int n.toNat
  | flushIntervalMs, n => .int n.toNat

end Field

/-- What could not be had of settings: the file, its form, or a value in range. A document is
unparsable with a reason only if it is well formed. -/
inductive SettingsError where
  | unreadable (path cause : String)
  | unparsable (reason : Option Mismatch)
  | invalid (field reason : String)

namespace Settings

def get (s : Settings) : (f : Field) → f.Carrier
  | .writeKey => s.writeKey
  | .host => s.host
  | .maxRetries => s.maxRetries
  | .retryIntervalMs => s.retryIntervalMs
  | .flushCount => s.flushCount
  | .flushSize => s.flushSize
  | .flushIntervalMs => s.flushIntervalMs

def Partial := (f : Field) → Option f.Carrier

namespace Partial

def empty : Partial := fun _ => none

def set (p : Partial) (f : Field) (a : f.Carrier) : Partial :=
  fun g => if h : f = g then some (h ▸ a) else p g

def fill (p : Partial) : Settings where
  writeKey := (p .writeKey).getD ({} : Settings).writeKey
  host := (p .host).getD ({} : Settings).host
  maxRetries := (p .maxRetries).getD ({} : Settings).maxRetries
  retryIntervalMs := (p .retryIntervalMs).getD ({} : Settings).retryIntervalMs
  flushCount := (p .flushCount).getD ({} : Settings).flushCount
  flushSize := (p .flushSize).getD ({} : Settings).flushSize
  flushIntervalMs := (p .flushIntervalMs).getD ({} : Settings).flushIntervalMs

end Partial

def toJson (s : Settings) : Json := .object (Field.all.map fun f => (f.name, f.toJson (s.get f)))

def text (s : Settings) : String := s.toJson.render

/-- The first bound that no batch could satisfy, or a host without a visible character. -/
def check (s : Settings) : Except SettingsError Unit :=
  if Text.trim s.host = "" then .error (.invalid Field.host.name "must not be empty")
  else if s.flushCount = 0 then
    .error (.invalid Field.flushCount.name "must be greater than zero")
  else if s.flushSize = 0 then .error (.invalid Field.flushSize.name "must be greater than zero")
  else .ok ()

def base (s : Settings) : String := String.ofList (Text.dropEnd (· = '/') s.host.toList)

def batchUrl (s : Settings) : String := s.base ++ "/v1/batch"

end Settings

end Courier
