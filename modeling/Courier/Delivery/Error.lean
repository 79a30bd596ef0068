import Courier.Settings.Document

/-! What can go wrong with a delivery: no response, a response that is no success, or a client that
cannot be started. `sources` lists the texts of the causes, the nearest first. -/
namespace Courier

/-- No response was read. -/
inductive TransportError where
  | connect (reason : String)
  | timeout (reason : String)
  | request (reason : String)
  deriving DecidableEq

def TransportError.message : TransportError → String
  | connect reason => reason
  | timeout reason => "Request timed out: " ++ reason
  | request reason => "Request failed: " ++ reason

inductive AttemptError where
  | status (code : Nat) (body : String)
  | transport (e : TransportError)
  | encoding (reason : String)
  deriving DecidableEq

namespace AttemptError

def message : AttemptError → String
  | status code _ => "Unexpected HTTP status " ++ toString code
  | transport e => e.message
  | encoding reason => "Failed to encode envelope: " ++ reason

def sources : AttemptError → List String
  | status _ _ => []
  | transport _ => []
  | encoding reason => [reason]

def isRetryable : AttemptError → Bool
  | status _ _ => true
  | transport _ => true
  | encoding _ => false

end AttemptError

inductive ClientError where
  | settings (e : SettingsError)
  | transport (e : TransportError)
  | noTransport
  | noWorker (reason : String)

namespace ClientError

def message : ClientError → String
  | settings e => "Configuration error: " ++ e.message
  | transport e => "Failed to create transport: " ++ e.message
  | noTransport => "No transport configured"
  | noWorker reason => "Failed to spawn delivery worker: " ++ reason

def sources : ClientError → List String
  | settings e => e.message :: e.sources
  | transport e => [e.message]
  | noTransport => []
  | noWorker reason => [reason]

end ClientError

end Courier
