import Courier.Entries
import Courier.Envelope
import Courier.Settings.Basic
import Courier.Text.Encoding
import Courier.Delivery.Error

/-! What a batch is sent as, and what comes back. -/
namespace Courier

/-- Headers are in ascending order of their names. -/
structure Request where
  method : String
  url : String
  headers : List (String × String)
  body : String
  deriving DecidableEq

structure Response where
  status : Nat
  body : String
  deriving DecidableEq

def Response.isSuccess (r : Response) : Bool := 200 ≤ r.status && r.status < 300

inductive Answer where
  | response (r : Response)
  | failed (e : TransportError)
  | panicked

def Answer.ofResult : Except TransportError Response → Answer
  | .ok r => response r
  | .error e => failed e

/-- Anything but a response of success is a failed attempt. -/
def Answer.result : Answer → Except AttemptError Unit
  | response r => if r.isSuccess then .ok () else .error (.status r.status r.body)
  | failed e => .error (.transport e)
  | panicked => .error (.transport (.request "transport panicked"))

structure Target where
  url : String
  headers : List (String × String)

namespace Target

/-- The write key is the user name of a login without a password. -/
def authorization (writeKey : String) : String := "Basic " ++ Text.base64 (writeKey ++ ":")

def baseHeaders (writeKey : String) : List (String × String) :=
  Entries.insert "Authorization" (authorization writeKey)
    (Entries.insert "Content-Type" "application/json"
      (Entries.insert "Accept" "application/json" []))

def ofSettings (s : Settings) (env : Envelope) : Target where
  url := s.batchUrl
  headers := match env.userAgent? with
    | some agent => Entries.insert "User-Agent" agent (baseHeaders s.writeKey)
    | none => baseHeaders s.writeKey

def request (t : Target) (body : String) : Request := ⟨"POST", t.url, t.headers, body⟩

end Target

end Courier
