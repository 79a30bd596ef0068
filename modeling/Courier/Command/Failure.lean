import Courier.Delivery.Error
import Courier.Settings.Document

/-! Why the command fails, and how it says so: what happened, and below it the chain of causes. Lines
of input are counted from one. -/
namespace Courier.Command

inductive Failure where
  | settings (e : SettingsError)
  | notStarted (e : ClientError)
  | unreadableInput (cause : String)
  | notJson (line : Nat) (e : Json.Fault)
  | notEvent (line : Nat) (e : Mismatch)

namespace Failure

def faultText : Json.Fault → String
  | .truncated => "unexpected end of text"
  | .malformed => "malformed text"
  | .mismatch m => m.message Json.floatLayout

def message : Failure → String
  | settings e => e.message
  | notStarted _ => "Unable to start client"
  | unreadableInput _ => "Unable to read stdin"
  | notJson line _ => "Line " ++ toString line ++ " is not valid JSON"
  | notEvent line _ => "Line " ++ toString line ++ " is not an event"

def causes : Failure → List String
  | settings e => e.sources
  | notStarted e => e.message :: e.sources
  | unreadableInput cause => [cause]
  | notJson _ e => [faultText e]
  | notEvent _ m => [m.message Json.floatLayout]

/-- Several causes are numbered, a single one is not. -/
def causeLines : List String → List String
  | [] => []
  | [cause] => ["", "Caused by:", "    " ++ cause]
  | causes => "" :: "Caused by:" ::
      causes.zipIdx.map fun (cause, i) => "    " ++ toString i ++ ": " ++ cause

def lines (f : Failure) : List String := ("Error: " ++ f.message) :: causeLines f.causes

end Failure

end Courier.Command
