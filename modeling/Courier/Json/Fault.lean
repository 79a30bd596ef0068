import Courier.Text.Shown
import Courier.Json.Printer

/-! What can be wrong with a text that is read: it ends too early, it is malformed, or it is well
formed and a value in it is not what its place asks for. -/
namespace Courier

inductive Found where
  | null
  | boolean (b : Bool)
  | integer (n : Int)
  | float (x : Float)
  | text (s : String)
  | sequence
  | map

inductive Mismatch where
  | missingField (name : String)
  | duplicateField (name : String)
  | wrongType (found : Found) (expected : String)
  | wrongValue (found : Found) (expected : String)

/-- Formats spell floats in their own way, so the layout comes with the format. -/
def Found.describe (layout : Decimal.Layout) : Found → String
  | .null => "null"
  | .boolean b => "boolean `" ++ toString b ++ "`"
  | .integer n => "integer `" ++ toString n ++ "`"
  | .float x => "floating point `" ++ layout.render x ++ "`"
  | .text s => "string " ++ Text.quoted s
  | .sequence => "sequence"
  | .map => "map"

def Mismatch.message (layout : Decimal.Layout) : Mismatch → String
  | .missingField name => "missing field `" ++ name ++ "`"
  | .duplicateField name => "duplicate field `" ++ name ++ "`"
  | .wrongType found expected =>
    "invalid type: " ++ found.describe layout ++ ", expected " ++ expected
  | .wrongValue found expected =>
    "invalid value: " ++ found.describe layout ++ ", expected " ++ expected

namespace Json

inductive Fault where
  | truncated
  | malformed
  | mismatch (m : Mismatch)

theorem bind_eq_ok_iff {ε α β : Type} {x : Except ε α} {f : α → Except ε β} {b : β} :
    x >>= f = .ok b ↔ ∃ a, x = .ok a ∧ f a = .ok b := by
  cases x with
  | error e => exact ⟨fun h => (nomatch h), fun ⟨_, h, _⟩ => nomatch h⟩
  | ok a => exact ⟨fun h => ⟨a, rfl, h⟩, fun ⟨_, rfl, h⟩ => h⟩

theorem map_eq_ok_iff {ε α β : Type} {x : Except ε α} {f : α → β} {b : β} :
    x.map f = .ok b ↔ ∃ a, x = .ok a ∧ f a = b := by
  cases x with
  | error e => exact ⟨fun h => (nomatch h), fun ⟨_, h, _⟩ => nomatch h⟩
  | ok a => exact ⟨fun h => ⟨a, rfl, Except.ok.inj h⟩, fun ⟨_, rfl, h⟩ => congrArg _ h⟩

end Json

def Value.found : Value → Found
  | ⟨.null, _⟩ => .null
  | ⟨.bool b, _⟩ => .boolean b
  | ⟨.int n, _⟩ => .integer n
  | ⟨.float x, _⟩ => .float x
  | ⟨.str s, _⟩ => .text s
  | ⟨.list _, _⟩ => .sequence
  | ⟨.object _, _⟩ => .map

end Courier
