import Courier.Engine.Journal
import Courier.Text.Cutting

/-! How much is logged: everything up to a level, or nothing. -/
namespace Courier.Command

structure Threshold where
  level : Option Level
  deriving DecidableEq

namespace Threshold

def off : Threshold := ⟨none⟩

def default : Threshold := ⟨some .warn⟩

def named : List (Nat × String × Threshold) := [
  (0, "off", off), (1, "error", ⟨some .error⟩), (2, "warn", ⟨some .warn⟩),
  (3, "info", ⟨some .info⟩), (4, "debug", ⟨some .debug⟩), (5, "trace", ⟨some .trace⟩)]

def name (t : Threshold) : String :=
  ((named.find? fun entry => entry.2.2 = t).map fun entry => entry.2.1).getD ""

def number? (cs : List Char) : Option Nat :=
  let digits := match cs with
    | '+' :: rest => rest
    | _ => cs
  if digits.isEmpty || !digits.all Char.isDigit then none
  else some (digits.foldl (fun n c => 10 * n + (c.toNat - '0'.toNat)) 0)

/-- A number, a name in any case, or nothing, which stands for errors only. -/
def ofText? (s : String) : Option Threshold :=
  let s := Text.trim s
  match number? s.toList with
  | some n => (named.find? fun entry => entry.1 = n).map fun entry => entry.2.2
  | none =>
    if s = "" then some ⟨some .error⟩
    else (named.find? fun entry => entry.2.1 = s.map Char.toLower).map fun entry => entry.2.2

def allows (t : Threshold) (l : LogLine) : Bool := t.level.any (l.level.rank ≤ Level.rank ·)

def ofVariable : Option String → Threshold × List String
  | none => (default, [])
  | some s =>
    match ofText? s with
    | some t => (t, [])
    | none => (default, ["Invalid LOG_LEVEL " ++ s ++ ", using " ++ default.name])

end Threshold

end Courier.Command
