import Courier.Settings.Basic
import Courier.Toml.Reader

/-! Settings from a TOML document, or from a file that holds one, by whatever reads files. Keys are looked
at in the order the document has them, unknown ones are passed over, and the settings are checked before
they are handed out. -/
namespace Courier

namespace Settings

/-- Always positional, with a half of the last place going up. -/
def tomlFloatLayout : Decimal.Layout := ⟨none, none, .up⟩

def Partial.accept (p : Partial) (entry : String × Found) : Except Mismatch Partial :=
  match Field.ofName? entry.1 with
  | some f => (f.accept entry.2).map (p.set f)
  | none => .ok p

def ofToml (document : String) : Except SettingsError Settings := do
  match Toml.outline? document with
  | none => .error (.unparsable none)
  | some entries =>
    match entries.foldlM Partial.accept Partial.empty with
    | .error m => .error (.unparsable (some m))
    | .ok p =>
      let s := p.fill
      s.check
      .ok s

/-! ### Files -/

def notText : String := "stream did not contain valid UTF-8"

/-- The bytes of a file, or why it cannot be read. -/
abbrev ReadFile := String → Except String ByteArray

def ofFile (read : ReadFile) (path : String) : Except SettingsError Settings :=
  match read path with
  | .error cause => .error (.unreadable path cause)
  | .ok bytes =>
    match String.fromUTF8? bytes with
    | some document => ofToml document
    | none => .error (.unreadable path notText)

end Settings

/-! ### Errors -/

namespace SettingsError

def reasonText : Option Mismatch → String
  | some m => m.message Settings.tomlFloatLayout
  | none => "malformed document"

def message : SettingsError → String
  | unreadable path cause => "Failed to read " ++ path ++ ": " ++ cause
  | unparsable reason => "Failed to parse configuration: " ++ reasonText reason
  | invalid field reason => "Invalid configuration for " ++ field ++ ": " ++ reason

def sources : SettingsError → List String
  | unreadable _ cause => [cause]
  | unparsable reason => [reasonText reason]
  | invalid _ _ => []

end SettingsError

end Courier
