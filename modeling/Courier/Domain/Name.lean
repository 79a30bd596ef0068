import Courier.Domain.Composition
import Courier.Domain.Direction
import Courier.Domain.Joining
import Courier.Domain.Mapping
import Courier.Domain.Punycode
import Courier.Text.Mark
import Courier.Text.Encoding

/-! Domain names as ASCII. A name is mapped and composed, and cut into labels at its dots; a label
that is not ASCII is written in Punycode behind a mark of four characters, and one that has the mark
already must be what is written for some label. -/
namespace Courier.Domain

open Courier.Text

structure Label where
  letters : List Char
  ascii : List Char

def punycodeMark : List Char := ['x', 'n', '-', '-']

/-- Labels are not read, nor written, in Punycode beyond these lengths. -/
def maxEncoded : Nat := 2000

def maxLetters : Nat := 1000

def decoded? (written : List Char) : Option (List Char) := do
  let letters ← Punycode.decode? written
  if written.length ≤ maxEncoded ∧ letters.all isPlain ∧ !letters.all Punycode.isBasic ∧
      Composition.compose letters = letters then
    some letters
  else none

def Label.ofLetters? (cs : List Char) : Option Label :=
  if cs.take 4 = punycodeMark then
    if cs.all Punycode.isBasic then (decoded? (cs.drop 4)).map (⟨·, cs⟩) else none
  else if cs.all Punycode.isBasic then some ⟨cs, cs⟩
  else if cs.length ≤ maxLetters then some ⟨cs, punycodeMark ++ Punycode.encode cs⟩
  else none

/-- No label starts with a mark, and joiners stand where they make sense. -/
def Label.isWellFormed (l : Label) : Bool :=
  !l.letters.head?.any isMark && Joining.fitAll [] l.letters

/-- Characters that part a URL, blanks and controls are in no name. -/
def isForbidden (c : Char) : Bool :=
  c.toNat ≤ 32 || c.toNat = 127 || "%#/:<>?@[\\]^|".toList.contains c

def toAscii? (name : String) : Option String := do
  let mapped ← mapped? name.toList
  let labels ← (pieces (· = '.') (Composition.compose mapped)).mapM Label.ofLetters?
  if labels.all Label.isWellFormed ∧ Direction.areOneWay (labels.map Label.letters) ∧
      !labels.any (fun l => l.letters.any isForbidden) then
    some (joined "." (labels.map fun l => String.ofList l.ascii))
  else none

end Courier.Domain
