import Courier.Text.Encoding
import Courier.Text.Cutting

/-! Tables of characters. A table is written as lines of items with a blank between two of them, and
its numbers are in base sixteen. An item is for one character or for a range: `5f` or `61-7a`. In a map it
also says what it is mapped to: `b5=3bc` and `133=69.6a` to these characters, `41-5a+61` the first to this
one, the second to the next and so on, `100-12e>` every other one to the one behind it. -/
namespace Courier.Text.Table

def number (cs : List Char) : Nat := (hexNumber? cs).getD 0

def range (cs : List Char) : Nat × Nat :=
  match pieces (· = '-') cs with
  | [first, last] => (number first, number last)
  | _ => (number cs, number cs)

def items (lines : List String) : List (List Char) :=
  lines.flatMap fun line => pieces (· = ' ') line.toList

def ranges (lines : List String) : List (Nat × Nat) := (items lines).map range

def holds (ranges : List (Nat × Nat)) (c : Char) : Bool :=
  ranges.any fun r => r.1 ≤ c.toNat && c.toNat ≤ r.2

inductive Image where
  | fixed (cs : List Char)
  | shifted (first : Nat)
  | alternate

structure Row where
  first : Nat
  last : Nat
  image : Image

def imageOf : List Char → Image
  | '=' :: cs => .fixed ((pieces (· = '.') cs).map fun digits => Char.ofNat (number digits))
  | '+' :: cs => .shifted (number cs)
  | _ => .alternate

def row (item : List Char) : Row :=
  let key := item.takeWhile fun c => isHexDigit c || c = '-'
  ⟨(range key).1, (range key).2, imageOf (item.drop key.length)⟩

def rows (lines : List String) : List Row := (items lines).map row

def Row.image? (r : Row) (c : Char) : Option (List Char) :=
  let n := c.toNat
  if r.first ≤ n ∧ n ≤ r.last then
    match r.image with
    | .fixed cs => some cs
    | .shifted first => some [Char.ofNat (first + (n - r.first))]
    | .alternate => if (n - r.first) % 2 = 0 then some [Char.ofNat (n + 1)] else none
  else none

def image? (rows : List Row) (c : Char) : Option (List Char) := rows.findSome? (·.image? c)

/-- The single character that is mapped to these. -/
def preimage? (rows : List Row) (cs : List Char) : Option Char :=
  rows.findSome? fun r => match r.image with
    | .fixed image => if image = cs ∧ r.first = r.last then some (Char.ofNat r.first) else none
    | _ => none

end Courier.Text.Table
