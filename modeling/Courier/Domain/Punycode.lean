/-! Punycode: texts as ASCII. Characters that are ASCII come first, behind them a hyphen, and then the
others in ascending order, each as a number that says how far it is, in value and in place, from the one
before. Numbers have the digit of least weight first, and their digits' weights adapt to the numbers
written before. -/
namespace Courier.Domain.Punycode

def isBasic (c : Char) : Bool := c.toNat < 128

def firstNumber : Nat := 128

/-- The least last digit with `bias` behind digits of weight up to `k`. -/
def threshold (k bias : Nat) : Nat :=
  if k ≤ bias then 1 else if bias + 26 ≤ k then 26 else k - bias

theorem one_le_threshold (k bias : Nat) : 1 ≤ threshold k bias := by
  grind [threshold]

def settle (delta k : Nat) : Nat :=
  if 455 < delta then settle (delta / 35) (k + 36) else k + 36 * delta / (delta + 38)
termination_by delta
decreasing_by exact Nat.div_lt_self (by omega) (by omega)

def adapt (delta count : Nat) (isFirst : Bool) : Nat :=
  let damped := if isFirst then delta / 700 else delta / 2
  settle (damped + damped / count) 0

/-! ### Writing -/

def digit (d : Nat) : Char := if d < 26 then Char.ofNat (97 + d) else Char.ofNat (22 + d)

def digits (bias k n : Nat) : List Char :=
  let t := threshold k bias
  if n < t then [digit n]
  else digit (t + (n - t) % (36 - t)) :: digits bias (k + 36) ((n - t) / (36 - t))
termination_by n
decreasing_by
  have := one_le_threshold k bias
  have := Nat.div_le_self (n - threshold k bias) (36 - threshold k bias)
  omega

/-- What is written so far, and the distance from the last character written. -/
structure Writing where
  written : List Char
  delta : Nat
  bias : Nat
  count : Nat

/-- Passes one character of the text while those numbered `n` are written. -/
def Writing.pass (basic n : Nat) (w : Writing) (c : Char) : Writing :=
  if c.toNat < n then { w with delta := w.delta + 1 }
  else if c.toNat = n then
    ⟨w.written ++ digits w.bias 36 w.delta, 0, adapt w.delta (w.count + 1) (w.count = basic),
      w.count + 1⟩
  else w

/-- Writes the characters with these numbers, which ascend; `n` is the next one not yet looked for. -/
def Writing.writeAll (basic : Nat) (cs : List Char) (n : Nat) (w : Writing) : List Nat → Writing
  | [] => w
  | m :: rest =>
    let w := { w with delta := w.delta + (m - n) * (w.count + 1) }
    let w := cs.foldl (Writing.pass basic m) w
    writeAll basic cs (m + 1) { w with delta := w.delta + 1 } rest

def insertNumber (n : Nat) : List Nat → List Nat
  | [] => [n]
  | m :: rest =>
    if n < m then n :: m :: rest else if n = m then m :: rest else m :: insertNumber n rest

def encode (cs : List Char) : List Char :=
  let basic := cs.filter isBasic
  let numbers := (cs.filter (!isBasic ·)).foldl (fun ns c => insertNumber c.toNat ns) []
  let w := Writing.writeAll basic.length cs firstNumber ⟨[], 0, 72, basic.length⟩ numbers
  basic ++ (if basic.isEmpty then [] else ['-']) ++ w.written

/-! ### Reading -/

def digitValue? (c : Char) : Option Nat :=
  if 'a' ≤ c ∧ c ≤ 'z' then some (c.toNat - 97)
  else if 'A' ≤ c ∧ c ≤ 'Z' then some (c.toNat - 65)
  else if '0' ≤ c ∧ c ≤ '9' then some (c.toNat - 22)
  else none

/-- What is read so far; `place` counts on from `start` while the digits of a number are read. -/
structure Reading where
  text : List Char
  number : Nat
  start : Nat
  place : Nat
  bias : Nat
  weight : Nat
  k : Nat

namespace Reading

def isBetween (r : Reading) : Bool := r.k = 36

def put? (r : Reading) : Option Reading :=
  let count := r.text.length + 1
  let n := r.number + r.place / count
  let place := r.place % count
  if n < 0xd800 ∨ (0xdfff < n ∧ n < 0x110000) then
    some ⟨r.text.insertIdx place (Char.ofNat n), n, place + 1, place + 1,
      adapt (r.place - r.start) count (r.start = 0), 1, 36⟩
  else none

def read? (r : Reading) (c : Char) : Option Reading := do
  let d ← digitValue? c
  let t := threshold r.k r.bias
  let r := { r with place := r.place + d * r.weight }
  if d < t then r.put? else some { r with weight := r.weight * (36 - t), k := r.k + 36 }

end Reading

/-- Before the last hyphen, unless the text begins with it, and behind it. -/
def halves (cs : List Char) : List Char × List Char :=
  let rest := (cs.reverse.takeWhile (· ≠ '-')).reverse
  let basic := cs.take (cs.length - rest.length - 1)
  if basic.isEmpty then ([], cs) else (basic, rest)

def decode? (cs : List Char) : Option (List Char) := do
  let (basic, rest) := halves cs
  let r ← rest.foldlM Reading.read? ⟨basic, firstNumber, 0, 0, 72, 1, 36⟩
  if r.isBetween ∧ basic.all isBasic then some r.text else none

end Courier.Domain.Punycode
