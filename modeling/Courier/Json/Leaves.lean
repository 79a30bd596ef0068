import Courier.Json.Fault
import Courier.Text.Encoding

/-! The leaves of the JSON grammar: blanks, words, texts and numbers. Every reader takes the characters
still to be read and returns what it has read with the characters behind it. A `Leaves` record says
how texts and numbers are read: strictly, or, where a value is to be skipped, by their shape alone. -/
namespace Courier.Json

def isBlank (c : Char) : Bool := c = ' ' || c = '\t' || c = '\n' || c = '\r'

def skipBlank (cs : List Char) : List Char := cs.dropWhile isBlank

def expectWord : List Char → List Char → Except Fault (List Char)
  | [], cs => .ok cs
  | _ :: _, [] => .error .truncated
  | w :: ws, c :: cs => if w = c then expectWord ws cs else .error .malformed

/-! ### Texts -/

def namedEscape? (c : Char) : Option Char :=
  if c = '"' then some '"'
  else if c = '\\' then some '\\'
  else if c = '/' then some '/'
  else if c = 'b' then some '\x08'
  else if c = 'f' then some '\x0c'
  else if c = 'n' then some '\n'
  else if c = 'r' then some '\r'
  else if c = 't' then some '\t'
  else none

def isLeading (n : Nat) : Bool := 0xd800 ≤ n && n < 0xdc00

def isTrailing (n : Nat) : Bool := 0xdc00 ≤ n && n < 0xe000

def joinSurrogates (high low : Nat) : Char :=
  Char.ofNat ((high - 0xd800) * 1024 + (low - 0xdc00) + 0x10000)

/-- Four hexadecimal digits are looked for only where four bytes are left. -/
def hasFourBytes (cs : List Char) : Bool := 4 ≤ (cs.take 4).foldr (fun c n => c.utf8Size + n) 0

/-- Where a reader of a text stands; `high` is a leading surrogate whose partner must follow. -/
inductive TextMode where
  | plain
  | escape
  | hex (left sofar : Nat) (high : Option Nat)
  | backslash (high : Nat)
  | letter (high : Nat)

def closeHex (n : Nat) : Option Nat → Option (Char ⊕ Nat)
  | none =>
    if isTrailing n then none else if isLeading n then some (.inr n) else some (.inl (Char.ofNat n))
  | some high => if isTrailing n then some (.inl (joinSurrogates high n)) else none

/-- The text up to its closing quote. A lenient reader lets surrogates stand alone. -/
def readText (lenient : Bool) : TextMode → List Char → List Char → Except Fault (String × List Char)
  | _, _, [] => .error .truncated
  | .plain, acc, c :: cs =>
    if c = '"' then .ok (String.ofList acc.reverse, cs)
    else if c = '\\' then readText lenient .escape acc cs
    else if c.toNat < 32 then .error .malformed
    else readText lenient .plain (c :: acc) cs
  | .escape, acc, c :: cs =>
    if c = 'u' then
      if hasFourBytes cs then readText lenient (.hex 3 0 none) acc cs else .error .truncated
    else match namedEscape? c with
      | some e => readText lenient .plain (e :: acc) cs
      | none => .error .malformed
  | .hex left sofar high, acc, c :: cs =>
    match Text.hexValue? c with
    | none => .error .malformed
    | some d => match left with
      | left + 1 => readText lenient (.hex left (16 * sofar + d) high) acc cs
      | 0 =>
        if lenient then readText lenient .plain acc cs
        else match closeHex (16 * sofar + d) high with
          | some (.inl e) => readText lenient .plain (e :: acc) cs
          | some (.inr n) => readText lenient (.backslash n) acc cs
          | none => .error .malformed
  | .backslash high, acc, c :: cs =>
    if c = '\\' then readText lenient (.letter high) acc cs else .error .malformed
  | .letter high, acc, c :: cs =>
    if c = 'u' then
      if hasFourBytes cs then readText lenient (.hex 3 0 (some high)) acc cs else .error .truncated
    else .error .malformed

/-! ### Numbers -/

/-- The parts of a number's text; the exponent comes with its sign. -/
structure Literal where
  isNegative : Bool
  whole : List Char
  fraction : Option (List Char)
  exponent : Option (Bool × List Char)

def someDigits (cs : List Char) : Except Fault (List Char × List Char) :=
  match cs with
  | [] => .error .truncated
  | c :: _ => if c.isDigit then .ok (cs.span Char.isDigit) else .error .malformed

def readWhole (cs : List Char) : Except Fault (List Char × List Char) := do
  let (digits, rest) ← someDigits cs
  if 1 < digits.length ∧ digits.head? = some '0' then .error .malformed else .ok (digits, rest)

def readFraction : List Char → Except Fault (Option (List Char) × List Char)
  | '.' :: cs => do
    let (digits, rest) ← someDigits cs
    .ok (some digits, rest)
  | cs => .ok (none, cs)

def readExponent : List Char → Except Fault (Option (Bool × List Char) × List Char)
  | c :: cs =>
    if c = 'e' ∨ c = 'E' then do
      let (isNegative, cs) := match cs with
        | '+' :: cs => (false, cs)
        | '-' :: cs => (true, cs)
        | cs => (false, cs)
      let (digits, rest) ← someDigits cs
      .ok (some (isNegative, digits), rest)
    else .ok (none, c :: cs)
  | [] => .ok (none, [])

def readLiteral (cs : List Char) : Except Fault (Literal × List Char) := do
  let (isNegative, cs) := match cs with
    | '-' :: cs => (true, cs)
    | cs => (false, cs)
  let (whole, cs) ← readWhole cs
  let (fraction, cs) ← readFraction cs
  let (exponent, cs) ← readExponent cs
  .ok (⟨isNegative, whole, fraction, exponent⟩, cs)

def digitValue (c : Char) : Nat := c.toNat - 48

/-- Takes digits into the significand as long as it fits 64 bits; the rest is returned. -/
def absorb : Nat → List Char → Nat × List Char
  | n, [] => (n, [])
  | n, c :: cs =>
    if 10 * n + digitValue c < UInt64.size then absorb (10 * n + digitValue c) cs else (n, c :: cs)

def tenTo (n : Nat) : Float := Float.ofScientific 1 false n

/-- Division by a power of ten, in steps that a float can hold. -/
def scaleDown (x : Float) (n : Nat) : Float :=
  if n ≤ 308 then x / tenTo n
  else if x == 0.0 then x
  else scaleDown (x / tenTo 308) (n - 308)
termination_by n

/-- `n * 10^e` in float arithmetic, unless it overflows. -/
def scale? (n : Nat) (e : Int) : Option Float :=
  let x := Float.ofNat n
  if e < 0 then some (scaleDown x e.natAbs)
  else if 308 < e then (if x == 0.0 then some x else none)
  else
    let y := x * tenTo e.natAbs
    if y.isInf then none else some y

namespace Literal

def sign (l : Literal) (x : Float) : Float := if l.isNegative then -x else x

/-- The value as a float: the digits that fit 64 bits, scaled by what is left of the exponent. -/
def toFloat? (l : Literal) : Option Float :=
  let (n, surplus) := absorb 0 l.whole
  let fraction := l.fraction.getD []
  let (n, unread) := absorb n fraction
  let shift := Int.ofNat surplus.length - Int.ofNat (fraction.length - unread.length)
  let exponent := match l.exponent with
    | none => 0
    | some (isNegative, ds) =>
      let e := Int.ofNat (ds.foldl (fun e d => 10 * e + digitValue d) 0)
      if isNegative then -e else e
  (scale? n (shift + exponent)).map l.sign

/-- A literal without point and exponent that fits 64 bits is whole; `-0` is not. -/
def toInt? (l : Literal) : Option Int :=
  match l.fraction, l.exponent, absorb 0 l.whole with
  | none, none, (n, []) =>
    if l.isNegative then (if n = 0 then none else some (-Int.ofNat n)) else some (Int.ofNat n)
  | _, _, _ => none

def toValue? (l : Literal) : Option Value :=
  match l.toInt? with
  | some n => if h : Whole n then some (Value.int n h) else l.toFloat?.map Value.float
  | none => l.toFloat?.map Value.float

end Literal

/-! ### Strict and lenient leaves -/

structure Leaves where
  text : List Char → Except Fault (String × List Char)
  number : List Char → Except Fault (Value × List Char)

def strict : Leaves where
  text := readText false .plain []
  number cs := do
    let (l, rest) ← readLiteral cs
    match l.toValue? with
    | some v => .ok (v, rest)
    | none => .error .malformed

/-- What is read is thrown away. A number that breaks off counts as malformed here. -/
def lenient : Leaves where
  text := readText true .plain []
  number cs := match readLiteral cs with
    | .ok (_, rest) => .ok (Value.null, rest)
    | .error _ => .error .malformed

end Courier.Json
