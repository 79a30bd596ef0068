import Courier.Text.Encoding

/-! Numbers and moments of TOML. Whole numbers fit 64 signed bits; underscores may stand between
digits; moments are checked against the calendar. -/
namespace Courier.Toml

def digitValue (c : Char) : Nat :=
  if c.isDigit then c.toNat - 48 else if 'a' ≤ c then c.toNat - 87 else c.toNat - 55

def moreDigits (p : Char → Bool) (acc : List Char) : List Char → List Char × List Char
  | '_' :: c :: cs => if p c then moreDigits p (c :: acc) cs else (acc.reverse, '_' :: c :: cs)
  | c :: cs => if p c then moreDigits p (c :: acc) cs else (acc.reverse, c :: cs)
  | [] => (acc.reverse, [])

def readDigits (p : Char → Bool) : List Char → Option (List Char × List Char)
  | [] => none
  | c :: cs => if p c then some (moreDigits p [c] cs) else none

def readSign : List Char → Bool × List Char
  | '-' :: cs => (true, cs)
  | '+' :: cs => (false, cs)
  | cs => (false, cs)

/-- A decimal whole number; zero has no digits behind it. -/
def readDecimal (cs : List Char) : Option ((Bool × List Char) × List Char) :=
  match readSign cs with
  | (isNegative, '0' :: cs) => some ((isNegative, ['0']), cs)
  | (isNegative, cs) => (readDigits Char.isDigit cs).map fun (ds, cs) => ((isNegative, ds), cs)

def valueOf (base : Nat) (digits : List Char) : Nat :=
  digits.foldl (fun n c => base * n + digitValue c) 0

def whole? (n : Int) : Option Int :=
  if -9223372036854775808 ≤ n ∧ n < 9223372036854775808 then some n else none

def readBased (base : Nat) (p : Char → Bool) (cs : List Char) : Option (Int × List Char) := do
  let (ds, cs) ← readDigits p cs
  let n ← whole? (Int.ofNat (valueOf base ds))
  some (n, cs)

def readInteger : List Char → Option (Int × List Char)
  | '0' :: 'x' :: cs => readBased 16 Text.isHexDigit cs
  | '0' :: 'o' :: cs => readBased 8 (fun c => '0' ≤ c && c ≤ '7') cs
  | '0' :: 'b' :: cs => readBased 2 (fun c => c = '0' || c = '1') cs
  | cs => do
    let ((isNegative, ds), cs) ← readDecimal cs
    let n := Int.ofNat (valueOf 10 ds)
    let n ← whole? (if isNegative then -n else n)
    some (n, cs)

/-- The nearest float to `n * 10^e`. Far outside a float's range the exponent alone decides. -/
def nearest (digits : List Char) (e : Int) : Float :=
  let n := valueOf 10 digits
  let leading := Int.ofNat (Nat.toDigits 10 n).length + e
  if n = 0 ∨ leading < -400 then 0.0
  else if 400 < leading then 1.0 / 0.0
  else Float.ofScientific n (e < 0) e.natAbs

def readExponent : List Char → Option (Int × List Char)
  | c :: cs =>
    if c = 'e' ∨ c = 'E' then do
      let (isNegative, cs) := readSign cs
      let (ds, cs) ← readDigits Char.isDigit cs
      let e := Int.ofNat (valueOf 10 ds)
      some (if isNegative then -e else e, cs)
    else none
  | [] => none

def readSpecial (cs : List Char) : Option (Float × List Char) :=
  match readSign cs with
  | (isNegative, 'i' :: 'n' :: 'f' :: cs) =>
    some (if isNegative then -(1.0 / 0.0) else 1.0 / 0.0, cs)
  | (_, 'n' :: 'a' :: 'n' :: cs) => some (0.0 / 0.0, cs)
  | _ => none

/-- A float has a fraction or an exponent; one that overflows upwards is refused. -/
def readFloat (cs : List Char) : Option (Float × List Char) :=
  match readSpecial cs with
  | some found => some found
  | none => do
    let ((isNegative, ds), cs) ← readDecimal cs
    let (fraction, cs) ← match cs with
      | '.' :: cs => (readDigits Char.isDigit cs).map fun (ds, cs) => (some ds, cs)
      | cs => some (none, cs)
    let (exponent, cs) := match readExponent cs with
      | some (e, cs) => (some e, cs)
      | none => (none, cs)
    if fraction.isNone ∧ exponent.isNone then none
    else
      let fraction := fraction.getD []
      let x := nearest (ds ++ fraction) (exponent.getD 0 - Int.ofNat fraction.length)
      if x.isInf ∧ ¬isNegative then none
      else some (if isNegative then -x else x, cs)

/-! ### Moments -/

/-- Exactly `count` digits, as a number between `low` and `high`. -/
def readFixed (count low high : Nat) (cs : List Char) : Option (Nat × List Char) :=
  let ds := cs.take count
  let n := valueOf 10 ds
  if ds.length = count ∧ ds.all Char.isDigit ∧ low ≤ n ∧ n ≤ high then some (n, cs.drop count)
  else none

def expectChar (c : Char) : List Char → Option (List Char)
  | d :: cs => if c = d then some cs else none
  | [] => none

def isLeapYear (year : Nat) : Bool := year % 4 = 0 && (year % 100 ≠ 0 || year % 400 = 0)

def daysIn (year month : Nat) : Nat :=
  if month = 2 then (if isLeapYear year then 29 else 28)
  else if month = 4 ∨ month = 6 ∨ month = 9 ∨ month = 11 then 30
  else 31

def readDate (cs : List Char) : Option (List Char) := do
  let (year, cs) ← readFixed 4 0 9999 cs
  let (month, cs) ← readFixed 2 1 12 (← expectChar '-' cs)
  let (_, cs) ← readFixed 2 1 (daysIn year month) (← expectChar '-' cs)
  some cs

def readTime (cs : List Char) : Option (List Char) := do
  let (_, cs) ← readFixed 2 0 23 cs
  let (_, cs) ← readFixed 2 0 59 (← expectChar ':' cs)
  let (_, cs) ← readFixed 2 0 60 (← expectChar ':' cs)
  match cs with
  | '.' :: rest =>
    let ds := rest.takeWhile Char.isDigit
    if ds = [] then none else some (rest.dropWhile Char.isDigit)
  | cs => some cs

def readOffset : List Char → Option (List Char)
  | 'Z' :: cs => some cs
  | 'z' :: cs => some cs
  | c :: cs =>
    if c = '+' ∨ c = '-' then do
      let (_, cs) ← readFixed 2 0 23 cs
      let (_, cs) ← readFixed 2 0 59 (← expectChar ':' cs)
      some cs
    else none
  | [] => none

def readMoment (cs : List Char) : Option (List Char) :=
  match readDate cs with
  | none => readTime cs
  | some cs =>
    match cs with
    | c :: rest =>
      if c = 'T' ∨ c = 't' ∨ c = ' ' then
        match readTime rest with
        | some rest => some ((readOffset rest).getD rest)
        | none => some cs
      else some cs
    | [] => some []

end Courier.Toml
