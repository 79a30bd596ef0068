import Courier.Decimal.Shortest

/-! The text of a float: its shortest digits, set out by a `Layout`. -/
namespace Courier.Decimal

/-- A point always stands in a positional text. The leading digit's exponent decides the form: it
is positional from `lowest` up to, and without, `limit`, where such bounds are given. -/
structure Layout where
  lowest : Option Int
  limit : Option Int
  tie : Tie

namespace Layout

def isPositional (l : Layout) (leading : Int) : Bool :=
  l.lowest.all (· ≤ leading) && l.limit.all (leading < ·)

def zeros (n : Nat) : String := String.ofList (List.replicate n '0')

def positional (digits : String) (exponent : Int) : String :=
  let point := Int.ofNat digits.length + exponent
  if 0 ≤ exponent then digits ++ zeros exponent.toNat ++ ".0"
  else if 0 < point then
    String.ofList (digits.toList.take point.toNat) ++ "." ++
      String.ofList (digits.toList.drop point.toNat)
  else "0." ++ zeros (-point).toNat ++ digits

def scientific (digits : String) (leading : Int) : String :=
  let mantissa := match digits.toList with
    | c :: d :: rest => String.ofList (c :: '.' :: d :: rest)
    | _ => digits
  mantissa ++ "e" ++ (if leading < 0 then "-" else "+") ++ toString leading.natAbs

def magnitude (l : Layout) (x : Float) : String :=
  let d := (Binary.ofBits x.toBits).shortest l.tie
  let digits := toString d.value
  let leading := Int.ofNat digits.length - 1 + d.exponent
  if l.isPositional leading then positional digits d.exponent else scientific digits leading

def render (l : Layout) (x : Float) : String :=
  if x.isNaN then "NaN"
  else
    let sign := if x.toBits >>> 63 = 0 then "" else "-"
    sign ++ (if x.isInf then "inf" else if x == 0.0 then "0.0" else l.magnitude x)

end Layout

end Courier.Decimal
