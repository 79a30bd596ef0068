/-! Numbers in base sixteen, percent-encoding, where a percent sign and two such digits stand for a byte,
and base64 with the standard alphabet and padding. -/
namespace Courier.Text

def hexValue? (c : Char) : Option Nat :=
  if '0' ≤ c ∧ c ≤ '9' then some (c.toNat - 48)
  else if 'a' ≤ c ∧ c ≤ 'f' then some (c.toNat - 87)
  else if 'A' ≤ c ∧ c ≤ 'F' then some (c.toNat - 55)
  else none

def isHexDigit (c : Char) : Bool := (hexValue? c).isSome

def hexNumber? (cs : List Char) : Option Nat :=
  cs.foldlM (fun n c => (hexValue? c).map (16 * n + ·)) 0

namespace Percent

def digit (n : Nat) : Char := (Nat.digitChar n).toUpper

def escapeByte (b : UInt8) : List Char := ['%', digit (b.toNat / 16), digit (b.toNat % 16)]

/-- Controls and all that is not ASCII are escaped everywhere, other characters in some places. -/
def escape (isEscaped : Char → Bool) (cs : List Char) : List Char :=
  cs.flatMap fun c =>
    if c.toNat < 32 || 126 < c.toNat || isEscaped c then
      (String.utf8EncodeChar c).flatMap escapeByte
    else [c]

def escaped (isEscaped : Char → Bool) (cs : List Char) : String :=
  String.ofList (escape isEscaped cs)

/-- A percent sign without two digits behind it stands for itself. -/
def decode : List Char → List UInt8
  | [] => []
  | '%' :: a :: b :: cs =>
    match hexNumber? [a, b] with
    | some n => UInt8.ofNat n :: decode cs
    | none => 37 :: decode (a :: b :: cs)
  | c :: cs => String.utf8EncodeChar c ++ decode cs

def text? (cs : List Char) : Option String := String.fromUTF8? ⟨(decode cs).toArray⟩

end Percent

/-! ### Base64 -/

def base64Digit (n : Nat) : Char :=
  if n < 26 then Char.ofNat (65 + n)
  else if n < 52 then Char.ofNat (71 + n)
  else if n < 62 then Char.ofNat (n - 4)
  else if n = 62 then '+'
  else '/'

def base64Group (n : Nat) : List Char :=
  [base64Digit (n / 262144 % 64), base64Digit (n / 4096 % 64), base64Digit (n / 64 % 64),
    base64Digit (n % 64)]

def base64Chars : List UInt8 → List Char
  | a :: b :: c :: rest => base64Group (a.toNat * 65536 + b.toNat * 256 + c.toNat) ++ base64Chars rest
  | [a, b] => (base64Group (a.toNat * 65536 + b.toNat * 256)).take 3 ++ ['=']
  | [a] => (base64Group (a.toNat * 65536)).take 2 ++ ['=', '=']
  | [] => []

def base64 (s : String) : String := String.ofList (base64Chars s.toUTF8.toList)

theorem mem_base64Group {n : Nat} {c : Char} (h : c ∈ base64Group n) :
    ∃ digit < 64, c = base64Digit digit := by
  simp only [base64Group, List.mem_cons, List.not_mem_nil, or_false] at h
  rcases h with rfl | rfl | rfl | rfl <;> exact ⟨_, Nat.mod_lt _ (by decide), rfl⟩

theorem mem_base64Chars {bytes : List UInt8} {c : Char} (h : c ∈ base64Chars bytes) :
    c = '=' ∨ ∃ digit < 64, c = base64Digit digit := by
  fun_induction base64Chars bytes with
  | case1 a b c' rest ih => exact (List.mem_append.1 h).elim (fun h => .inr (mem_base64Group h)) ih
  | case2 a b =>
    rcases List.mem_append.1 h with digits | padding
    · exact .inr (mem_base64Group (List.mem_of_mem_take digits))
    · exact .inl (List.mem_singleton.1 padding)
  | case3 a =>
    rcases List.mem_append.1 h with digits | padding
    · exact .inr (mem_base64Group (List.mem_of_mem_take digits))
    · exact .inl (by simpa using padding)
  | case4 => cases h

end Courier.Text
