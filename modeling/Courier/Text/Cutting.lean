/-! Texts cut apart: white space off their ends, pieces at separators, and lines. A line ends at a line
feed, which may follow a carriage return; what stands behind the last line feed is a line unless it is
empty. -/
namespace Courier.Text

/-! ### White space, in the sense of the Unicode property White_Space -/

def isBlank (c : Char) : Bool :=
  let n := c.toNat
  (9 ≤ n && n ≤ 13) || n = 32 || n = 0x85 || n = 0xa0 || n = 0x1680 || (0x2000 ≤ n && n ≤ 0x200a) ||
    n = 0x2028 || n = 0x2029 || n = 0x202f || n = 0x205f || n = 0x3000

/-- A list without the run at its end of which every member passes `p`. -/
def dropEnd (p : α → Bool) (xs : List α) : List α := (xs.reverse.dropWhile p).reverse

def trim (s : String) : String := String.ofList (dropEnd isBlank (s.toList.dropWhile isBlank))

def isAllBlank (s : String) : Bool := s.toList.all isBlank

/-! ### Pieces; with `n` separators there are `n + 1` -/

def pieces (p : α → Bool) : List α → List (List α)
  | [] => [[]]
  | x :: xs =>
    if p x then [] :: pieces p xs
    else match pieces p xs with
      | [] => [[x]]
      | piece :: rest => (x :: piece) :: rest

def joined (separator : String) (texts : List String) : String := separator.intercalate texts

/-! ### Lines -/

def dropFirst [DecidableEq α] (a : α) : List α → List α
  | [] => []
  | x :: xs => if x = a then xs else x :: xs

/-- Cuts behind each `feed`; `line` holds the present line back to front. -/
def cutLines [DecidableEq α] (feed ret : α) (line : List α) : List α → List (List α)
  | [] => if line.isEmpty then [] else [line.reverse]
  | x :: xs =>
    if x = feed then (dropFirst ret line).reverse :: cutLines feed ret [] xs
    else cutLines feed ret (x :: line) xs

def lines (s : String) : List String := (cutLines '\n' '\r' [] s.toList).map String.ofList

/-- Where not all bytes are text, the lines that are text are still read. -/
def linesOfBytes (bytes : ByteArray) : List (Option String) :=
  match String.fromUTF8? bytes with
  | some s => (lines s).map some
  | none => (cutLines 10 13 [] bytes.toList).map fun line => String.fromUTF8? ⟨line.toArray⟩

end Courier.Text
