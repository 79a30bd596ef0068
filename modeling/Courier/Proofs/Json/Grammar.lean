import Courier.Json.Leaves
import Mathlib.Data.List.Basic

/-! The texts of JSON, whoever reads them. White space may stand around every value and key, a text has
many spellings and a whole number has one. What is well formed need not mean anything: a number may be
too large for any type, and half of a surrogate pair may stand alone. -/
namespace Courier.Json

def Blank (cs : List Char) : Prop := ∀ c ∈ cs, c = ' ' ∨ c = '\t' ∨ c = '\n' ∨ c = '\r'

instance (cs : List Char) : Decidable (Blank cs) := List.decidableBAll _ cs

theorem blank_nil : Blank [] := fun _ h => nomatch h

/-! ### Texts -/

inductive Named : Char → Char → Prop where
  | quote : Named '"' '"'
  | backslash : Named '\\' '\\'
  | slash : Named '/' '/'
  | backspace : Named 'b' '\x08'
  | page : Named 'f' '\x0c'
  | line : Named 'n' '\n'
  | carriage : Named 'r' '\r'
  | tab : Named 't' '\t'

def Hex (n : Nat) (c : Char) : Prop := n < 16 ∧ (c = Nat.digitChar n ∨ c = (Nat.digitChar n).toUpper)

instance (n : Nat) (c : Char) : Decidable (Hex n c) :=
  inferInstanceAs (Decidable (n < 16 ∧ (c = Nat.digitChar n ∨ c = (Nat.digitChar n).toUpper)))

inductive Quad : Nat → List Char → Prop where
  | mk {k l m n : Nat} {a b c d : Char} (first : Hex k a) (second : Hex l b) (third : Hex m c)
      (fourth : Hex n d) : Quad (16 * (16 * (16 * k + l) + m) + n) [a, b, c, d]

/-- One character of a text, and a way to write it. -/
inductive Spelling : Char → List Char → Prop where
  | plain {c : Char} (shown : 32 ≤ c.toNat) (noQuote : c ≠ '"') (noBackslash : c ≠ '\\') :
      Spelling c [c]
  | named {letter c : Char} (h : Named letter c) : Spelling c ['\\', letter]
  | numbered {c : Char} {quad : List Char} (h : Quad c.toNat quad) : Spelling c ('\\' :: 'u' :: quad)
  | paired {c : Char} {m n : Nat} {high low : List Char} (hm : m < 1024) (hn : n < 1024)
      (value : c.toNat = 0x10000 + 1024 * m + n) (leading : Quad (0xd800 + m) high)
      (trailing : Quad (0xdc00 + n) low) :
      Spelling c ('\\' :: 'u' :: (high ++ '\\' :: 'u' :: low))

def Spelled (s : String) (cs : List Char) : Prop :=
  ∃ parts, List.Forall₂ Spelling s.toList parts ∧ cs = '"' :: (parts.flatten ++ ['"'])

/-- What is found between quotes, whether it stands for a character or for half of a pair. -/
inductive Mark : List Char → Prop where
  | whole {c : Char} {cs : List Char} (h : Spelling c cs) : Mark cs
  | half {n : Nat} {quad : List Char} (h : Quad n quad) : Mark ('\\' :: 'u' :: quad)

def Quoted (cs : List Char) : Prop :=
  ∃ marks : List (List Char), (∀ m ∈ marks, Mark m) ∧ cs = '"' :: (marks.flatten ++ ['"'])

/-! ### Numbers -/

structure Digits (cs : List Char) : Prop where
  nonempty : cs ≠ []
  all : ∀ c ∈ cs, c.isDigit = true

instance (cs : List Char) : Decidable (Digits cs) :=
  decidable_of_iff (cs ≠ [] ∧ cs.all Char.isDigit = true)
    ⟨fun h => ⟨h.1, List.all_eq_true.1 h.2⟩, fun h => ⟨h.nonempty, List.all_eq_true.2 h.all⟩⟩

inductive Fraction : Option (List Char) → List Char → Prop where
  | absent : Fraction none []
  | present {digits : List Char} (h : Digits digits) : Fraction (some digits) ('.' :: digits)

inductive Sign : Bool → List Char → Prop where
  | implied : Sign false []
  | plus : Sign false ['+']
  | minus : Sign true ['-']

inductive Exponent : Option (Bool × List Char) → List Char → Prop where
  | absent : Exponent none []
  | present {mark : Char} {isNegative : Bool} {sign digits : List Char}
      (marked : mark = 'e' ∨ mark = 'E') (signed : Sign isNegative sign) (h : Digits digits) :
      Exponent (some (isNegative, digits)) (mark :: (sign ++ digits))

/-- The text of a number that has these parts. -/
structure Numeral (l : Literal) (cs : List Char) : Prop where
  whole : Digits l.whole
  unpadded : l.whole.head? = some '0' → l.whole = ['0']
  parts : ∃ fraction exponent, Fraction l.fraction fraction ∧ Exponent l.exponent exponent ∧
    cs = (if l.isNegative then ['-'] else []) ++ (l.whole ++ (fraction ++ exponent))

/-! ### Values -/

structure Piece where
  before : List Char
  body : List Char
  after : List Char
  blank_before : Blank before
  blank_after : Blank after

def Piece.chars (p : Piece) : List Char := p.before ++ (p.body ++ p.after)

def Piece.tight (body : List Char) : Piece := ⟨[], body, [], blank_nil, blank_nil⟩

structure Member where
  key : Piece
  value : Piece

def Member.chars (m : Member) : List Char := m.key.chars ++ ':' :: m.value.chars

/-- What stands between brackets: the parts with commas between them, or white space if there are none. -/
def Inside : List (List Char) → List Char → Prop
  | [], cs => Blank cs
  | part :: parts, cs => cs = part ++ parts.flatMap (',' :: ·)

inductive WellFormed : List Char → Prop where
  | word {cs : List Char} (h : cs = "null".toList ∨ cs = "true".toList ∨ cs = "false".toList) :
      WellFormed cs
  | number {l : Literal} {cs : List Char} (h : Numeral l cs) : WellFormed cs
  | text {cs : List Char} (h : Quoted cs) : WellFormed cs
  | list {items : List Piece} {cs : List Char} (inside : Inside (items.map Piece.chars) cs)
      (values : ∀ i ∈ items, WellFormed i.body) : WellFormed ('[' :: (cs ++ [']']))
  | object {members : List Member} {cs : List Char} (inside : Inside (members.map Member.chars) cs)
      (keys : ∀ m ∈ members, Quoted m.key.body) (values : ∀ m ∈ members, WellFormed m.value.body) :
      WellFormed ('\x7b' :: (cs ++ ['\x7d']))

/-- The ways to write a text or a natural number. -/
inductive Written : Json → List Char → Prop where
  | text {s : String} {cs : List Char} (h : Spelled s cs) : Written (.str s) cs
  | number (n : Nat) : Written (.int n) (Nat.toDigits 10 n)

end Courier.Json
