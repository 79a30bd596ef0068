import Courier.Text.Encoding

/-! Quoted texts of TOML: basic and literal, on one line or on several. Each reader stands behind the
opening quotes and returns the text with the characters behind the closing ones. -/
namespace Courier.Toml

def isInline (c : Char) : Bool := c = ' ' || c = '\t'

/-- Characters that may stand for themselves in texts and comments: all but controls, with tab. -/
def isPlain (c : Char) : Bool := c = '\t' || (32 ≤ c.toNat && c.toNat ≠ 127)

def scalar? (digits : List Char) : Option Char := do
  let n ← Text.hexNumber? digits
  if n < 0xd800 ∨ (0xdfff < n ∧ n < 0x110000) then some (Char.ofNat n) else none

def namedEscape? (c : Char) : Option Char :=
  if c = 'b' then some '\x08'
  else if c = 't' then some '\t'
  else if c = 'n' then some '\n'
  else if c = 'f' then some '\x0c'
  else if c = 'r' then some '\r'
  else if c = '"' then some '"'
  else if c = '\\' then some '\\'
  else none

def readEscape : List Char → Option (Char × List Char)
  | 'u' :: a :: b :: c :: d :: cs => (scalar? [a, b, c, d]).map (·, cs)
  | 'U' :: a :: b :: c :: d :: e :: f :: g :: h :: cs =>
    (scalar? [a, b, c, d, e, f, g, h]).map (·, cs)
  | e :: cs => (namedEscape? e).map (·, cs)
  | [] => none

def readBasic : Nat → List Char → List Char → Option (String × List Char)
  | 0, _, _ => none
  | fuel + 1, acc, cs =>
    match cs with
    | [] => none
    | '"' :: cs => some (String.ofList acc.reverse, cs)
    | '\\' :: cs => do
      let (c, cs) ← readEscape cs
      readBasic fuel (c :: acc) cs
    | c :: cs => if isPlain c then readBasic fuel (c :: acc) cs else none

def readLiteral : List Char → List Char → Option (String × List Char)
  | _, [] => none
  | acc, c :: cs =>
    if c = '\'' then some (String.ofList acc.reverse, cs)
    else if isPlain c then readLiteral (c :: acc) cs
    else none

def newline? : List Char → Option (List Char)
  | '\n' :: cs => some cs
  | '\r' :: '\n' :: cs => some cs
  | _ => none

def skipFold : List Char → List Char
  | '\n' :: cs => skipFold cs
  | '\r' :: '\n' :: cs => skipFold cs
  | c :: cs => if isInline c then skipFold cs else c :: cs
  | [] => []

/-- A text of several lines closed by three of `quote`; one or two more before these belong to it.
Escapes are read where `escapes` says so. -/
def readLines (quote : Char) (escapes : Bool) : Nat → List Char → List Char → Option (String × List Char)
  | 0, _, _ => none
  | fuel + 1, acc, cs =>
    match newline? cs with
    | some cs => readLines quote escapes fuel ('\n' :: acc) cs
    | none =>
      match cs with
      | [] => none
      | c :: rest =>
        if c = quote then
          let run := (cs.takeWhile (· = quote)).length
          if run < 3 then readLines quote escapes fuel (quote :: acc) rest
          else
            let extra := min (run - 3) 2
            some (String.ofList (acc.reverse ++ List.replicate extra quote), cs.drop (3 + extra))
        else if escapes ∧ c = '\\' then
          if (newline? (rest.dropWhile isInline)).isSome then
            readLines quote escapes fuel acc (skipFold rest)
          else do
            let (e, rest) ← readEscape rest
            readLines quote escapes fuel (e :: acc) rest
        else if isPlain c then readLines quote escapes fuel (c :: acc) rest
        else none

/-- A line end right behind the opening quotes does not belong to the text. -/
def readOpenedLines (quote : Char) (escapes : Bool) (cs : List Char) :
    Option (String × List Char) :=
  readLines quote escapes (cs.length + 1) [] ((newline? cs).getD cs)

def readText : List Char → Option (String × List Char)
  | '"' :: '"' :: '"' :: cs => readOpenedLines '"' true cs
  | '"' :: cs => readBasic (cs.length + 1) [] cs
  | '\'' :: '\'' :: '\'' :: cs => readOpenedLines '\'' false cs
  | '\'' :: cs => readLiteral [] cs
  | _ => none

end Courier.Toml
