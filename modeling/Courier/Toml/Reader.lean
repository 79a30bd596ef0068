import Courier.Toml.Text
import Courier.Toml.Number
import Courier.Toml.Outline

/-! The grammar of TOML documents: lines of keys and values, grouped under table headers. A document is
read as a whole before anything is made of its values. -/
namespace Courier.Toml

/-- Lists and inline tables nest below this depth, and dotted keys have fewer parts. -/
def depthLimit : Nat := 80

def skipInline (cs : List Char) : List Char := cs.dropWhile isInline

def skipComment : List Char → List Char
  | '#' :: cs => cs.dropWhile isPlain
  | cs => cs

def readLineEnd (cs : List Char) : Option (List Char) :=
  match skipComment (skipInline cs) with
  | [] => some []
  | cs => newline? cs

/-- Blanks, comments and line ends, as they may stand between the items of a list. -/
def skipLoose : Nat → List Char → List Char
  | 0, cs => cs
  | fuel + 1, cs =>
    match skipInline cs with
    | '#' :: rest =>
      let rest := rest.dropWhile isPlain
      if rest = [] then [] else match newline? rest with
        | some rest => skipLoose fuel rest
        | none => '#' :: rest
    | cs => match newline? cs with
      | some rest => skipLoose fuel rest
      | none => cs

def skipGap (cs : List Char) : List Char := skipLoose (cs.length + 1) cs

/-! ### Keys -/

def isBare (c : Char) : Bool :=
  c.isDigit || ('a' ≤ c && c ≤ 'z') || ('A' ≤ c && c ≤ 'Z') || c = '_' || c = '-'

def readSimpleKey : List Char → Option (String × List Char)
  | '"' :: cs => readBasic (cs.length + 1) [] cs
  | '\'' :: cs => readLiteral [] cs
  | cs =>
    let key := cs.takeWhile isBare
    if key = [] then none else some (String.ofList key, cs.dropWhile isBare)

def readKeyParts : Nat → List Char → Option (List String × List Char)
  | 0, _ => none
  | fuel + 1, cs => do
    let (part, cs) ← readSimpleKey (skipInline cs)
    match skipInline cs with
    | '.' :: cs =>
      let (parts, cs) ← readKeyParts fuel cs
      some (part :: parts, cs)
    | cs => some ([part], cs)

def readKey (cs : List Char) : Option ((List String × String) × List Char) := do
  let (parts, cs) ← readKeyParts (cs.length + 1) cs
  if depthLimit ≤ parts.length then none
  else
    let last ← parts.getLast?
    some ((parts.dropLast, last), cs)

/-! ### Values -/

def readWord (word : List Char) (cs : List Char) : Option (List Char) :=
  if word.isPrefixOf cs then some (cs.drop word.length) else none

def readBare (cs : List Char) : Option (Found × List Char) :=
  match readMoment cs with
  | some cs => some (.map, cs)
  | none => match readFloat cs with
    | some (x, cs) => some (.float x, cs)
    | none => (readInteger cs).map fun (n, cs) => (.integer n, cs)

def readAtom (cs : List Char) : Option (Found × List Char) :=
  match cs with
  | [] => none
  | c :: _ =>
    if c = '"' ∨ c = '\'' then (readText cs).map fun (s, cs) => (.text s, cs)
    else if c = 't' then (readWord "true".toList cs).map (.boolean true, ·)
    else if c = 'f' then (readWord "false".toList cs).map (.boolean false, ·)
    else readBare cs

def readItems (item : List Char → Option (Found × List Char)) :
    Nat → List Char → Option (List Char)
  | 0, _ => none
  | fuel + 1, cs =>
    match skipGap cs with
    | ']' :: rest => some rest
    | cs => do
      let (_, cs) ← item cs
      match skipGap cs with
      | ']' :: rest => some rest
      | ',' :: rest => readItems item fuel rest
      | _ => none

/-- The pairs of an inline table, all on one line and without a comma at the end. -/
def readPairs (value : List Char → Option (Found × List Char)) :
    Nat → Table → List Char → Option (List Char)
  | 0, _, _ => none
  | fuel + 1, t, cs => do
    let ((path, key), cs) ← readKey cs
    let cs ← expectChar '=' cs
    let (found, cs) ← value (skipInline cs)
    let t ← t.put path key found
    match skipInline cs with
    | '}' :: rest => some rest
    | ',' :: rest => readPairs value fuel t rest
    | _ => none

def readValue : Nat → List Char → Option (Found × List Char)
  | 0, _ => none
  | depth + 1, cs =>
    match cs with
    | '[' :: rest =>
      if depth = 0 then none
      else (readItems (readValue depth) (rest.length + 1) rest).map (.sequence, ·)
    | '{' :: rest =>
      if depth = 0 then none
      else match skipInline rest with
        | '}' :: rest => some (.map, rest)
        | _ => (readPairs (readValue depth) (rest.length + 1) Table.empty rest).map (.map, ·)
    | cs => readAtom cs

/-! ### Documents -/

inductive Line where
  | table (path : List String) (key : String)
  | tables (path : List String) (key : String)
  | value (path : List String) (key : String) (found : Found)

def readHeader (isList : Bool) (cs : List Char) : Option (Line × List Char) := do
  let ((path, key), cs) ← readKey cs
  let cs ← expectChar ']' cs
  if isList then
    let cs ← expectChar ']' cs
    some (.tables path key, cs)
  else some (.table path key, cs)

def readLine (cs : List Char) : Option (Line × List Char) := do
  let (line, cs) ← match cs with
    | '[' :: '[' :: rest => readHeader true rest
    | '[' :: rest => readHeader false rest
    | cs => do
      let ((path, key), cs) ← readKey cs
      let cs ← expectChar '=' cs
      let (found, cs) ← readValue depthLimit (skipInline cs)
      some (.value path key found, cs)
  let cs ← readLineEnd cs
  some (line, cs)

def readDocumentLines : Nat → List Char → Option (List Line)
  | 0, _ => none
  | fuel + 1, cs =>
    match skipInline cs with
    | [] => some []
    | c :: rest =>
      if c = '#' ∨ c = '\n' ∨ c = '\r' then do
        let rest ← readLineEnd (c :: rest)
        readDocumentLines fuel rest
      else do
        let (line, rest) ← readLine (c :: rest)
        let lines ← readDocumentLines fuel rest
        some (line :: lines)

def fillTable : List Line → Table → Option Table
  | .value path key found :: lines, t => (t.put path key found).bind (fillTable lines)
  | _, t => some t

def addLines : List Line → Table → Option Table
  | [], t => some t
  | .value _ _ _ :: lines, t => addLines lines t
  | .table path key :: lines, t => (t.addTable path key (fillTable lines)).bind (addLines lines)
  | .tables path key :: lines, t => (t.addToTables path key (fillTable lines)).bind (addLines lines)

def outline? (document : String) : Option (List (String × Found)) := do
  let cs := match document.toList with
    | '\ufeff' :: cs => cs
    | cs => cs
  let lines ← readDocumentLines (cs.length + 1) cs
  let t ← fillTable lines Table.empty
  let t ← addLines lines t
  some (t.entries.map fun (key, n) => (key, n.found))

end Courier.Toml
