import Courier.Json.Leaves

/-! The JSON grammar. Nesting is limited by the number of levels that may still be entered; a list or
object met at level zero is malformed. `foldMembers` reads an object for whoever wants its members:
it hands over each key with the characters behind it. -/
namespace Courier.Json

def depthLimit : Nat := 127

def expectColon (cs : List Char) : Except Fault (List Char) :=
  match skipBlank cs with
  | [] => .error .truncated
  | ':' :: rest => .ok rest
  | _ => .error .malformed

def readKey (leaves : Leaves) (cs : List Char) : Except Fault (String × List Char) :=
  match skipBlank cs with
  | [] => .error .truncated
  | '"' :: rest => leaves.text rest
  | _ => .error .malformed

/-- The members behind one already read. Each takes a character, so `fuel` is their number. -/
def moreMembers (leaves : Leaves) (step : σ → String → List Char → Except Fault (σ × List Char)) :
    Nat → σ → List Char → Except Fault (σ × List Char)
  | 0, _, _ => .error .malformed
  | fuel + 1, s, cs =>
    match skipBlank cs with
    | [] => .error .truncated
    | '}' :: rest => .ok (s, rest)
    | ',' :: rest => do
      let (key, rest) ← readKey leaves rest
      let (s, rest) ← step s key rest
      moreMembers leaves step fuel s rest
    | _ => .error .malformed

def foldMembers (leaves : Leaves) (step : σ → String → List Char → Except Fault (σ × List Char))
    (s : σ) (cs : List Char) : Except Fault (σ × List Char) :=
  match skipBlank cs with
  | '}' :: rest => .ok (s, rest)
  | _ => do
    let (key, rest) ← readKey leaves cs
    let (s, rest) ← step s key rest
    moreMembers leaves step (rest.length + 1) s rest

def moreItems (item : List Char → Except Fault (Value × List Char)) :
    Nat → List Value → List Char → Except Fault (List Value × List Char)
  | 0, _, _ => .error .malformed
  | fuel + 1, acc, cs =>
    match skipBlank cs with
    | [] => .error .truncated
    | ']' :: rest => .ok (acc.reverse, rest)
    | ',' :: rest => do
      let (v, rest) ← item rest
      moreItems item fuel (v :: acc) rest
    | _ => .error .malformed

def readItems (item : List Char → Except Fault (Value × List Char)) (cs : List Char) :
    Except Fault (List Value × List Char) :=
  match skipBlank cs with
  | ']' :: rest => .ok ([], rest)
  | _ => do
    let (v, rest) ← item cs
    moreItems item (rest.length + 1) [v] rest

def readScalar (leaves : Leaves) (cs : List Char) : Except Fault (Value × List Char) :=
  match skipBlank cs with
  | [] => .error .truncated
  | c :: rest =>
    if c = '"' then (leaves.text rest).map fun (s, rest) => (Value.text s, rest)
    else if c = 'n' then (expectWord "ull".toList rest).map (Value.null, ·)
    else if c = 't' then (expectWord "rue".toList rest).map (Value.bool true, ·)
    else if c = 'f' then (expectWord "alse".toList rest).map (Value.bool false, ·)
    else if c = '-' ∨ c.isDigit then leaves.number (c :: rest)
    else .error .malformed

def readValue (leaves : Leaves) : Nat → List Char → Except Fault (Value × List Char)
  | 0, cs => readScalar leaves cs
  | depth + 1, cs =>
    match skipBlank cs with
    | '[' :: rest => do
      let (vs, rest) ← readItems (readValue leaves depth) rest
      .ok (Value.list vs, rest)
    | '{' :: rest => do
      let (o, rest) ← foldMembers leaves (fun (o : Object) key cs => do
        let cs ← expectColon cs
        let (v, cs) ← readValue leaves depth cs
        .ok (o.insert key v, cs)) Object.empty rest
      .ok (Value.object o, rest)
    | _ => readScalar leaves cs

/-- Reads a value whatever it is and however deep it nests, and throws it away. -/
def skipValue (cs : List Char) : Except Fault (List Char) :=
  (readValue lenient cs.length cs).map Prod.snd

def expectEnd (cs : List Char) : Except Fault Unit :=
  if skipBlank cs = [] then .ok () else .error .malformed

/-- The kind of value that stands here. Lists and objects are known by their first character. -/
def readFound (cs : List Char) : Except Fault (Found × List Char) :=
  match skipBlank cs with
  | '[' :: rest => .ok (.sequence, rest)
  | '{' :: rest => .ok (.map, rest)
  | _ => (readScalar strict cs).map fun (v, rest) => (v.found, rest)

def readAs (accept : Found → Except Mismatch α) (cs : List Char) : Except Fault (α × List Char) := do
  let (found, cs) ← readFound cs
  match accept found with
  | .ok a => .ok (a, cs)
  | .error m => .error (.mismatch m)

end Courier.Json

namespace Courier

def Value.ofCharsWithin (depth : Nat) (cs : List Char) : Except Json.Fault Value := do
  let (v, rest) ← Json.readValue Json.strict depth cs
  Json.expectEnd rest
  .ok v

/-- The value that a text spells, the last of equal keys standing. -/
def Value.ofText (text : String) : Except Json.Fault Value :=
  Value.ofCharsWithin Json.depthLimit text.toList

end Courier
