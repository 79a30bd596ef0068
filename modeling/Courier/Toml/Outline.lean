import Courier.Json.Fault

/-! Tables of a TOML document, down to the kind of every value. A table is defined once, either by its
header or by dotted keys; a header may still define a table that deeper headers have only named. -/
namespace Courier.Toml

mutual
/-- What a key stands for: a closed value, a table, or a list of tables with the newest last. -/
inductive Node where
  | leaf (found : Found)
  | table (t : Table)
  | tables (ts : List Table)

/-- An implicit table has been named on the way to another one; a dotted one by dotted keys. -/
inductive Table where
  | mk (isImplicit isDotted : Bool) (entries : List (String × Node))
end

namespace Table

def isImplicit : Table → Bool
  | mk i _ _ => i

def isDotted : Table → Bool
  | mk _ d _ => d

def entries : Table → List (String × Node)
  | mk _ _ es => es

def empty : Table := mk false false []

def lookup? (key : String) (t : Table) : Option Node := t.entries.lookup key

def append (key : String) (n : Node) : Table → Table
  | mk i d es => mk i d (es ++ [(key, n)])

def remove (key : String) : Table → Table
  | mk i d es => mk i d (es.filter (fun e => e.1 != key))

def replace (key : String) (n : Node) : Table → Table
  | mk i d es => mk i d (es.map fun e => if e.1 = key then (key, n) else e)

def define : Table → Table
  | mk _ d es => mk false d es

/-- Changes the table at `path`, naming tables on the way where there are none. Dotted keys may not
enter a table that a header has defined. -/
def alter (dotted : Bool) (f : Table → Option Table) : List String → Table → Option Table
  | [], t => f t
  | key :: path, t =>
    match t.lookup? key with
    | none => (alter dotted f path (mk true dotted [])).map fun u => t.append key (.table u)
    | some (.leaf _) => none
    | some (.table u) =>
      if dotted && !u.isImplicit then none
      else (alter dotted f path u).map fun u => t.replace key (.table u)
    | some (.tables us) =>
      match us.getLast? with
      | none => none
      | some u => (alter dotted f path u).map fun u => t.replace key (.tables (us.dropLast ++ [u]))

def put (path : List String) (key : String) (found : Found) (t : Table) : Option Table :=
  alter true (fun u =>
    if u.isDotted == path.isEmpty then none
    else if (u.lookup? key).isSome then none
    else some (u.append key (.leaf found))) path t

/-- Opens the table of a header, fills it, and puts it behind its siblings. -/
def addTable (path : List String) (key : String) (fill : Table → Option Table) (t : Table) :
    Option Table :=
  alter false (fun parent =>
    match parent.lookup? key with
    | none => (fill empty).map fun u => parent.append key (.table u)
    | some (.table u) =>
      if u.isImplicit && !u.isDotted then
        (fill u.define).map fun u => (parent.remove key).append key (.table u)
      else none
    | some _ => none) path t

def addToTables (path : List String) (key : String) (fill : Table → Option Table) (t : Table) :
    Option Table :=
  alter false (fun parent =>
    match parent.lookup? key with
    | none => (fill empty).map fun u => parent.append key (.tables [u])
    | some (.tables us) => (fill empty).map fun u => parent.replace key (.tables (us ++ [u]))
    | some _ => none) path t

end Table

def Node.found : Node → Found
  | .leaf found => found
  | .table _ => .map
  | .tables _ => .sequence

end Courier.Toml
