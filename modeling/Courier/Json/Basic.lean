import Courier.Entries

/-! JSON values. `Json` is the bare tree; `Value` and `Object` are the trees in canonical form, in
which every object lists its keys in ascending order, every whole number fits 64 bits and every float
is finite. Readers and builders make canonical trees only, so equal contents are equal values. -/
namespace Courier

inductive Json where
  | null
  | bool (b : Bool)
  | int (n : Int)
  | float (x : Float)
  | str (s : String)
  | list (items : List Json)
  | object (members : List (String × Json))
  deriving Inhabited

namespace Json

/-- Whole numbers from the least signed to the greatest unsigned 64-bit one stay whole. -/
def Whole (n : Int) : Prop := -9223372036854775808 ≤ n ∧ n < 18446744073709551616

instance (n : Int) : Decidable (Whole n) := inferInstanceAs (Decidable (_ ∧ _))

mutual
def Canonical : Json → Prop
  | .null => True
  | .bool _ => True
  | .int n => Whole n
  | .float x => x.isFinite = true
  | .str _ => True
  | .list items => CanonicalItems items
  | .object members => Entries.Ascending members ∧ CanonicalMembers members

def CanonicalItems : List Json → Prop
  | [] => True
  | x :: xs => x.Canonical ∧ CanonicalItems xs

def CanonicalMembers : List (String × Json) → Prop
  | [] => True
  | (_, x) :: ms => x.Canonical ∧ CanonicalMembers ms
end

theorem canonicalItems_iff {xs : List Json} : CanonicalItems xs ↔ ∀ x ∈ xs, x.Canonical := by
  induction xs with
  | nil => simp [CanonicalItems]
  | cons x xs ih => simp [CanonicalItems, ih]

theorem canonicalMembers_iff {ms : List (String × Json)} :
    CanonicalMembers ms ↔ ∀ m ∈ ms, m.2.Canonical := by
  induction ms with
  | nil => simp [CanonicalMembers]
  | cons m ms ih => simp [CanonicalMembers, ih]

mutual
/-- Numbers are compared as numbers of their own sort: a whole number never equals a float. -/
def beq : Json → Json → Bool
  | .null, .null => true
  | .bool a, .bool b => a == b
  | .int a, .int b => a == b
  | .float a, .float b => a == b
  | .str a, .str b => a == b
  | .list a, .list b => beqItems a b
  | .object a, .object b => beqMembers a b
  | _, _ => false

def beqItems : List Json → List Json → Bool
  | [], [] => true
  | x :: xs, y :: ys => beq x y && beqItems xs ys
  | _, _ => false

def beqMembers : List (String × Json) → List (String × Json) → Bool
  | [], [] => true
  | (k, x) :: xs, (l, y) :: ys => k == l && beq x y && beqMembers xs ys
  | _, _ => false
end

instance : BEq Json := ⟨beq⟩

end Json

structure Value where
  json : Json
  canonical : json.Canonical

structure Object where
  members : List (String × Json)
  canonical : (Json.object members).Canonical

instance : BEq Value := ⟨fun v w => v.json == w.json⟩

instance : BEq Object := ⟨fun o p => Json.object o.members == Json.object p.members⟩

namespace Object

theorem ext {o p : Object} (h : o.members = p.members) : o = p := by
  cases o; cases p; simp_all

def empty : Object := ⟨[], by simp [Json.Canonical, Json.CanonicalMembers, Entries.Ascending]⟩

instance : Inhabited Object := ⟨empty⟩

def insert (key : String) (v : Value) (o : Object) : Object where
  members := Entries.insert key v.json o.members
  canonical := by
    refine ⟨Entries.ascending_insert o.canonical.1, Json.canonicalMembers_iff.2 fun m hm => ?_⟩
    have ho := Json.canonicalMembers_iff.1 o.canonical.2
    have : ∀ es : List (String × Json), (∀ e ∈ es, e.2.Canonical) →
        ∀ e ∈ Entries.insert key v.json es, e.2.Canonical := by
      intro es hes
      induction es with
      | nil => simp [Entries.insert, v.canonical]
      | cons e rest ih =>
        have hr := fun e' he' => hes e' (List.mem_cons_of_mem _ he')
        have he := hes e List.mem_cons_self
        intro e' he'
        simp only [Entries.insert] at he'
        split at he'
        · simp only [List.mem_cons] at he'
          rcases he' with rfl | rfl | h
          · exact v.canonical
          · exact he
          · exact hr _ h
        · split at he'
          · rcases List.mem_cons.1 he' with rfl | h
            · exact he
            · exact ih hr _ h
          · rcases List.mem_cons.1 he' with rfl | h
            · exact v.canonical
            · exact hr _ h
    exact this _ ho m hm

def erase (key : String) (o : Object) : Object where
  members := Entries.erase key o.members
  canonical := ⟨Entries.ascending_erase o.canonical.1, Json.canonicalMembers_iff.2 fun m hm =>
    Json.canonicalMembers_iff.1 o.canonical.2 m (List.mem_filter.1 hm).1⟩

theorem canonical_of_find? {key : String} {x : Json} {ms : List (String × Json)}
    (h : Json.CanonicalMembers ms) (hx : Entries.find? key ms = some x) : x.Canonical := by
  induction ms with
  | nil => simp at hx
  | cons m ms ih =>
    rw [Entries.find?_cons] at hx
    split at hx
    · exact Option.some.inj hx ▸ h.1
    · exact ih h.2 hx

def get? (key : String) (o : Object) : Option Value :=
  match h : Entries.find? key o.members with
  | some x => some ⟨x, canonical_of_find? o.canonical.2 h⟩
  | none => none

theorem get?_map_json {key : String} {o : Object} :
    (o.get? key).map Value.json = Entries.find? key o.members := by
  unfold get?
  split <;> simp_all

def ofMembers (ms : List (String × Value)) : Object :=
  ms.foldl (fun o m => o.insert m.1 m.2) empty

end Object

namespace Value

theorem ext {v w : Value} (h : v.json = w.json) : v = w := by cases v; cases w; simp_all

def null : Value := ⟨.null, trivial⟩

def bool (b : Bool) : Value := ⟨.bool b, trivial⟩

def int (n : Int) (h : Json.Whole n) : Value := ⟨.int n, h⟩

/-- JSON has no number for an infinity or for what is not a number; these become null. -/
def float (x : Float) : Value := if h : x.isFinite = true then ⟨.float x, h⟩ else null

theorem float_of_isFinite {x : Float} (h : x.isFinite = true) : float x = ⟨.float x, h⟩ := dif_pos h

def text (s : String) : Value := ⟨.str s, trivial⟩

def list (vs : List Value) : Value :=
  ⟨.list (vs.map json), Json.canonicalItems_iff.2 fun x hx => by
    obtain ⟨v, _, rfl⟩ := List.mem_map.1 hx
    exact v.canonical⟩

def object (o : Object) : Value := ⟨.object o.members, o.canonical⟩

instance : Inhabited Value := ⟨null⟩

def toObject? : Value → Option Object
  | ⟨.object ms, h⟩ => some ⟨ms, h⟩
  | _ => none

def toText? : Value → Option String
  | ⟨.str s, _⟩ => some s
  | _ => none

def items : (xs : List Json) → Json.CanonicalItems xs → List Value
  | [], _ => []
  | x :: xs, h => ⟨x, h.1⟩ :: items xs h.2

def toList? : Value → Option (List Value)
  | ⟨.list xs, h⟩ => some (items xs h)
  | _ => none

def get? (key : String) (v : Value) : Option Value := v.toObject?.bind (·.get? key)

end Value

end Courier
