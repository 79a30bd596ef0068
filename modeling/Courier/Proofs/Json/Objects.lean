import Courier.Json.Basic
import Mathlib.Data.List.Induction
import Mathlib.Data.Option.Basic

/-! Objects are determined by what is found in them. Of several members with one key the last is found,
and an object is made of its own members again. -/
namespace Courier

namespace Entries

variable {α : Type} {es es' : List (String × α)}

theorem find?_eq_none_of_above {key : String} (above : ∀ e ∈ es, key < e.1) : find? key es = none := by
  refine List.lookup_eq_none_iff.2 fun e he => bne_iff_ne.2 ?_
  rintro rfl
  exact String.lt_irrefl _ (above e he)

theorem Ascending.above {e : String × α} (h : Ascending (e :: es)) {key : String} (low : key < e.1) :
    ∀ e' ∈ e :: es, key < e'.1 :=
  List.forall_mem_cons.2 ⟨low, fun e' he => String.lt_trans low ((List.pairwise_cons.1 h).1 e' he)⟩

/-- The least key of one list is found in the other, so that it is the least there too. -/
theorem eq_of_find? (h : Ascending es) (h' : Ascending es')
    (same : ∀ key, find? key es = find? key es') : es = es' := by
  induction es generalizing es' with
  | nil =>
    cases es' with
    | nil => rfl
    | cons e' es' =>
      have found := same e'.1
      rw [find?_nil, find?_cons, if_pos rfl] at found
      cases found
  | cons e es ih =>
    obtain ⟨key, a⟩ := e
    cases es' with
    | nil =>
      have found := same key
      rw [find?_nil, find?_cons, if_pos rfl] at found
      cases found
    | cons e' es' =>
      obtain ⟨key', a'⟩ := e'
      have key_eq : key = key' := by
        refine String.le_antisymm (String.not_lt.1 fun low => ?_) (String.not_lt.1 fun low => ?_)
        · have found := same key'
          rw [find?_eq_none_of_above (h.above low), find?_cons, if_pos rfl] at found
          cases found
        · have found := same key
          rw [find?_eq_none_of_above (h'.above low), find?_cons, if_pos rfl] at found
          cases found
      subst key_eq
      obtain ⟨first, h⟩ := List.pairwise_cons.1 h
      obtain ⟨first', h'⟩ := List.pairwise_cons.1 h'
      have a_eq := same key
      rw [find?_cons, find?_cons, if_pos rfl, if_pos rfl] at a_eq
      rw [Option.some.inj a_eq, ih h h' fun k => ?_]
      by_cases hk : k = key
      · rw [hk, find?_eq_none_of_above first, find?_eq_none_of_above first']
      · have found := same k
        rwa [find?_cons, find?_cons, if_neg hk, if_neg hk] at found

theorem insert_of_below {key : String} {a : α} (below : ∀ e ∈ es, e.1 < key) :
    insert key a es = es ++ [(key, a)] := by
  induction es with
  | nil => rfl
  | cons e es ih =>
    obtain ⟨low, below⟩ := List.forall_mem_cons.1 below
    rw [insert, if_neg (String.lt_asymm low), if_pos low, ih below, List.cons_append]

end Entries

namespace Object

variable {o p : Object} {key k : String} {v : Value}

theorem get?_eq_iff {found : Option Value} :
    o.get? key = found ↔ Entries.find? key o.members = found.map Value.json := by
  rw [← get?_map_json]
  exact ⟨congrArg _, fun h => Option.map_injective (fun _ _ => Value.ext) h⟩

theorem find?_members (key : String) (o : Object) :
    Entries.find? key o.members = (o.get? key).map Value.json := get?_map_json.symm

theorem ext_get? (same : ∀ key, o.get? key = p.get? key) : o = p :=
  ext (Entries.eq_of_find? o.canonical.1 p.canonical.1 fun key => by
    rw [find?_members, find?_members, same])

@[simp] theorem get?_empty : empty.get? key = none := get?_eq_iff.2 rfl

theorem get?_insert : (o.insert key v).get? k = if k = key then some v else o.get? k := by
  rw [get?_eq_iff]
  change Entries.find? k (Entries.insert key v.json o.members) = _
  rw [Entries.find?_insert]
  split
  · rfl
  · exact find?_members k o

theorem get?_erase : (o.erase key).get? k = if k = key then none else o.get? k := by
  rw [get?_eq_iff]
  change Entries.find? k (Entries.erase key o.members) = _
  rw [Entries.find?_erase]
  split
  · rfl
  · exact find?_members k o

/-! ### Members in a row -/

theorem ofMembers_concat (ms : List (String × Value)) (m : String × Value) :
    ofMembers (ms ++ [m]) = (ofMembers ms).insert m.1 m.2 := List.foldl_append

/-- The last of equal keys stands. -/
theorem get?_ofMembers (ms : List (String × Value)) :
    (ofMembers ms).get? key = Entries.find? key ms.reverse := by
  induction ms using List.reverseRecOn with
  | nil => exact get?_empty
  | append_singleton ms m ih =>
    rw [ofMembers_concat, get?_insert, ih, List.reverse_append, List.reverse_singleton,
      List.singleton_append, Entries.find?_cons]

theorem get?_ofMembers_append (ms ns : List (String × Value)) :
    (ofMembers (ms ++ ns)).get? key = ((ofMembers ns).get? key).or ((ofMembers ms).get? key) := by
  rw [get?_ofMembers, get?_ofMembers, get?_ofMembers, List.reverse_append]
  exact List.lookup_append

theorem get?_ofMembers_eq_none_iff {ms : List (String × Value)} :
    (ofMembers ms).get? key = none ↔ key ∉ ms.map Prod.fst := by
  rw [get?_ofMembers, Entries.find?, List.lookup_eq_none_iff]
  constructor
  · rintro unmet member
    obtain ⟨m, hm, rfl⟩ := List.mem_map.1 member
    exact bne_iff_ne.1 (unmet m (List.mem_reverse.2 hm)) rfl
  · intro unmet m hm
    refine bne_iff_ne.2 ?_
    rintro rfl
    exact unmet (List.mem_map_of_mem (List.mem_reverse.1 hm))

theorem members_ofMembers {ms : List (String × Value)} (h : Entries.Ascending ms) :
    (ofMembers ms).members = ms.map fun m => (m.1, m.2.json) := by
  induction ms using List.reverseRecOn with
  | nil => rfl
  | append_singleton ms m ih =>
    obtain ⟨front, -, below⟩ := List.pairwise_append.1 h
    rw [ofMembers_concat]
    change Entries.insert m.1 m.2.json (ofMembers ms).members = _
    rw [ih front, List.map_append, Entries.insert_of_below]
    · rfl
    · intro e he
      obtain ⟨m', hm', rfl⟩ := List.mem_map.1 he
      exact below m' hm' m List.mem_cons_self

def valuesOf : (ms : List (String × Json)) → Json.CanonicalMembers ms → List (String × Value)
  | [], _ => []
  | (key, x) :: ms, h => (key, ⟨x, h.1⟩) :: valuesOf ms h.2

def entries (o : Object) : List (String × Value) := valuesOf o.members o.canonical.2

theorem map_valuesOf (ms : List (String × Json)) (h : Json.CanonicalMembers ms) :
    (valuesOf ms h).map (fun m => (m.1, m.2.json)) = ms := by
  induction ms with
  | nil => rfl
  | cons m ms ih => exact congrArg (m :: ·) (ih h.2)

theorem map_entries (o : Object) : o.entries.map (fun m => (m.1, m.2.json)) = o.members :=
  map_valuesOf o.members o.canonical.2

theorem ascending_entries (o : Object) : Entries.Ascending o.entries := by
  have ascending : o.members.Pairwise fun a b => a.1 < b.1 := o.canonical.1
  rw [← o.map_entries, List.pairwise_map] at ascending
  exact ascending

theorem ofMembers_entries (o : Object) : ofMembers o.entries = o :=
  ext ((members_ofMembers o.ascending_entries).trans o.map_entries)

theorem isSome_get?_iff : (o.get? key).isSome = true ↔ ∃ m ∈ o.entries, m.1 = key := by
  conv_lhs => rw [← o.ofMembers_entries]
  rw [← Option.ne_none_iff_isSome, ne_eq, get?_ofMembers_eq_none_iff, not_not, List.mem_map]

end Object

end Courier
