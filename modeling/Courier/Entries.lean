/-!
Association lists in ascending key order. A key occurs at most once, so the order of the keys is
fixed by which keys are present. Main statements: inserting and erasing keep the order, and each
changes what is found at its own key and nowhere else.
-/
namespace Courier.Entries

def Ascending (es : List (String × α)) : Prop := es.Pairwise (fun a b => a.1 < b.1)

instance (es : List (String × α)) : Decidable (Ascending es) :=
  inferInstanceAs (Decidable (List.Pairwise _ _))

/-- The entry found at `key` is replaced, or a new one is put where the order wants it. -/
def insert (key : String) (a : α) : List (String × α) → List (String × α)
  | [] => [(key, a)]
  | (k, b) :: rest =>
    if key < k then (key, a) :: (k, b) :: rest
    else if k < key then (k, b) :: insert key a rest
    else (key, a) :: rest

def erase (key : String) (es : List (String × α)) : List (String × α) :=
  es.filter (fun e => e.1 != key)

def find? (key : String) (es : List (String × α)) : Option α := es.lookup key

theorem fst_mem_insert {key : String} {a : α} {es : List (String × α)} {e : String × α}
    (h : e ∈ insert key a es) : e.1 = key ∨ e ∈ es := by
  induction es with
  | nil => simp_all [insert]
  | cons e' rest ih =>
    simp only [insert] at h
    split at h
    · simp only [List.mem_cons] at h ⊢
      rcases h with rfl | h <;> simp_all
    · split at h
      · simp only [List.mem_cons] at h ⊢
        rcases h with rfl | h
        · simp
        · rcases ih h with h | h <;> simp [h]
      · simp only [List.mem_cons] at h ⊢
        rcases h with rfl | h <;> simp_all

theorem ascending_insert {key : String} {a : α} {es : List (String × α)} (h : Ascending es) :
    Ascending (insert key a es) := by
  induction es with
  | nil => simp [insert, Ascending]
  | cons e rest ih =>
    simp only [Ascending, List.pairwise_cons] at h
    simp only [insert]
    split
    next hlt =>
      refine List.pairwise_cons.2 ⟨fun e' he => ?_, List.pairwise_cons.2 h⟩
      rcases List.mem_cons.1 he with rfl | he
      · exact hlt
      · exact String.lt_trans hlt (h.1 e' he)
    next hlt =>
      split
      next hgt =>
        refine List.pairwise_cons.2 ⟨fun e' he => ?_, ih h.2⟩
        rcases fst_mem_insert he with he | he
        · rw [he]; exact hgt
        · exact h.1 e' he
      next hgt =>
        have he : e.1 = key := String.le_antisymm (String.not_lt.1 hlt) (String.not_lt.1 hgt)
        exact List.pairwise_cons.2 ⟨fun e' h' => he ▸ h.1 e' h', h.2⟩

theorem ascending_erase {key : String} {es : List (String × α)} (h : Ascending es) :
    Ascending (erase key es) := h.filter _

@[simp] theorem find?_nil {key : String} : find? key ([] : List (String × α)) = none := rfl

theorem find?_cons {key k : String} {a : α} {es : List (String × α)} :
    find? key ((k, a) :: es) = if key = k then some a else find? key es := by
  simp only [find?, List.lookup_cons]
  split <;> simp_all

theorem find?_insert {key k : String} {a : α} {es : List (String × α)} :
    find? k (insert key a es) = if k = key then some a else find? k es := by
  induction es with
  | nil => simp [insert, find?_cons]
  | cons e rest ih =>
    obtain ⟨k', b⟩ := e
    simp only [insert]
    split
    · simp [find?_cons]
    · split
      next hgt =>
        have hne : k' ≠ key := fun he => String.lt_irrefl _ (he ▸ hgt)
        rw [find?_cons, ih, find?_cons]
        by_cases hk : k = k' <;> simp [hk, hne]
      next hlt hgt =>
        have he : k' = key := String.le_antisymm (String.not_lt.1 hlt) (String.not_lt.1 hgt)
        rw [find?_cons, find?_cons, he]
        split <;> rfl

theorem find?_erase {key k : String} {es : List (String × α)} :
    find? k (erase key es) = if k = key then none else find? k es := by
  induction es with
  | nil => simp [erase]
  | cons e rest ih =>
    obtain ⟨k', b⟩ := e
    by_cases hk : k' = key
    · have : erase key ((k', b) :: rest) = erase key rest := by simp [erase, hk]
      rw [this, ih, find?_cons, hk]
      split <;> rfl
    · have : erase key ((k', b) :: rest) = (k', b) :: erase key rest := by simp [erase, hk]
      rw [this, find?_cons, ih, find?_cons]
      by_cases h : k = k' <;> simp [h, hk]

end Courier.Entries
