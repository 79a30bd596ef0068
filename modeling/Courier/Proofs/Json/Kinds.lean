import Courier.Proofs.Json.Members

/-! Values known by how they begin. A reader that accepts scalars only need not know how deep it stands,
and accepts of a value what it would accept of the value read. -/
namespace Courier.Json

section

variable {leaves : Leaves} {depth : Nat} {cs rest : List Char} {v : Value}

theorem readValue_of_scalar (noList : ∀ behind, skipBlank cs ≠ '[' :: behind)
    (noObject : ∀ behind, skipBlank cs ≠ '\x7b' :: behind) :
    readValue leaves depth cs = readScalar leaves cs := by
  cases depth with
  | zero => rfl
  | succ depth =>
    rw [readValue]
    split
    next heq => exact absurd heq (noList _)
    next heq => exact absurd heq (noObject _)
    next => rfl

theorem found_of_readValue_list {behind : List Char} (opened : skipBlank cs = '[' :: behind)
    (read : readValue leaves depth cs = .ok (v, rest)) : v.found = .sequence := by
  cases depth with
  | zero =>
    rw [readValue, readScalar, opened] at read
    cases read
  | succ depth =>
    rw [readValue, opened] at read
    obtain ⟨p, -, read⟩ := bind_eq_ok_iff.1 read
    cases read
    rfl

theorem found_of_readValue_object {behind : List Char} (opened : skipBlank cs = '\x7b' :: behind)
    (read : readValue leaves depth cs = .ok (v, rest)) : v.found = .map := by
  cases depth with
  | zero =>
    rw [readValue, readScalar, opened] at read
    cases read
  | succ depth =>
    obtain ⟨ms, -, rfl⟩ := (readValue_object_iff opened).1 read
    rfl

theorem readFound_of_scalar (noList : ∀ behind, skipBlank cs ≠ '[' :: behind)
    (noObject : ∀ behind, skipBlank cs ≠ '\x7b' :: behind) :
    readFound cs = (readScalar strict cs).map fun (v, rest) => (v.found, rest) := by
  unfold readFound
  split
  next heq => exact absurd heq (noList _)
  next heq => exact absurd heq (noObject _)
  next => rfl

/-- A text that opens a list or an object is known by that; any other is read for what it is. -/
theorem composed_or_scalar (cs : List Char) :
    (∃ found behind, (found = .sequence ∨ found = .map) ∧ readFound cs = .ok (found, behind) ∧
      ∀ depth v rest, readValue strict depth cs = .ok (v, rest) → v.found = found) ∨
    (∀ behind, skipBlank cs ≠ '[' :: behind) ∧ ∀ behind, skipBlank cs ≠ '\x7b' :: behind := by
  by_cases list : ∃ behind, skipBlank cs = '[' :: behind
  · obtain ⟨behind, opened⟩ := list
    exact .inl ⟨.sequence, behind, .inl rfl, by simp only [readFound, opened],
      fun _ _ _ => found_of_readValue_list opened⟩
  by_cases object : ∃ behind, skipBlank cs = '\x7b' :: behind
  · obtain ⟨behind, opened⟩ := object
    exact .inl ⟨.map, behind, .inr rfl, by simp only [readFound, opened],
      fun _ _ _ => found_of_readValue_object opened⟩
  · exact .inr ⟨not_exists.1 list, not_exists.1 object⟩

theorem toObject?_of_found (sequence : v.found = .sequence) : v.toObject? = none := by
  obtain ⟨x, h⟩ := v
  cases x <;> cases sequence
  rfl

theorem toObject?_of_toValue? {l : Literal} (value : l.toValue? = some v) : v.toObject? = none := by
  have float {x : Option Float} (h : x.map Value.float = some v) : v.toObject? = none := by
    obtain ⟨y, -, rfl⟩ := Option.map_eq_some_iff.1 h
    unfold Value.float
    split <;> rfl
  unfold Literal.toValue? at value
  split at value
  · split at value
    · cases value
      rfl
    · exact float value
  · exact float value

theorem toObject?_of_readScalar (read : readScalar strict cs = .ok (v, rest)) : v.toObject? = none := by
  have mapped {α : Type} {x : Except Fault α} {f : α → Value × List Char}
      (scalar : ∀ a, (f a).1.toObject? = none) (h : x.map f = .ok (v, rest)) : v.toObject? = none := by
    obtain ⟨a, -, value⟩ := map_eq_ok_iff.1 h
    have none_found := scalar a
    rwa [value] at none_found
  unfold readScalar at read
  split at read
  · cases read
  next c behind _ =>
    split at read
    · exact mapped (fun _ => rfl) read
    split at read
    · exact mapped (fun _ => rfl) read
    split at read
    · exact mapped (fun _ => rfl) read
    split at read
    · exact mapped (fun _ => rfl) read
    split at read
    · obtain ⟨⟨l, left⟩, -, read⟩ := bind_eq_ok_iff.1 read
      dsimp only at read
      split at read
      next v' value =>
        cases read
        exact toObject?_of_toValue? value
      · cases read
    · cases read

def OnlyScalars {α : Type} (accept : Found → Except Mismatch α) : Prop :=
  ∀ found a, accept found = .ok a → found ≠ .sequence ∧ found ≠ .map

variable {α : Type} {accept : Found → Except Mismatch α}

theorem OnlyScalars.refuses (scalars : OnlyScalars accept) {found : Found}
    (composed : found = .sequence ∨ found = .map) : ∃ m, accept found = .error m := by
  cases accepted : accept found with
  | error m => exact ⟨m, rfl⟩
  | ok a =>
    obtain ⟨noList, noObject⟩ := scalars found a accepted
    exact (composed.elim noList noObject).elim

theorem readAs_of_readFound {found : Found} (read : readFound cs = .ok (found, rest)) :
    readAs accept cs = ((accept found).mapError .mismatch).map (·, rest) := by
  rw [readAs, read]
  cases accepted : accept found <;> simp only [bind, Except.bind, accepted] <;> rfl

theorem readAs_of_readValue (scalars : OnlyScalars accept)
    (read : readValue strict depth cs = .ok (v, rest)) :
    readAs accept cs = ((accept v.found).mapError .mismatch).map (·, rest) := by
  rcases composed_or_scalar cs with ⟨found, behind, composed, opened, same⟩ | ⟨noList, noObject⟩
  · obtain ⟨m, refused⟩ := scalars.refuses composed
    rw [readAs_of_readFound opened, same _ _ _ read, refused]
    rfl
  · rw [readValue_of_scalar noList noObject] at read
    refine readAs_of_readFound ?_
    rw [readFound_of_scalar noList noObject, read]
    rfl

theorem exists_readValue_of_readAs (scalars : OnlyScalars accept) {a : α}
    (read : readAs accept cs = .ok (a, rest)) : ∃ v, readValue strict depth cs = .ok (v, rest) := by
  rcases composed_or_scalar cs with ⟨found, behind, composed, opened, -⟩ | ⟨noList, noObject⟩
  · obtain ⟨m, refused⟩ := scalars.refuses composed
    rw [readAs_of_readFound opened, refused] at read
    cases read
  · rw [readValue_of_scalar noList noObject]
    obtain ⟨⟨found, left⟩, known, accepted⟩ := bind_eq_ok_iff.1 read
    rw [readFound_of_scalar noList noObject] at known
    obtain ⟨p, scalar, same⟩ := map_eq_ok_iff.1 known
    cases same
    dsimp only at accepted
    split at accepted <;> cases accepted
    exact ⟨p.1, scalar⟩

end

end Courier.Json
