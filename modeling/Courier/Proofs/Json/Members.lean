import Courier.Json.Reader

/-! The members of an object as they stand in a text. Whoever reads an object member by member makes of
it what they would make of this list: the same if it can be read, and nothing if it cannot. -/
namespace Courier.Json

def readMember (leaves : Leaves) (depth : Nat) (cs : List Char) : Except Fault (Value × List Char) := do
  readValue leaves depth (← expectColon cs)

def listMember (leaves : Leaves) (depth : Nat) (ms : List (String × Value)) (key : String)
    (cs : List Char) : Except Fault (List (String × Value) × List Char) := do
  let (v, cs) ← readMember leaves depth cs
  .ok (ms ++ [(key, v)], cs)

/-- The members of an object as they stand in a text, with those that are repeated. -/
def readMembers (leaves : Leaves) (depth : Nat) (cs : List Char) :
    Except Fault (List (String × Value) × List Char) :=
  foldMembers leaves (listMember leaves depth) [] cs

/-- A step that depends on nothing but the value of a member, and that fails where there is none. -/
structure Steps {σ : Type} (leaves : Leaves) (depth : Nat)
    (step : σ → String → List Char → Except Fault (σ × List Char))
    (act : σ → String × Value → Except Fault σ) : Prop where
  made : ∀ {s key cs v rest}, readMember leaves depth cs = .ok (v, rest) →
    step s key cs = (act s (key, v)).map (·, rest)
  only : ∀ {s key cs s' rest}, step s key cs = .ok (s', rest) →
    ∃ v, readMember leaves depth cs = .ok (v, rest)

namespace Steps

variable {σ : Type} {leaves : Leaves} {depth : Nat} {cs rest : List Char}
  {step : σ → String → List Char → Except Fault (σ × List Char)}
  {act : σ → String × Value → Except Fault σ}

private theorem moreMembers_eq (h : Steps leaves depth step act) {fuel : Nat}
    {front ms : List (String × Value)}
    (read : moreMembers leaves (listMember leaves depth) fuel front cs = .ok (ms, rest)) :
    ∃ more, ms = front ++ more ∧ ∀ s,
      moreMembers leaves step fuel s cs = (more.foldlM act s).map (·, rest) := by
  induction fuel generalizing front cs with
  | zero => cases read
  | succ fuel ih =>
    unfold moreMembers at read ⊢
    split at read
    · cases read
    · cases read
      exact ⟨[], (List.append_nil _).symm, fun s => rfl⟩
    next behind _ =>
      obtain ⟨⟨key, after⟩, keyed, read⟩ := bind_eq_ok_iff.1 read
      obtain ⟨⟨listed, left⟩, stepped, read⟩ := bind_eq_ok_iff.1 read
      obtain ⟨⟨v, left⟩, member, stepped⟩ := bind_eq_ok_iff.1 stepped
      cases stepped
      obtain ⟨more, rfl, ran⟩ := ih read
      refine ⟨(key, v) :: more, by simp, fun s => ?_⟩
      rw [keyed]
      change (step s key after >>= fun p => _) = _
      rw [h.made member, List.foldlM_cons]
      cases act s (key, v) with
      | error f => rfl
      | ok s' => exact ran s'
    · cases read

private theorem exists_moreMembers (h : Steps leaves depth step act) {fuel : Nat} {s s' : σ}
    (front : List (String × Value)) (read : moreMembers leaves step fuel s cs = .ok (s', rest)) :
    ∃ ms, moreMembers leaves (listMember leaves depth) fuel front cs = .ok (ms, rest) := by
  induction fuel generalizing front s cs with
  | zero => cases read
  | succ fuel ih =>
    unfold moreMembers at read ⊢
    split at read
    · cases read
    · cases read
      exact ⟨front, rfl⟩
    next behind _ =>
      obtain ⟨⟨key, after⟩, keyed, read⟩ := bind_eq_ok_iff.1 read
      obtain ⟨⟨u, left⟩, stepped, read⟩ := bind_eq_ok_iff.1 read
      obtain ⟨v, member⟩ := h.only stepped
      obtain ⟨ms, listed⟩ := ih (front ++ [(key, v)]) read
      exact ⟨ms, bind_eq_ok_iff.2 ⟨(key, after), keyed, bind_eq_ok_iff.2
        ⟨(front ++ [(key, v)], left), bind_eq_ok_iff.2 ⟨(v, left), member, rfl⟩, listed⟩⟩⟩
    · cases read

theorem foldMembers_eq (h : Steps leaves depth step act) {ms : List (String × Value)}
    (read : readMembers leaves depth cs = .ok (ms, rest)) (s : σ) :
    foldMembers leaves step s cs = (ms.foldlM act s).map (·, rest) := by
  unfold readMembers foldMembers at read
  unfold foldMembers
  split at read
  · cases read
    rfl
  · obtain ⟨⟨key, after⟩, keyed, read⟩ := bind_eq_ok_iff.1 read
    obtain ⟨⟨listed, left⟩, stepped, read⟩ := bind_eq_ok_iff.1 read
    obtain ⟨⟨v, left⟩, member, stepped⟩ := bind_eq_ok_iff.1 stepped
    cases stepped
    obtain ⟨more, rfl, ran⟩ := h.moreMembers_eq read
    rw [keyed]
    change (step s key after >>= fun p => _) = _
    rw [h.made member, List.nil_append, List.singleton_append, List.foldlM_cons]
    cases act s (key, v) with
    | error f => rfl
    | ok s' => exact ran s'

theorem exists_readMembers (h : Steps leaves depth step act) {s s' : σ}
    (read : foldMembers leaves step s cs = .ok (s', rest)) :
    ∃ ms, readMembers leaves depth cs = .ok (ms, rest) := by
  unfold foldMembers at read
  unfold readMembers foldMembers
  split at read
  · cases read
    exact ⟨[], rfl⟩
  · obtain ⟨⟨key, after⟩, keyed, read⟩ := bind_eq_ok_iff.1 read
    obtain ⟨⟨u, left⟩, stepped, read⟩ := bind_eq_ok_iff.1 read
    obtain ⟨v, member⟩ := h.only stepped
    obtain ⟨ms, listed⟩ := h.exists_moreMembers [(key, v)] read
    exact ⟨ms, bind_eq_ok_iff.2 ⟨(key, after), keyed, bind_eq_ok_iff.2
      ⟨([(key, v)], left), bind_eq_ok_iff.2 ⟨(v, left), member, rfl⟩, listed⟩⟩⟩

theorem foldMembers_eq_ok_iff (h : Steps leaves depth step act) {s s' : σ} :
    foldMembers leaves step s cs = .ok (s', rest) ↔
      ∃ ms, readMembers leaves depth cs = .ok (ms, rest) ∧ ms.foldlM act s = .ok s' := by
  constructor
  · intro read
    obtain ⟨ms, listed⟩ := h.exists_readMembers read
    rw [h.foldMembers_eq listed] at read
    obtain ⟨u, acted, same⟩ := map_eq_ok_iff.1 read
    cases same
    exact ⟨ms, listed, acted⟩
  · rintro ⟨ms, listed, acted⟩
    rw [h.foldMembers_eq listed, acted]
    rfl

end Steps

/-! ### Objects -/

theorem steps_insert (leaves : Leaves) (depth : Nat) : Steps leaves depth
    (fun (o : Object) key cs => do
      let cs ← expectColon cs
      let (v, cs) ← readValue leaves depth cs
      .ok (o.insert key v, cs))
    (fun o m => .ok (o.insert m.1 m.2)) where
  made := by
    intro o key cs v rest member
    obtain ⟨behind, colon, read⟩ := bind_eq_ok_iff.1 member
    rw [colon]
    change (readValue leaves depth behind >>= fun p => _) = _
    rw [read]
    rfl
  only := by
    intro o key cs o' rest stepped
    obtain ⟨behind, colon, stepped⟩ := bind_eq_ok_iff.1 stepped
    obtain ⟨⟨v, left⟩, read, stepped⟩ := bind_eq_ok_iff.1 stepped
    cases stepped
    exact ⟨v, bind_eq_ok_iff.2 ⟨behind, colon, read⟩⟩

/-- An object is read by its members, at whatever level it stands; the last of equal keys wins. -/
theorem readValue_object_iff {leaves : Leaves} {depth : Nat} {cs behind rest : List Char} {v : Value}
    (opened : skipBlank cs = '\x7b' :: behind) : readValue leaves (depth + 1) cs = .ok (v, rest) ↔
      ∃ ms, readMembers leaves depth behind = .ok (ms, rest) ∧ v = Value.object (Object.ofMembers ms) := by
  have pure_fold (ms : List (String × Value)) :
      ms.foldlM (fun o m => .ok (o.insert m.1 m.2)) Object.empty =
        (.ok (Object.ofMembers ms) : Except Fault Object) := List.foldlM_pure
  rw [readValue, opened]
  constructor
  · intro read
    obtain ⟨⟨o, left⟩, folded, read⟩ := bind_eq_ok_iff.1 read
    cases read
    obtain ⟨ms, listed, acted⟩ := (steps_insert leaves depth).foldMembers_eq_ok_iff.1 folded
    rw [pure_fold] at acted
    cases acted
    exact ⟨ms, listed, rfl⟩
  · rintro ⟨ms, listed, rfl⟩
    exact bind_eq_ok_iff.2 ⟨(Object.ofMembers ms, rest),
      (steps_insert leaves depth).foldMembers_eq_ok_iff.2 ⟨ms, listed, pure_fold ms⟩, rfl⟩

end Courier.Json
