import Courier.Envelope

/-! The measured size of a tree is the number of bytes of its text. -/
namespace Courier.Json

theorem utf8ByteSize_ofList_cons (c : Char) (cs : List Char) :
    (String.ofList (c :: cs)).utf8ByteSize = c.utf8Size + (String.ofList cs).utf8ByteSize := by
  rw [← List.singleton_append, String.ofList_append, String.utf8ByteSize_append,
    ← String.singleton_eq_ofList, String.utf8ByteSize_singleton]

theorem utf8Size_hexDigit {n : Nat} (h : n < 16) : (hexDigit n).utf8Size = 1 := by
  have all_digits : ∀ m < 16, (hexDigit m).utf8Size = 1 := by decide
  exact all_digits n h

theorem utf8ByteSize_escape (c : Char) : (String.ofList (escape c)).utf8ByteSize = escapedSize c := by
  by_cases named : c = '"' ∨ c = '\\' ∨ c = '\x08' ∨ c = '\t' ∨ c = '\n' ∨ c = '\x0c' ∨ c = '\r'
  · rcases named with rfl | rfl | rfl | rfl | rfl | rfl | rfl <;> rfl
  · rw [escapedSize, if_neg named]
    simp only [not_or] at named
    obtain ⟨quote, backslash, back, tab, line, page, carriage⟩ := named
    simp only [escape, if_neg quote, if_neg backslash, if_neg back, if_neg tab, if_neg line,
      if_neg page, if_neg carriage]
    by_cases control : c.toNat < 32
    · have high : (hexDigit (c.toNat / 16)).utf8Size = 1 := utf8Size_hexDigit (by omega)
      have low : (hexDigit (c.toNat % 16)).utf8Size = 1 :=
        utf8Size_hexDigit (Nat.mod_lt _ (by decide))
      simp only [if_pos control, utf8ByteSize_ofList_cons, high, low]
      rfl
    · rw [if_neg control, if_neg control, utf8ByteSize_ofList_cons]
      rfl

theorem utf8ByteSize_quote (s : String) : (quote s).utf8ByteSize = quotedSize s := by
  have escaped (cs : List Char) : (String.ofList (cs.flatMap escape)).utf8ByteSize =
      cs.foldr (fun c n => escapedSize c + n) 0 := by
    induction cs with
    | nil => rfl
    | cons c cs ih =>
      rw [List.flatMap_cons, String.ofList_append, String.utf8ByteSize_append, utf8ByteSize_escape, ih,
        List.foldr_cons]
  rw [quote, utf8ByteSize_ofList_cons, String.ofList_append, String.utf8ByteSize_append, escaped,
    quotedSize, utf8ByteSize_ofList_cons]
  change 1 + (_ + (1 + 0)) = _
  omega

mutual
theorem utf8ByteSize_render (x : Json) : x.render.utf8ByteSize = x.size := by
  cases x with
  | null => rfl
  | bool b => cases b <;> rfl
  | int n => rfl
  | float x => rfl
  | str s => exact utf8ByteSize_quote s
  | list items =>
    rw [render, String.utf8ByteSize_append, String.utf8ByteSize_append, utf8ByteSize_renderItems, size]
    change 1 + _ + 1 = _
    omega
  | object members =>
    rw [render, String.utf8ByteSize_append, String.utf8ByteSize_append, utf8ByteSize_renderMembers, size]
    change 1 + _ + 1 = _
    omega

theorem utf8ByteSize_renderItems (xs : List Json) :
    (renderItems xs).utf8ByteSize = separators xs.length + sizeItems xs := by
  cases xs with
  | nil => rfl
  | cons x xs =>
    rw [renderItems, String.utf8ByteSize_append, utf8ByteSize_render x, utf8ByteSize_renderItemsTail xs,
      sizeItems, separators, List.length_cons]
    omega

theorem utf8ByteSize_renderItemsTail (xs : List Json) :
    (renderItemsTail xs).utf8ByteSize = xs.length + sizeItems xs := by
  cases xs with
  | nil => rfl
  | cons x xs =>
    rw [renderItemsTail, String.utf8ByteSize_append, String.utf8ByteSize_append, utf8ByteSize_render x,
      utf8ByteSize_renderItemsTail xs, sizeItems, List.length_cons]
    change 1 + _ = _
    omega

theorem utf8ByteSize_renderMembers (ms : List (String × Json)) :
    (renderMembers ms).utf8ByteSize = separators ms.length + sizeMembers ms := by
  cases ms with
  | nil => rfl
  | cons m ms =>
    obtain ⟨k, x⟩ := m
    simp only [renderMembers, String.utf8ByteSize_append, utf8ByteSize_quote, utf8ByteSize_render x,
      utf8ByteSize_renderMembersTail ms, sizeMembers, separators, List.length_cons]
    change _ + (1 + _) = _
    omega

theorem utf8ByteSize_renderMembersTail (ms : List (String × Json)) :
    (renderMembersTail ms).utf8ByteSize = ms.length + sizeMembers ms := by
  cases ms with
  | nil => rfl
  | cons m ms =>
    obtain ⟨k, x⟩ := m
    simp only [renderMembersTail, String.utf8ByteSize_append, utf8ByteSize_quote, utf8ByteSize_render x,
      utf8ByteSize_renderMembersTail ms, sizeMembers, List.length_cons]
    change 1 + (_ + (1 + _)) = _
    omega
end

end Courier.Json

namespace Courier.Envelope

/-- What is measured before a batch is sent is what its text takes. -/
theorem utf8ByteSize_encode (env : Envelope) (batch : List Event) :
    (env.encode batch).utf8ByteSize = env.encodedSize batch :=
  Json.utf8ByteSize_render _

end Courier.Envelope
