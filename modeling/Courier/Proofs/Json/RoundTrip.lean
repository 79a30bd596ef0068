import Courier.Json.Printer
import Courier.Proofs.Json.Kinds
import Courier.Proofs.Json.Numbers
import Courier.Proofs.Json.Objects

/-! What is printed is read back. A tree spells a value when its text, with anything behind it that ends
a value, is read as that value; lists and objects are spelled item by item and member by member, an
object with repeated keys as the object that the last of them stand in. A canonical tree spells itself
but for its floats: each of them is spelled by the digits it has, and these are read as some float. -/
namespace Courier.Json

mutual
def depth : Json → Nat
  | .list items => depthItems items + 1
  | .object members => depthMembers members + 1
  | _ => 0

def depthItems : List Json → Nat
  | [] => 0
  | x :: xs => max x.depth (depthItems xs)

def depthMembers : List (String × Json) → Nat
  | [] => 0
  | (_, x) :: ms => max x.depth (depthMembers ms)
end

mutual
def EachFloat (p : Float → Prop) : Json → Prop
  | .float x => p x
  | .list items => EachFloatItems p items
  | .object members => EachFloatMembers p members
  | _ => True

def EachFloatItems (p : Float → Prop) : List Json → Prop
  | [] => True
  | x :: xs => x.EachFloat p ∧ EachFloatItems p xs

def EachFloatMembers (p : Float → Prop) : List (String × Json) → Prop
  | [] => True
  | (_, x) :: ms => x.EachFloat p ∧ EachFloatMembers p ms
end

/-- The float that the digits of a float are read as. Digits are read in float arithmetic, which rounds. -/
def readingOf (x : Float) : Float :=
  match strict.number (floatLayout.render x).toList with
  | .ok (⟨.float y, _⟩, _) => y
  | _ => x

/-- The digits of a float are read as that float. This is not so of every float. -/
def ReadsBack (x : Float) : Prop := readingOf x = x

mutual
/-- The tree with the readings of its floats in their places. -/
def reread : Json → Json
  | .float x => .float (readingOf x)
  | .list items => .list (rereadItems items)
  | .object members => .object (rereadMembers members)
  | x => x

def rereadItems : List Json → List Json
  | [] => []
  | x :: xs => x.reread :: rereadItems xs

def rereadMembers : List (String × Json) → List (String × Json)
  | [] => []
  | (k, x) :: ms => (k, x.reread) :: rereadMembers ms
end

def Floatless (x : Json) : Prop := x.EachFloat fun _ => False

/-- Every float in the tree is read back. -/
def Legible (x : Json) : Prop := x.EachFloat ReadsBack

/-- Wherever its levels may be entered, the text of the tree is read as the value. -/
def Spells (x : Json) (v : Value) : Prop := ∀ depth rest, x.depth ≤ depth → Delimited rest →
  readValue strict depth (x.render.toList ++ rest) = .ok (v, rest)

/-! ### Scalars -/

theorem skipBlank_cons {c : Char} (shown : isBlank c = false) (cs : List Char) :
    skipBlank (c :: cs) = c :: cs := by
  rw [skipBlank, List.dropWhile_cons_of_neg (Bool.eq_false_iff.1 shown)]

theorem readValue_eq_readScalar {leaves : Leaves} {c : Char} {cs : List Char}
    (shown : isBlank c = false) (noList : c ≠ '[') (noObject : c ≠ '\x7b') (depth : Nat) :
    readValue leaves depth (c :: cs) = readScalar leaves (c :: cs) := by
  apply readValue_of_scalar
  · intro behind opened
    rw [skipBlank_cons shown] at opened
    exact noList (List.cons.inj opened).1
  · intro behind opened
    rw [skipBlank_cons shown] at opened
    exact noObject (List.cons.inj opened).1

theorem spells_null : Spells .null Value.null := fun depth rest _ _ =>
  readValue_eq_readScalar rfl (by decide) (by decide) depth

theorem spells_bool (b : Bool) : Spells (.bool b) (Value.bool b) := fun depth rest _ _ => by
  cases b with
  | true => exact readValue_eq_readScalar rfl (by decide) (by decide) depth
  | false => exact readValue_eq_readScalar rfl (by decide) (by decide) depth

theorem spells_text (s : String) : Spells (.str s) (Value.text s) := fun depth rest _ _ => by
  rw [render, toList_quote, List.cons_append, List.append_assoc, List.singleton_append,
    readValue_eq_readScalar rfl (by decide) (by decide) depth]
  change (strict.text _).map _ = _
  rw [text_quote]
  rfl

theorem exists_first_of_number {cs : List Char} {p : Value × List Char}
    (read : strict.number cs = .ok p) :
    ∃ c rest, cs = c :: rest ∧ (c = '-' ∨ c.isDigit = true) := by
  obtain ⟨l, read, -⟩ := bind_eq_ok_iff.1 read
  cases cs with
  | nil => cases read
  | cons c rest =>
    refine ⟨c, rest, rfl, ?_⟩
    by_cases minus : c = '-'
    · exact .inl minus
    · have unsigned : ∀ cs, c :: rest ≠ '-' :: cs := fun cs heq => minus (List.cons.inj heq).1
      simp only [readLiteral] at read
      obtain ⟨whole, read, -⟩ := bind_eq_ok_iff.1 read
      obtain ⟨digits, read, -⟩ := bind_eq_ok_iff.1 read
      simp only [someDigits] at read
      split at read
      next digit => exact .inr digit
      · cases read

theorem readScalar_number (leaves : Leaves) {c : Char} (h : c = '-' ∨ c.isDigit = true)
    (cs : List Char) :
    isBlank c = false ∧ c ≠ '[' ∧ c ≠ '\x7b' ∧ readScalar leaves (c :: cs) = leaves.number (c :: cs) := by
  have apart {d : Char} (hd : d ≠ '-') (plain : d.isDigit = false) : c ≠ d := by
    rintro rfl
    rcases h with rfl | digit
    · exact hd rfl
    · rw [plain] at digit
      cases digit
  have shown : isBlank c = false := by
    simp [isBlank, apart (d := ' ') (by decide) rfl, apart (d := '\t') (by decide) rfl,
      apart (d := '\n') (by decide) rfl, apart (d := '\r') (by decide) rfl]
  refine ⟨shown, apart (by decide) rfl, apart (by decide) rfl, ?_⟩
  rw [readScalar, skipBlank_cons shown]
  dsimp only
  rw [if_neg (apart (by decide) rfl), if_neg (apart (by decide) rfl), if_neg (apart (by decide) rfl),
    if_neg (apart (by decide) rfl), if_pos h]

theorem Spells.of_number {x : Json} {v : Value} (read : strict.number x.render.toList = .ok (v, [])) :
    Spells x v := fun depth rest _ delimited => by
  obtain ⟨c, cs, text, first⟩ := exists_first_of_number read
  have extended := Extends.number _ _ _ read rest delimited
  rw [text, List.cons_append] at extended ⊢
  obtain ⟨shown, noList, noObject, scalar⟩ := readScalar_number strict first (cs ++ rest)
  rw [readValue_eq_readScalar shown noList noObject, scalar]
  exact extended

theorem spells_int {n : Int} (h : Whole n) : Spells (.int n) (Value.int n h) :=
  .of_number (number_int h)

theorem number_render {x : Float} (h : x.isFinite = true) : ∃ finite,
    strict.number (floatLayout.render x).toList = .ok (⟨.float (readingOf x), finite⟩, []) := by
  obtain ⟨y, finite, read⟩ := readsAsFloat_render h
  rw [Value.float_of_isFinite finite] at read
  have reading : readingOf x = y := by
    rw [readingOf, read]
  rw [reading]
  exact ⟨finite, read⟩

/-! ### Lists -/

theorem toList_list (items : List Json) (rest : List Char) : (render (.list items)).toList ++ rest =
    '[' :: ((renderItems items).toList ++ ']' :: rest) := by
  rw [render, String.toList_append, String.toList_append]
  simp

theorem readValue_ne_bracket {leaves : Leaves} {depth : Nat} {cs : List Char} {p : Value × List Char}
    (read : readValue leaves depth cs = .ok p) : ∀ rest, skipBlank cs ≠ ']' :: rest := by
  intro rest closed
  have scalar : readValue leaves depth cs = readScalar leaves cs :=
    readValue_of_scalar (fun _ opened => by rw [closed] at opened; cases opened)
      (fun _ opened => by rw [closed] at opened; cases opened)
  rw [scalar, readScalar, closed] at read
  cases read

theorem toList_renderItemsTail_cons (x : Json) (xs : List Json) (rest : List Char) :
    (renderItemsTail (x :: xs)).toList ++ rest =
      ',' :: (x.render.toList ++ ((renderItemsTail xs).toList ++ rest)) := by
  rw [renderItemsTail, String.toList_append, String.toList_append]
  simp

theorem delimited_renderItemsTail (xs : List Json) (rest : List Char) :
    Delimited ((renderItemsTail xs).toList ++ ']' :: rest) := by
  cases xs with
  | nil => exact delimited_cons rest (.inr (.inl rfl))
  | cons x xs =>
    rw [toList_renderItemsTail_cons]
    exact delimited_cons _ (.inl rfl)

theorem moreItems_renderItemsTail {depth : Nat} {xs : List Json} {vs : List Value}
    (spelled : List.Forall₂ Spells xs vs) (room : depthItems xs ≤ depth) {fuel : Nat}
    (enough : xs.length < fuel) (acc : List Value) (rest : List Char) :
    moreItems (readValue strict depth) fuel acc ((renderItemsTail xs).toList ++ ']' :: rest) =
      .ok (acc.reverse ++ vs, rest) := by
  induction spelled generalizing fuel acc with
  | nil =>
    cases fuel with
    | zero => cases enough
    | succ fuel =>
      rw [List.append_nil]
      rfl
  | @cons x v xs vs hx _ ih =>
    cases fuel with
    | zero => cases enough
    | succ fuel =>
      obtain ⟨roomHere, roomBehind⟩ := Nat.max_le.1 room
      have read := hx depth _ roomHere (delimited_renderItemsTail xs rest)
      rw [toList_renderItemsTail_cons]
      change (readValue strict depth _ >>= fun p => moreItems _ fuel (p.1 :: acc) p.2) = _
      rw [read]
      change moreItems _ fuel (v :: acc) _ = _
      rw [ih roomBehind (Nat.lt_of_succ_lt_succ enough), List.reverse_cons, List.append_assoc,
        List.singleton_append]

/-- Each item behind the first has a comma in front of it, so the text is fuel enough. -/
theorem length_le_renderItemsTail (xs : List Json) : xs.length ≤ (renderItemsTail xs).toList.length := by
  induction xs with
  | nil => exact Nat.zero_le _
  | cons x xs ih =>
    have text := congrArg List.length (toList_renderItemsTail_cons x xs [])
    simp only [List.append_nil, List.length_cons, List.length_append] at text
    rw [text, List.length_cons]
    omega

theorem readItems_renderItems {depth : Nat} {xs : List Json} {vs : List Value}
    (spelled : List.Forall₂ Spells xs vs) (room : depthItems xs ≤ depth) (rest : List Char) :
    readItems (readValue strict depth) ((renderItems xs).toList ++ ']' :: rest) = .ok (vs, rest) := by
  cases spelled with
  | nil => rfl
  | @cons x v xs vs hx behind =>
    obtain ⟨roomHere, roomBehind⟩ := Nat.max_le.1 room
    have read := hx depth _ roomHere (delimited_renderItemsTail xs rest)
    rw [renderItems, String.toList_append, List.append_assoc]
    unfold readItems
    split
    next heq => exact absurd heq (readValue_ne_bracket read _)
    next =>
      rw [read]
      refine moreItems_renderItemsTail behind roomBehind ?_ [v] rest
      have := length_le_renderItemsTail xs
      rw [List.length_append]
      omega

theorem Spells.list {xs : List Json} {vs : List Value} (spelled : List.Forall₂ Spells xs vs) :
    Spells (.list xs) (Value.list vs) := by
  intro depth rest room _
  cases depth with
  | zero => cases room
  | succ depth =>
    rw [toList_list]
    exact bind_eq_ok_iff.2
      ⟨(vs, rest), readItems_renderItems spelled (Nat.le_of_succ_le_succ room) rest, rfl⟩

/-! ### Objects -/

theorem toList_member (key : String) (x : Json) (behind : String) (rest : List Char) :
    (quote key ++ (":" ++ (x.render ++ behind))).toList ++ rest =
      '"' :: (key.toList.flatMap escape ++ '"' :: ':' :: (x.render.toList ++ (behind.toList ++ rest))) := by
  rw [String.toList_append, String.toList_append, String.toList_append, toList_quote]
  simp

theorem toList_renderMembersTail_cons (m : String × Json) (ms : List (String × Json))
    (rest : List Char) : (renderMembersTail (m :: ms)).toList ++ rest =
      ',' :: ((renderMembers (m :: ms)).toList ++ rest) := by
  rw [renderMembersTail, renderMembers, String.toList_append]
  rfl

theorem delimited_renderMembersTail (ms : List (String × Json)) (rest : List Char) :
    Delimited ((renderMembersTail ms).toList ++ '\x7d' :: rest) := by
  cases ms with
  | nil => exact delimited_cons rest (.inr (.inr rfl))
  | cons m ms =>
    rw [toList_renderMembersTail_cons]
    exact delimited_cons _ (.inl rfl)

def SpellsMember (m : String × Json) (w : String × Value) : Prop := m.1 = w.1 ∧ Spells m.2 w.2

section

variable {depth : Nat} {m : String × Json} {w : String × Value} {ms : List (String × Json)}
  {ws : List (String × Value)}

theorem SpellsMember.listMember (spelled : SpellsMember m w) (room : m.2.depth ≤ depth)
    (front : List (String × Value)) (ms : List (String × Json)) (rest : List Char) :
    ∃ behind, readKey strict ((renderMembers (m :: ms)).toList ++ '\x7d' :: rest) = .ok (w.1, behind) ∧
      listMember strict depth front w.1 behind =
        .ok (front ++ [w], (renderMembersTail ms).toList ++ '\x7d' :: rest) := by
  obtain ⟨key_eq, spelled⟩ := spelled
  have read := spelled depth _ room (delimited_renderMembersTail ms rest)
  rw [renderMembers, toList_member]
  refine ⟨_, (text_quote m.1 _).trans (by rw [key_eq]), ?_⟩
  exact bind_eq_ok_iff.2 ⟨_, read, rfl⟩

theorem moreMembers_renderMembersTail (spelled : List.Forall₂ SpellsMember ms ws)
    (room : depthMembers ms ≤ depth) {fuel : Nat} (enough : ms.length < fuel)
    (front : List (String × Value)) (rest : List Char) :
    moreMembers strict (listMember strict depth) fuel front
      ((renderMembersTail ms).toList ++ '\x7d' :: rest) = .ok (front ++ ws, rest) := by
  induction spelled generalizing fuel front with
  | nil =>
    cases fuel with
    | zero => cases enough
    | succ fuel =>
      rw [List.append_nil]
      rfl
  | @cons m w ms ws hm _ ih =>
    cases fuel with
    | zero => cases enough
    | succ fuel =>
      obtain ⟨roomHere, roomBehind⟩ := Nat.max_le.1 room
      obtain ⟨behind, keyed, listed⟩ := hm.listMember roomHere front ms rest
      rw [toList_renderMembersTail_cons]
      refine bind_eq_ok_iff.2 ⟨_, keyed, bind_eq_ok_iff.2 ⟨_, listed, ?_⟩⟩
      dsimp only
      rw [ih roomBehind (Nat.lt_of_succ_lt_succ enough), List.append_assoc, List.singleton_append]

theorem length_le_renderMembersTail (ms : List (String × Json)) :
    ms.length ≤ (renderMembersTail ms).toList.length := by
  induction ms with
  | nil => exact Nat.zero_le _
  | cons m ms ih =>
    have text := congrArg List.length (toList_renderMembersTail_cons m ms [])
    have member := congrArg List.length (toList_member m.1 m.2 (renderMembersTail ms) [])
    simp only [renderMembers, List.append_nil, List.length_cons, List.length_append] at text member
    rw [text, member, List.length_cons]
    omega

theorem readMembers_renderMembers (spelled : List.Forall₂ SpellsMember ms ws)
    (room : depthMembers ms ≤ depth) (rest : List Char) :
    readMembers strict depth ((renderMembers ms).toList ++ '\x7d' :: rest) = .ok (ws, rest) := by
  cases spelled with
  | nil => rfl
  | @cons m w ms ws hm behind =>
    obtain ⟨roomHere, roomBehind⟩ := Nat.max_le.1 room
    obtain ⟨after, keyed, listed⟩ := hm.listMember roomHere [] ms rest
    have quoted : ∀ cs,
        skipBlank ((renderMembers (m :: ms)).toList ++ '\x7d' :: rest) ≠ '\x7d' :: cs := by
      intro cs
      rw [renderMembers, toList_member, skipBlank_cons rfl]
      exact fun heq => absurd (List.cons.inj heq).1 (by decide)
    unfold readMembers foldMembers
    split
    next heq => exact absurd heq (quoted _)
    next =>
      refine bind_eq_ok_iff.2 ⟨_, keyed, bind_eq_ok_iff.2 ⟨_, listed, ?_⟩⟩
      refine moreMembers_renderMembersTail behind roomBehind ?_ [w] rest
      have := length_le_renderMembersTail ms
      rw [List.length_append]
      omega

theorem toList_object (ms : List (String × Json)) (rest : List Char) :
    (render (.object ms)).toList ++ rest = '\x7b' :: ((renderMembers ms).toList ++ '\x7d' :: rest) := by
  rw [render, String.toList_append, String.toList_append]
  simp

theorem Spells.object (spelled : List.Forall₂ SpellsMember ms ws) :
    Spells (.object ms) (Value.object (Object.ofMembers ws)) := by
  intro depth rest room _
  cases depth with
  | zero => cases room
  | succ depth =>
    rw [toList_object]
    exact (readValue_object_iff (skipBlank_cons rfl _)).2
      ⟨ws, readMembers_renderMembers spelled (Nat.le_of_succ_le_succ room) rest, rfl⟩

end

/-! ### Canonical trees -/

theorem map_items (xs : List Json) (h : CanonicalItems xs) : (Value.items xs h).map Value.json = xs := by
  induction xs with
  | nil => rfl
  | cons x xs ih => exact congrArg (x :: ·) (ih h.2)

theorem fst_mem_rereadMembers {ms : List (String × Json)} {m : String × Json} (h : m ∈ rereadMembers ms) :
    ∃ m' ∈ ms, m'.1 = m.1 := by
  induction ms with
  | nil => cases h
  | cons m' ms ih =>
    rcases List.mem_cons.1 h with rfl | h
    · exact ⟨m', List.mem_cons_self, rfl⟩
    · obtain ⟨m', hm, same⟩ := ih h
      exact ⟨m', List.mem_cons_of_mem _ hm, same⟩

theorem ascending_rereadMembers {ms : List (String × Json)} (h : Entries.Ascending ms) :
    Entries.Ascending (rereadMembers ms) := by
  induction ms with
  | nil => exact .nil
  | cons m ms ih =>
    obtain ⟨first, behind⟩ := List.pairwise_cons.1 h
    refine List.pairwise_cons.2 ⟨fun m' hm => ?_, ih behind⟩
    obtain ⟨m'', hm, same⟩ := fst_mem_rereadMembers hm
    exact same ▸ first m'' hm

mutual
theorem Canonical.reread (x : Json) (h : x.Canonical) : x.reread.Canonical := by
  cases x with
  | float x => exact (number_render h).1
  | list xs => exact CanonicalItems.reread xs h
  | object ms => exact ⟨ascending_rereadMembers h.1, CanonicalMembers.reread ms h.2⟩
  | null | bool | int | str => exact h

theorem CanonicalItems.reread (xs : List Json) (h : CanonicalItems xs) : CanonicalItems (rereadItems xs) := by
  cases xs with
  | nil => trivial
  | cons x xs => exact ⟨Canonical.reread x h.1, CanonicalItems.reread xs h.2⟩

theorem CanonicalMembers.reread (ms : List (String × Json)) (h : CanonicalMembers ms) :
    CanonicalMembers (rereadMembers ms) := by
  cases ms with
  | nil => trivial
  | cons m ms => exact ⟨Canonical.reread m.2 h.1, CanonicalMembers.reread ms h.2⟩
end

mutual
/-- A canonical tree spells itself, with the readings of its floats in it. -/
theorem spells_reread (x : Json) (h : x.Canonical) : Spells x ⟨x.reread, h.reread⟩ := by
  cases x with
  | null => exact spells_null
  | bool b => exact spells_bool b
  | int n => exact spells_int h
  | float x => exact .of_number (number_render h).2
  | str s => exact spells_text s
  | list xs =>
    have read := Spells.list (spells_rereadItems xs h)
    rwa [show Value.list (Value.items (rereadItems xs) (CanonicalItems.reread xs h)) = ⟨.list (rereadItems xs), _⟩ from
      Value.ext (congrArg Json.list (map_items _ _))] at read
  | object ms =>
    have read := Spells.object (spells_rereadMembers ms h.2)
    rwa [show Object.ofMembers (Object.valuesOf (rereadMembers ms) (h.2.reread ms)) =
      ⟨rereadMembers ms, Canonical.reread (.object ms) h⟩ from Object.ofMembers_entries ⟨rereadMembers ms, _⟩] at read

theorem spells_rereadItems (xs : List Json) (h : CanonicalItems xs) :
    List.Forall₂ Spells xs (Value.items (rereadItems xs) (h.reread xs)) := by
  cases xs with
  | nil => exact .nil
  | cons x xs => exact .cons (spells_reread x h.1) (spells_rereadItems xs h.2)

theorem spells_rereadMembers (ms : List (String × Json)) (h : CanonicalMembers ms) :
    List.Forall₂ SpellsMember ms (Object.valuesOf (rereadMembers ms) (h.reread ms)) := by
  cases ms with
  | nil => exact .nil
  | cons m ms => exact .cons ⟨rfl, spells_reread m.2 h.1⟩ (spells_rereadMembers ms h.2)
end

mutual
theorem reread_eq_self_iff (x : Json) : x.reread = x ↔ x.Legible := by
  cases x with
  | float x => exact ⟨Json.float.inj, congrArg Json.float⟩
  | list xs =>
    exact ⟨fun same => (rereadItems_eq_self_iff xs).1 (Json.list.inj same),
      fun legible => congrArg Json.list ((rereadItems_eq_self_iff xs).2 legible)⟩
  | object ms =>
    exact ⟨fun same => (rereadMembers_eq_self_iff ms).1 (Json.object.inj same),
      fun legible => congrArg Json.object ((rereadMembers_eq_self_iff ms).2 legible)⟩
  | null | bool | int | str => exact ⟨fun _ => trivial, fun _ => rfl⟩

theorem rereadItems_eq_self_iff (xs : List Json) : rereadItems xs = xs ↔ EachFloatItems ReadsBack xs := by
  cases xs with
  | nil => exact ⟨fun _ => trivial, fun _ => rfl⟩
  | cons x xs =>
    rw [rereadItems, List.cons.injEq]
    exact and_congr (reread_eq_self_iff x) (rereadItems_eq_self_iff xs)

theorem rereadMembers_eq_self_iff (ms : List (String × Json)) :
    rereadMembers ms = ms ↔ EachFloatMembers ReadsBack ms := by
  cases ms with
  | nil => exact ⟨fun _ => trivial, fun _ => rfl⟩
  | cons m ms =>
    rw [rereadMembers, List.cons.injEq, Prod.mk.injEq]
    exact and_congr ((and_iff_right rfl).trans (reread_eq_self_iff m.2)) (rereadMembers_eq_self_iff ms)
end

theorem spells_members (ms : List (String × Json)) (h : CanonicalMembers ms)
    (legible : EachFloatMembers ReadsBack ms) : List.Forall₂ SpellsMember ms (Object.valuesOf ms h) := by
  have spelled := spells_rereadMembers ms h
  simp only [(rereadMembers_eq_self_iff ms).2 legible] at spelled
  exact spelled

mutual
theorem EachFloat.mono {p q : Float → Prop} (weaker : ∀ x, p x → q x) (x : Json) (h : x.EachFloat p) :
    x.EachFloat q := by
  cases x with
  | float x => exact weaker x h
  | list xs => exact EachFloatItems.mono weaker xs h
  | object ms => exact EachFloatMembers.mono weaker ms h
  | _ => trivial

theorem EachFloatItems.mono {p q : Float → Prop} (weaker : ∀ x, p x → q x) (xs : List Json)
    (h : EachFloatItems p xs) : EachFloatItems q xs := by
  cases xs with
  | nil => trivial
  | cons x xs => exact ⟨EachFloat.mono weaker x h.1, EachFloatItems.mono weaker xs h.2⟩

theorem EachFloatMembers.mono {p q : Float → Prop} (weaker : ∀ x, p x → q x) (ms : List (String × Json))
    (h : EachFloatMembers p ms) : EachFloatMembers q ms := by
  cases ms with
  | nil => trivial
  | cons m ms => exact ⟨EachFloat.mono weaker m.2 h.1, EachFloatMembers.mono weaker ms h.2⟩
end

theorem Floatless.legible {x : Json} (h : x.Floatless) : x.Legible := h.mono (fun _ => False.elim) x

theorem Spells.ofText {x : Json} {v : Value} (spelled : Spells x v) (room : x.depth ≤ depthLimit) :
    Value.ofText x.render = .ok v := by
  have read := spelled depthLimit [] room delimited_nil
  rw [List.append_nil] at read
  exact bind_eq_ok_iff.2 ⟨(v, []), read, rfl⟩

end Courier.Json

namespace Courier.Object

def reread (o : Object) : Object :=
  ⟨Json.rereadMembers o.members, Json.Canonical.reread (.object o.members) o.canonical⟩

/-- An object is read as it was if and only if each of its floats is. -/
theorem reread_eq_self_iff (o : Object) : o.reread = o ↔ (Json.object o.members).Legible :=
  ⟨fun same => (Json.rereadMembers_eq_self_iff o.members).1 (congrArg members same),
    fun legible => Object.ext ((Json.rereadMembers_eq_self_iff o.members).2 legible)⟩

end Courier.Object
