import Courier.Proofs.Json.RoundTrip
import Courier.Proofs.Json.Scanning
import Mathlib.Data.List.DropRight
import Mathlib.Data.List.Forall2

/-! Whatever is well formed is passed over, at any depth and with white space anywhere, and a text or a
whole number is known for what it is. An object is read member by member, by any step that takes each of
them. What is printed is well formed. -/
namespace Courier.Json

/-! ### Lists -/

theorem readValue_congr {leaves : Leaves} {cs cs' : List Char} (same : skipBlank cs = skipBlank cs')
    (depth : Nat) : readValue leaves depth cs = readValue leaves depth cs' := by
  cases depth with
  | zero => rw [readValue, readValue, readScalar, readScalar, same]
  | succ depth => rw [readValue, readValue, readScalar, readScalar, same]

theorem Piece.chars_append (p : Piece) (rest : List Char) :
    p.chars ++ rest = p.before ++ (p.body ++ (p.after ++ rest)) := by
  rw [chars, List.append_assoc, List.append_assoc]

theorem length_le_of_inside {part cs : List Char} {parts : List (List Char)} (inside : Inside parts cs)
    (h : part ∈ parts) : part.length ≤ cs.length := by
  cases parts with
  | nil => cases h
  | cons first parts =>
    rw [show cs = _ from inside, List.length_append]
    rcases List.mem_cons.1 h with rfl | h
    · exact Nat.le_add_right _ _
    · have part_le : (',' :: part).length ≤ (parts.flatMap (',' :: ·)).length :=
        (List.sublist_flatten_of_mem (List.mem_map_of_mem h)).length_le
      rw [List.length_cons] at part_le
      omega

theorem stops_parts (parts : List (List Char)) {c : Char} (closing : c = ']' ∨ c = '\x7d')
    (rest : List Char) : Stops (parts.flatMap (',' :: ·) ++ c :: rest) := by
  cases parts with
  | nil => exact stops_cons rest (.inr closing)
  | cons part parts => exact stops_cons _ (.inl rfl)

/-- Each part has a comma in front of it, so the text is fuel enough. -/
theorem length_le_parts (parts : List (List Char)) :
    parts.length ≤ (parts.flatMap (',' :: ·)).length := by
  induction parts with
  | nil => exact Nat.zero_le _
  | cons part parts ih =>
    rw [List.flatMap_cons, List.length_append, List.length_cons, List.length_cons]
    omega

def Reads (leaves : Leaves) (depth : Nat) (cs : List Char) (v : Value) : Prop :=
  ∀ rest, Stops rest → readValue leaves depth (cs ++ rest) = .ok (v, rest)

section

variable {leaves : Leaves} {depth fuel : Nat} {cs gap : List Char} {items : List Piece}
  {v : Value} {vs : List Value}

theorem Reads.chars {i : Piece} (h : Reads leaves depth i.body v) {rest : List Char}
    (hr : Stops rest) : readValue leaves depth (i.chars ++ rest) = .ok (v, i.after ++ rest) := by
  rw [i.chars_append, readValue_congr (i.blank_before.skip _)]
  exact h (i.after ++ rest) (i.blank_after.stops hr)

theorem moreItems_chars (h : List.Forall₂ (fun i => Reads leaves depth i.body) items vs)
    (enough : items.length < fuel) (acc : List Value) (blank : Blank gap) (rest : List Char) :
    moreItems (readValue leaves depth) fuel acc
      (gap ++ ((items.map Piece.chars).flatMap (',' :: ·) ++ ']' :: rest)) =
        .ok (acc.reverse ++ vs, rest) := by
  induction h generalizing fuel acc gap with
  | nil =>
    cases fuel with
    | zero => cases enough
    | succ fuel =>
      rw [moreItems, blank.skip, List.append_nil]
      rfl
  | @cons i v items vs first _ ih =>
    cases fuel with
    | zero => cases enough
    | succ fuel =>
      have read := first.chars (stops_parts (items.map Piece.chars) (.inl rfl) rest)
      have more := ih (Nat.lt_of_succ_lt_succ enough) (v :: acc) i.blank_after
      rw [List.reverse_cons, List.append_assoc, List.singleton_append] at more
      rw [moreItems, blank.skip, List.map_cons, List.flatMap_cons, List.append_assoc]
      exact bind_eq_ok_iff.2 ⟨_, read, more⟩

theorem readItems_inside (h : List.Forall₂ (fun i => Reads leaves depth i.body) items vs)
    (inside : Inside (items.map Piece.chars) cs) (rest : List Char) :
    readItems (readValue leaves depth) (cs ++ ']' :: rest) = .ok (vs, rest) := by
  cases h with
  | nil =>
    rw [readItems, Blank.skip inside]
    rfl
  | @cons i v items vs first others =>
    have read := first.chars (stops_parts (items.map Piece.chars) (.inl rfl) rest)
    rw [show cs = _ from inside, List.append_assoc]
    unfold readItems
    split
    next heq => exact absurd heq (readValue_ne_bracket read _)
    next =>
      rw [read]
      refine moreItems_chars others ?_ [v] i.blank_after rest
      have enough := length_le_parts (items.map Piece.chars)
      rw [List.length_map] at enough
      rw [List.length_append, List.length_append]
      omega

end

/-! ### Objects -/

theorem readKey_quote {leaves : Leaves} {gap : List Char} (blank : Blank gap) (cs : List Char) :
    readKey leaves (gap ++ '"' :: cs) = leaves.text cs := by
  rw [readKey, blank.skip]
  rfl

theorem expectColon_colon {gap : List Char} (blank : Blank gap) (cs : List Char) :
    expectColon (gap ++ ':' :: cs) = .ok cs := by
  rw [expectColon, blank.skip]
  rfl

section

variable {σ : Type} {leaves : Leaves} {step : σ → String → List Char → Except Fault (σ × List Char)}
  {s t u : σ} {m : Member} {ms : List Member} {cs gap : List Char} {fuel : Nat}

/-- The step takes a member, whose key is read, up to the end of its value. -/
def Takes (leaves : Leaves) (step : σ → String → List Char → Except Fault (σ × List Char)) (s : σ)
    (m : Member) (t : σ) : Prop :=
  ∀ rest, Stops rest → ∃ key behind,
    readKey leaves (m.key.body ++ (m.key.after ++ ':' :: (m.value.chars ++ rest))) = .ok (key, behind) ∧
      step s key behind = .ok (t, m.value.after ++ rest)

theorem Takes.of_key {key : String} {body : List Char} (quoted : m.key.body = '"' :: body)
    (read : ∀ rest, leaves.text (body ++ rest) = .ok (key, rest))
    (stepped : ∀ rest, Stops rest → step s key (m.key.after ++ ':' :: (m.value.chars ++ rest)) =
      .ok (t, m.value.after ++ rest)) : Takes leaves step s m t := by
  intro rest hr
  refine ⟨key, _, ?_, stepped rest hr⟩
  rw [quoted]
  exact (readKey_quote blank_nil _).trans (read _)

inductive TakesAll (leaves : Leaves) (step : σ → String → List Char → Except Fault (σ × List Char)) :
    σ → List Member → σ → Prop where
  | nil {s : σ} : TakesAll leaves step s [] s
  | cons {s t u : σ} {m : Member} {ms : List Member} (first : Takes leaves step s m t)
      (others : TakesAll leaves step t ms u) : TakesAll leaves step s (m :: ms) u

theorem Takes.read_chars (h : Takes leaves step s m t) {rest : List Char} (hr : Stops rest) :
    ∃ key behind, readKey leaves (m.chars ++ rest) = .ok (key, behind) ∧
      step s key behind = .ok (t, m.value.after ++ rest) := by
  obtain ⟨key, behind, keyed, stepped⟩ := h rest hr
  refine ⟨key, behind, ?_, stepped⟩
  rw [Member.chars, List.append_assoc, List.cons_append, m.key.chars_append, readKey,
    m.key.blank_before.skip]
  exact keyed

theorem moreMembers_chars (h : TakesAll leaves step s ms t) (enough : ms.length < fuel)
    (blank : Blank gap) (rest : List Char) : moreMembers leaves step fuel s
      (gap ++ ((ms.map Member.chars).flatMap (',' :: ·) ++ '\x7d' :: rest)) = .ok (t, rest) := by
  induction h generalizing fuel gap with
  | nil =>
    cases fuel with
    | zero => cases enough
    | succ fuel =>
      rw [moreMembers, blank.skip]
      rfl
  | @cons s t u m ms first _ ih =>
    cases fuel with
    | zero => cases enough
    | succ fuel =>
      obtain ⟨key, behind, keyed, stepped⟩ :=
        first.read_chars (stops_parts (ms.map Member.chars) (.inr rfl) rest)
      rw [moreMembers, blank.skip, List.map_cons, List.flatMap_cons, List.append_assoc]
      refine bind_eq_ok_iff.2 ⟨_, keyed, bind_eq_ok_iff.2 ⟨_, stepped, ?_⟩⟩
      exact ih (Nat.lt_of_succ_lt_succ enough) m.value.blank_after

theorem foldMembers_inside (h : TakesAll leaves step s ms t)
    (inside : Inside (ms.map Member.chars) cs) (rest : List Char) :
    foldMembers leaves step s (cs ++ '\x7d' :: rest) = .ok (t, rest) := by
  cases h with
  | nil =>
    rw [foldMembers, Blank.skip inside]
    rfl
  | @cons _ v _ m ms first others =>
    obtain ⟨key, behind, keyed, stepped⟩ :=
      first.read_chars (stops_parts (ms.map Member.chars) (.inr rfl) rest)
    rw [show cs = _ from inside, List.append_assoc]
    unfold foldMembers
    split
    next heq =>
      rw [readKey, heq] at keyed
      cases keyed
    next =>
      refine bind_eq_ok_iff.2 ⟨_, keyed, bind_eq_ok_iff.2 ⟨_, stepped, ?_⟩⟩
      refine moreMembers_chars others ?_ m.value.blank_after rest
      have enough := length_le_parts (ms.map Member.chars)
      rw [List.length_map] at enough
      rw [List.length_append, List.length_append]
      omega

end

/-! ### Whatever is well formed -/

section

variable {depth : Nat} {cs : List Char}

theorem reads_word (h : cs = "null".toList ∨ cs = "true".toList ∨ cs = "false".toList) :
    ∃ v, Reads lenient depth cs v := by
  rcases h with rfl | rfl | rfl
  · exact ⟨Value.null, fun rest _ => readValue_eq_readScalar rfl (by decide) (by decide) depth⟩
  · exact ⟨Value.bool true, fun rest _ => readValue_eq_readScalar rfl (by decide) (by decide) depth⟩
  · exact ⟨Value.bool false, fun rest _ => readValue_eq_readScalar rfl (by decide) (by decide) depth⟩

theorem Numeral.exists_first {l : Literal} (h : Numeral l cs) :
    ∃ c rest, cs = c :: rest ∧ (c = '-' ∨ c.isDigit = true) := by
  obtain ⟨fraction, exponent, -, -, rfl⟩ := h.parts
  obtain ⟨c, digits, whole, digit⟩ := h.whole.exists_first
  cases l.isNegative with
  | true => exact ⟨'-', _, rfl, .inl rfl⟩
  | false =>
    rw [whole]
    exact ⟨c, _, rfl, .inr digit⟩

theorem Numeral.reads {l : Literal} (h : Numeral l cs) : Reads lenient depth cs Value.null := by
  intro rest hr
  have skipped := h.skip hr
  obtain ⟨c, cs, rfl, first⟩ := h.exists_first
  rw [List.cons_append] at skipped ⊢
  obtain ⟨shown, noList, noObject, scalar⟩ := readScalar_number lenient first (cs ++ rest)
  rw [readValue_eq_readScalar shown noList noObject, scalar, skipped]

theorem Quoted.reads (h : Quoted cs) : ∃ v, Reads lenient depth cs v := by
  obtain ⟨s, body, rfl, read⟩ := h.read
  refine ⟨Value.text s, fun rest _ => ?_⟩
  rw [List.cons_append, readValue_eq_readScalar rfl (by decide) (by decide)]
  exact map_eq_ok_iff.2 ⟨_, read rest, rfl⟩

theorem exists_reads {items : List Piece} (h : ∀ i ∈ items, ∃ v, Reads lenient depth i.body v) :
    ∃ vs, List.Forall₂ (fun i => Reads lenient depth i.body) items vs := by
  induction items with
  | nil => exact ⟨[], .nil⟩
  | cons i items ih =>
    obtain ⟨⟨v, first⟩, others⟩ := List.forall_mem_cons.1 h
    obtain ⟨vs, others⟩ := ih others
    exact ⟨v :: vs, .cons first others⟩

theorem exists_takesAll {members : List Member} (keys : ∀ m ∈ members, Quoted m.key.body)
    (values : ∀ m ∈ members, ∃ v, Reads lenient depth m.value.body v) (front : List (String × Value)) :
    ∃ ms, TakesAll lenient (listMember lenient depth) front members ms := by
  induction members generalizing front with
  | nil => exact ⟨front, .nil⟩
  | cons m members ih =>
    obtain ⟨key, keys⟩ := List.forall_mem_cons.1 keys
    obtain ⟨⟨v, value⟩, values⟩ := List.forall_mem_cons.1 values
    obtain ⟨name, body, quoted, read⟩ := key.read
    obtain ⟨ms, others⟩ := ih keys values (front ++ [(name, v)])
    refine ⟨ms, .cons (.of_key quoted read fun rest hr => ?_) others⟩
    have member := bind_eq_ok_iff.2 ⟨_, expectColon_colon m.key.blank_after _, value.chars hr⟩
    exact bind_eq_ok_iff.2 ⟨_, member, rfl⟩

theorem Piece.length_body_le (p : Piece) : p.body.length ≤ p.chars.length := by
  rw [chars, List.length_append, List.length_append]
  omega

theorem Member.length_value_le (m : Member) : m.value.body.length ≤ m.chars.length := by
  have := m.value.length_body_le
  rw [chars, List.length_append, List.length_cons]
  omega

/-- A level takes a bracket, so that there are no more of them than characters. -/
theorem WellFormed.exists_reads (h : WellFormed cs) (room : cs.length ≤ depth) :
    ∃ v, Reads lenient depth cs v := by
  induction h generalizing depth with
  | word h => exact reads_word h
  | number h => exact ⟨_, h.reads⟩
  | text h => exact h.reads
  | @list items cs inside _ ih =>
    rw [List.length_cons, List.length_append] at room
    cases depth with
    | zero => cases room
    | succ depth =>
      have room {i : Piece} (hi : i ∈ items) : i.body.length ≤ depth := by
        have := length_le_of_inside inside (List.mem_map_of_mem hi)
        have := i.length_body_le
        omega
      obtain ⟨vs, values⟩ := Json.exists_reads fun i hi => ih i hi (room hi)
      refine ⟨Value.list vs, fun rest _ => ?_⟩
      rw [List.cons_append, List.append_assoc, List.singleton_append]
      exact bind_eq_ok_iff.2 ⟨_, readItems_inside values inside rest, rfl⟩
  | @object members cs inside keys _ ih =>
    rw [List.length_cons, List.length_append] at room
    cases depth with
    | zero => cases room
    | succ depth =>
      have room {m : Member} (hm : m ∈ members) : m.value.body.length ≤ depth := by
        have := length_le_of_inside inside (List.mem_map_of_mem hm)
        have := m.length_value_le
        omega
      obtain ⟨ms, taken⟩ := exists_takesAll keys (fun m hm => ih m hm (room hm)) []
      refine ⟨Value.object (Object.ofMembers ms), fun rest _ => ?_⟩
      rw [List.cons_append, List.append_assoc, List.singleton_append]
      exact (readValue_object_iff (skipBlank_cons rfl _)).2
        ⟨ms, foldMembers_inside taken inside rest, rfl⟩

theorem WellFormed.skip {i : Piece} (h : WellFormed i.body) {rest : List Char} (hr : Stops rest) :
    skipValue (i.chars ++ rest) = .ok (i.after ++ rest) := by
  have room : i.body.length ≤ (i.chars ++ rest).length := by
    have := i.length_body_le
    rw [List.length_append]
    omega
  obtain ⟨v, read⟩ := h.exists_reads room
  exact map_eq_ok_iff.2 ⟨_, read.chars hr, rfl⟩

end

/-! ### Scalars -/

theorem Written.readScalar {v : Value} {cs : List Char} (h : Written v.json cs) {rest : List Char}
    (hr : Stops rest) : ∃ c behind, cs ++ rest = c :: behind ∧ isBlank c = false ∧ c ≠ '[' ∧
      c ≠ '\x7b' ∧ readScalar strict (c :: behind) = .ok (v, rest) := by
  obtain ⟨x, canonical⟩ := v
  cases h with
  | text h =>
    obtain ⟨body, rfl, read⟩ := h.read
    exact ⟨'"', _, rfl, rfl, by decide, by decide, map_eq_ok_iff.2 ⟨_, read rest, rfl⟩⟩
  | number n =>
    obtain ⟨c, digits, text, first⟩ := (numeral_toDigits n).exists_first
    have read := number_toDigits canonical hr
    rw [text] at read ⊢
    obtain ⟨shown, noList, noObject, scalar⟩ := readScalar_number strict first (digits ++ rest)
    exact ⟨c, _, rfl, shown, noList, noObject, scalar.trans read⟩

theorem Written.readFound {i : Piece} {v : Value} (h : Written v.json i.body) {rest : List Char}
    (hr : Stops rest) : readFound (i.chars ++ rest) = .ok (v.found, i.after ++ rest) := by
  obtain ⟨c, behind, text, shown, noList, noObject, read⟩ := h.readScalar (i.blank_after.stops hr)
  have opened : skipBlank (i.chars ++ rest) = c :: behind := by
    rw [i.chars_append, i.blank_before.skip, text, skipBlank_cons shown]
  rw [readFound_of_scalar (fun _ list => noList (List.cons.inj (opened.symm.trans list)).1)
    (fun _ object => noObject (List.cons.inj (opened.symm.trans object)).1)]
  refine map_eq_ok_iff.2 ⟨(v, i.after ++ rest), ?_, rfl⟩
  rw [Json.readScalar, skipBlank_cons shown] at read
  rw [Json.readScalar, opened]
  exact read

theorem readFound_skipBlank (cs : List Char) : readFound (skipBlank cs) = readFound cs := by
  have same : skipBlank (skipBlank cs) = skipBlank cs := List.dropWhile_idempotent isBlank cs
  rw [readFound, readFound, Json.readScalar, Json.readScalar, same]

theorem readAs_skipBlank {α : Type} (accept : Found → Except Mismatch α) (cs : List Char) :
    readAs accept (skipBlank cs) = readAs accept cs := by
  rw [readAs, readAs, readFound_skipBlank]

/-! ### What is printed -/

theorem spelling_escape (c : Char) : Spelling c (escape c) := by
  by_cases named : c = '"' ∨ c = '\\' ∨ c = '\x08' ∨ c = '\t' ∨ c = '\n' ∨ c = '\x0c' ∨ c = '\r'
  · rcases named with rfl | rfl | rfl | rfl | rfl | rfl | rfl
    · exact .named .quote
    · exact .named .backslash
    · exact .named .backspace
    · exact .named .tab
    · exact .named .line
    · exact .named .page
    · exact .named .carriage
  · simp only [not_or] at named
    obtain ⟨quote, backslash, back, tab, line, page, carriage⟩ := named
    simp only [escape, if_neg quote, if_neg backslash, if_neg back, if_neg tab, if_neg line,
      if_neg page, if_neg carriage]
    by_cases control : c.toNat < 32
    · have zero : Hex 0 '0' := ⟨by decide, .inl rfl⟩
      have high : Hex (c.toNat / 16) (hexDigit (c.toNat / 16)) := ⟨by omega, .inl rfl⟩
      have low : Hex (c.toNat % 16) (hexDigit (c.toNat % 16)) := ⟨by omega, .inl rfl⟩
      have quad := Quad.mk zero zero high low
      rw [show 16 * (16 * (16 * 0 + 0) + c.toNat / 16) + c.toNat % 16 = c.toNat by omega] at quad
      rw [if_pos control]
      exact .numbered quad
    · rw [if_neg control]
      exact .plain (Nat.not_lt.1 control) quote backslash

theorem spelled_quote (s : String) : Spelled s (quote s).toList := by
  refine ⟨s.toList.map escape, ?_, toList_quote s⟩
  rw [List.forall₂_map_right_iff, List.forall₂_same]
  exact fun c _ => spelling_escape c

theorem written_text (s : String) : Written (.str s) (render (.str s)).toList := .text (spelled_quote s)

theorem written_nat (n : Nat) : Written (.int n) (render (.int n)).toList := by
  rw [show (render (.int n)).toList = Nat.toDigits 10 n from Nat.toList_repr]
  exact .number n

def Member.printed (key : String) (x : Json) : Member :=
  ⟨.tight (quote key).toList, .tight x.render.toList⟩

theorem Member.key_printed (key : String) (x : Json) :
    (printed key x).key.body = (quote key).toList := by simp only [printed, Piece.tight]

theorem Member.value_printed (key : String) (x : Json) :
    (printed key x).value.body = x.render.toList := by simp only [printed, Piece.tight]

theorem Member.chars_printed (key : String) (x : Json) :
    (printed key x).chars = (quote key).toList ++ ':' :: x.render.toList := by
  simp [printed, chars, Piece.tight, Piece.chars]

theorem toList_renderMembers_cons (key : String) (x : Json) (ms : List (String × Json)) :
    (renderMembers ((key, x) :: ms)).toList =
      (Member.printed key x).chars ++ (renderMembersTail ms).toList := by
  rw [Member.chars_printed]
  simp [renderMembers]

theorem toList_renderMembersTail (ms : List (String × Json)) : (renderMembersTail ms).toList =
    (ms.map fun m => (Member.printed m.1 m.2).chars).flatMap (',' :: ·) := by
  induction ms with
  | nil => rfl
  | cons m ms ih =>
    have text := toList_renderMembersTail_cons m ms []
    rw [List.append_nil, List.append_nil] at text
    rw [text, toList_renderMembers_cons, ih]
    rfl

theorem inside_renderMembers (ms : List (String × Json)) :
    Inside (ms.map fun m => (Member.printed m.1 m.2).chars) (renderMembers ms).toList := by
  cases ms with
  | nil => exact blank_nil
  | cons m ms => exact (toList_renderMembers_cons m.1 m.2 ms).trans (by rw [toList_renderMembersTail])

end Courier.Json
