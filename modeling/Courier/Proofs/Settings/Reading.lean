import Courier.Proofs.Json.Acceptance
import Courier.Settings.Reader

/-! Settings are read from every text that describes them. In an object the fields may stand in any order
and with members of other names among them; in a list the first of the fields stand in theirs. What is left
out has its default. -/
namespace Courier

open Json

namespace Field

theorem ofName?_name (f : Field) : ofName? f.name = some f := by cases f <;> decide

theorem canonical_toJson (f : Field) (a : f.Carrier) : (f.toJson a).Canonical := by
  have narrow (n : UInt32) : Whole n.toNat := ⟨by omega, by have := n.toNat_lt; omega⟩
  have wide (n : UInt64) : Whole n.toNat := ⟨by omega, by have := n.toNat_lt; omega⟩
  cases f with
  | writeKey | host => exact trivial
  | maxRetries => exact narrow a
  | retryIntervalMs | flushCount | flushSize | flushIntervalMs => exact wide a

def value (f : Field) (a : f.Carrier) : Value := ⟨f.toJson a, f.canonical_toJson a⟩

theorem accept_value (f : Field) (a : f.Carrier) : f.accept (f.value a).found = .ok a := by
  have whole {n bound : Nat} (h : n < bound) (expected : String) :
      acceptWhole bound expected (.integer n) = .ok n := by
    rw [acceptWhole, if_pos ⟨by omega, by omega⟩, Int.toNat_natCast]
  have narrow (n : UInt32) :
      (acceptWhole UInt32.size "u32" (.integer n.toNat)).map UInt32.ofNat = .ok n := by
    rw [whole n.toNat_lt, Except.map, UInt32.ofNat_toNat]
  have wide (n : UInt64) (expected : String) :
      (acceptWhole UInt64.size expected (.integer n.toNat)).map UInt64.ofNat = .ok n := by
    rw [whole n.toNat_lt, Except.map, UInt64.ofNat_toNat]
  cases f with
  | writeKey | host => rfl
  | maxRetries => exact narrow a
  | retryIntervalMs | flushIntervalMs => exact wide a "u64"
  | flushCount | flushSize => exact wide a "usize"

theorem readAs_written {f : Field} {a : f.Carrier} {i : Piece} (h : Written (f.toJson a) i.body)
    {rest : List Char} (hr : Stops rest) :
    readAs f.accept (i.chars ++ rest) = .ok (a, i.after ++ rest) := by
  have known := Written.readFound (v := f.value a) h hr
  rw [readAs_of_readFound known, accept_value]
  rfl

theorem written_render (f : Field) (a : f.Carrier) :
    Written (f.toJson a) (f.toJson a).render.toList := by
  cases f with
  | writeKey | host => exact written_text a
  | maxRetries | retryIntervalMs | flushCount | flushSize | flushIntervalMs => exact written_nat a.toNat

end Field

namespace Settings

variable {s : Settings} {fields : List Field} {f : Field} {cs gap rest : List Char}

def only (s : Settings) (fields : List Field) : Partial := fun f =>
  if f ∈ fields then some (s.get f) else none

theorem set_only (s : Settings) (fields : List Field) (f : Field) :
    (s.only fields).set f (s.get f) = s.only (f :: fields) := by
  funext g
  unfold Partial.set only
  by_cases h : f = g
  · subst h
    simp
  · simp [h, Ne.symm h]

def DefaultsBeyond (s : Settings) (fields : List Field) : Prop :=
  ∀ f, f ∉ fields → s.get f = ({} : Settings).get f

theorem fill_only (h : s.DefaultsBeyond fields) : (s.only fields).fill = s := by
  have given (f : Field) : (s.only fields f).getD (({} : Settings).get f) = s.get f := by
    unfold only
    split
    · rfl
    next missing => exact (h f missing).symm
  change Settings.mk _ _ _ _ _ _ _ = Settings.mk (s.get .writeKey) (s.get .host) (s.get .maxRetries)
    (s.get .retryIntervalMs) (s.get .flushCount) (s.get .flushSize) (s.get .flushIntervalMs)
  congr 1 <;> exact given _

/-! ### Objects -/

/-- A member is a field with its value, or of another name and well formed. -/
def Describes (s : Settings) (m : String × Member) : Prop :=
  Spelled m.1 m.2.key.body ∧
    match Field.ofName? m.1 with
    | some f => Written (f.toJson (s.get f)) m.2.value.body
    | none => WellFormed m.2.value.body

theorem Describes.field {m : String × Member} (known : Field.ofName? m.1 = some f)
    (key : Spelled m.1 m.2.key.body) (value : Written (f.toJson (s.get f)) m.2.value.body) :
    s.Describes m := ⟨key, by rw [known]; exact value⟩

theorem Describes.other {m : String × Member} (other : Field.ofName? m.1 = none)
    (key : Spelled m.1 m.2.key.body) (value : WellFormed m.2.value.body) : s.Describes m :=
  ⟨key, by rw [other]; exact value⟩

def fieldsOf (ms : List (String × Member)) : List Field := ms.filterMap fun m => Field.ofName? m.1

theorem fieldsOf_cons_field {m : String × Member} (known : Field.ofName? m.1 = some f)
    (ms : List (String × Member)) : fieldsOf (m :: ms) = f :: fieldsOf ms :=
  List.filterMap_cons_some known

theorem fieldsOf_cons_other {m : String × Member} (other : Field.ofName? m.1 = none)
    (ms : List (String × Member)) : fieldsOf (m :: ms) = fieldsOf ms :=
  List.filterMap_cons_none other

theorem takes_field {m : String × Member} (known : Field.ofName? m.1 = some f)
    (h : s.Describes m) (fresh : f ∉ fields) :
    Takes strict Partial.step (s.only fields) m.2 (s.only (f :: fields)) := by
  obtain ⟨key, value⟩ := h
  rw [known] at value
  obtain ⟨body, quoted, read⟩ := key.read
  refine .of_key quoted read fun rest hr => ?_
  have absent : ¬(s.only fields f).isSome = true := by simp [only, fresh]
  unfold Partial.step
  rw [known]
  dsimp only
  rw [if_neg absent, ← set_only]
  exact bind_eq_ok_iff.2 ⟨_, expectColon_colon m.2.key.blank_after _,
    bind_eq_ok_iff.2 ⟨_, Field.readAs_written value hr, rfl⟩⟩

theorem takes_other {m : String × Member} (other : Field.ofName? m.1 = none) (h : s.Describes m)
    (p : Partial) : Takes strict Partial.step p m.2 p := by
  obtain ⟨key, value⟩ := h
  rw [other] at value
  obtain ⟨body, quoted, read⟩ := key.read
  refine .of_key quoted read fun rest hr => ?_
  unfold Partial.step
  rw [other]
  exact bind_eq_ok_iff.2 ⟨_, expectColon_colon m.2.key.blank_after _,
    bind_eq_ok_iff.2 ⟨_, value.skip hr, rfl⟩⟩

theorem takesAll_members {ms : List (String × Member)} (h : ∀ m ∈ ms, s.Describes m)
    (once : (fieldsOf ms).Nodup) (fresh : ∀ f ∈ fieldsOf ms, f ∉ fields) :
    TakesAll strict Partial.step (s.only fields) (ms.map Prod.snd)
      (s.only ((fieldsOf ms).reverse ++ fields)) := by
  induction ms generalizing fields with
  | nil => exact .nil
  | cons m ms ih =>
    obtain ⟨first, others⟩ := List.forall_mem_cons.1 h
    cases known : Field.ofName? m.1 with
    | none =>
      rw [fieldsOf_cons_other known] at once fresh ⊢
      exact .cons (takes_other known first _) (ih others once fresh)
    | some f =>
      rw [fieldsOf_cons_field known] at once fresh ⊢
      obtain ⟨unrepeated, once⟩ := List.nodup_cons.1 once
      obtain ⟨fresh, freshOthers⟩ := List.forall_mem_cons.1 fresh
      rw [List.reverse_cons, List.append_assoc, List.singleton_append]
      refine .cons (takes_field known first fresh) (ih others once fun g hg => ?_)
      rw [List.mem_cons, not_or]
      exact ⟨fun same => unrepeated (same ▸ hg), freshOthers g hg⟩

/-! ### Lists -/

/-- The value of a field, where the list has it. -/
def Lists (s : Settings) (f : Field) (i : Piece) : Prop := Written (f.toJson (s.get f)) i.body

section

variable {given : List Field} {items : List Piece} (h : List.Forall₂ s.Lists given items)

include h

theorem readSequence_chars (left : List Field) (blank : Blank gap) (rest : List Char) :
    readSequence (given ++ left) false (s.only fields)
      (gap ++ ((items.map Piece.chars).flatMap (',' :: ·) ++ ']' :: rest)) =
        .ok (s.only (given.reverse ++ fields), rest) := by
  induction h generalizing fields gap with
  | nil => cases left <;> rw [List.nil_append, readSequence, blank.skip] <;> rfl
  | @cons f i given items first _ ih =>
    have read := Field.readAs_written first (stops_parts (items.map Piece.chars) (.inl rfl) rest)
    rw [List.cons_append, readSequence, blank.skip, List.map_cons, List.flatMap_cons,
      List.append_assoc, List.reverse_cons, List.append_assoc, List.singleton_append]
    refine bind_eq_ok_iff.2 ⟨_, read, ?_⟩
    dsimp only
    rw [set_only]
    exact ih i.blank_after

theorem readSequence_inside (left : List Field) (inside : Inside (items.map Piece.chars) cs)
    (rest : List Char) : readSequence (given ++ left) true (s.only []) (cs ++ ']' :: rest) =
      .ok (s.only given.reverse, rest) := by
  cases h with
  | nil => cases left <;> rw [List.nil_append, readSequence, Blank.skip inside] <;> rfl
  | @cons f i given items first others =>
    have read := Field.readAs_written first (stops_parts (items.map Piece.chars) (.inl rfl) rest)
    rw [show cs = _ from inside, List.append_assoc, List.cons_append, List.reverse_cons]
    rw [← readAs_skipBlank] at read
    unfold readSequence
    split
    next heq => rw [heq] at read; cases read
    next heq => rw [heq] at read; cases read
    next c behind _ heq =>
      rw [heq] at read
      refine bind_eq_ok_iff.2 ⟨_, read, ?_⟩
      dsimp only
      rw [set_only]
      exact readSequence_chars others left i.blank_after rest

end

/-! ### Texts of settings -/

/-- The texts that settings can be read from. -/
inductive Described (s : Settings) : List Char → Prop where
  | object {front cs back : List Char} {members : List (String × Member)} (blank_front : Blank front)
      (blank_back : Blank back) (inside : Inside (members.map fun m => m.2.chars) cs)
      (describes : ∀ m ∈ members, s.Describes m) (once : (fieldsOf members).Nodup)
      (defaults : s.DefaultsBeyond (fieldsOf members)) :
      Described s (front ++ '\x7b' :: (cs ++ '\x7d' :: back))
  | list {front cs back : List Char} {given : List Field} {items : List Piece}
      (blank_front : Blank front) (blank_back : Blank back)
      (inside : Inside (items.map Piece.chars) cs) (first : given <+: Field.all)
      (lists : List.Forall₂ s.Lists given items) (defaults : s.DefaultsBeyond given) :
      Described s (front ++ '[' :: (cs ++ ']' :: back))

theorem expectEnd_blank {back : List Char} (h : Blank back) : expectEnd back = .ok () := by
  have ended := h.skip []
  rw [List.append_nil] at ended
  exact if_pos ended

theorem DefaultsBeyond.reverse (h : s.DefaultsBeyond fields) : s.DefaultsBeyond fields.reverse :=
  fun f missing => h f fun given => missing (List.mem_reverse.2 given)

theorem Described.ofChars (h : s.Described cs) : ofChars cs = .ok s := by
  cases h with
  | @object front cs back members blank_front blank_back inside describes once defaults =>
    have taken := takesAll_members describes once fun _ _ => List.not_mem_nil
    rw [List.append_nil] at taken
    have parts : (members.map Prod.snd).map Member.chars = members.map fun m => m.2.chars :=
      List.map_map
    have read := foldMembers_inside taken (parts ▸ inside) back
    rw [Settings.ofChars, blank_front.skip]
    refine bind_eq_ok_iff.2 ⟨_, read, bind_eq_ok_iff.2 ⟨_, expectEnd_blank blank_back, ?_⟩⟩
    exact congrArg _ (fill_only defaults.reverse)
  | @list front cs back given items blank_front blank_back inside first lists defaults =>
    obtain ⟨left, whole⟩ := first
    have read := readSequence_inside lists left inside back
    rw [whole] at read
    rw [Settings.ofChars, blank_front.skip]
    refine bind_eq_ok_iff.2 ⟨_, read, bind_eq_ok_iff.2 ⟨_, expectEnd_blank blank_back, ?_⟩⟩
    exact congrArg _ (fill_only defaults.reverse)

def printedMembers (s : Settings) : List (String × Member) :=
  Field.all.map fun f => (f.name, .printed f.name (f.toJson (s.get f)))

theorem fieldsOf_printedMembers (s : Settings) : fieldsOf s.printedMembers = Field.all := by
  have named (fs : List Field) :
      fieldsOf (fs.map fun f => (f.name, .printed f.name (f.toJson (s.get f)))) = fs := by
    induction fs with
    | nil => rfl
    | cons f fs ih => exact (fieldsOf_cons_field f.ofName?_name _).trans (congrArg (f :: ·) ih)
  exact named Field.all

theorem describes_printed (s : Settings) (f : Field) :
    s.Describes (f.name, .printed f.name (f.toJson (s.get f))) := by
  refine .field f.ofName?_name ?_ ?_
  · rw [Member.key_printed]
    exact spelled_quote f.name
  · rw [Member.value_printed]
    exact f.written_render (s.get f)

theorem described_text (s : Settings) : s.Described s.text.toList := by
  have text : s.text.toList = _ := (List.append_nil _).symm.trans (toList_object _ [])
  have inside := inside_renderMembers (Field.all.map fun f => (f.name, f.toJson (s.get f)))
  have parts : s.printedMembers.map (fun m => m.2.chars) =
      (Field.all.map fun f => (f.name, f.toJson (s.get f))).map fun m => (Member.printed m.1 m.2).chars := by
    rw [printedMembers, List.map_map, List.map_map]
    rfl
  rw [← parts] at inside
  have describes : ∀ m ∈ s.printedMembers, s.Describes m := by
    intro m hm
    obtain ⟨f, -, rfl⟩ := List.mem_map.1 hm
    exact s.describes_printed f
  have once : (fieldsOf s.printedMembers).Nodup := by
    rw [fieldsOf_printedMembers]
    decide
  have defaults : s.DefaultsBeyond (fieldsOf s.printedMembers) := by
    intro f missing
    rw [fieldsOf_printedMembers] at missing
    exact absurd (by cases f <;> decide) missing
  rw [text]
  exact @Described.object s [] _ [] s.printedMembers blank_nil blank_nil inside describes once defaults

/-- Settings are read from every text that describes them, the one they are written as among them. -/
theorem reads_descriptions (s : Settings) :
    (∀ text : String, s.Described text.toList → ofJsonText text = .ok s) ∧
      s.Described s.text.toList ∧ ofJsonText s.text = .ok s :=
  ⟨fun _ => Described.ofChars, s.described_text, s.described_text.ofChars⟩

/-- An object that means nothing: half of a surrogate pair names a number that no float can hold. -/
def meaningless : List Char := "\x7b\"\\uD800\" :1e999\x7d".toList

theorem wellFormed_meaningless : WellFormed meaningless := by
  have half : Quad 0xd800 ['D', '8', '0', '0'] :=
    @Quad.mk 13 8 0 0 _ _ _ _ (by decide) (by decide) (by decide) (by decide)
  have key : Quoted "\"\\uD800\"".toList := ⟨[_], List.forall_mem_singleton.2 (.half half), rfl⟩
  have digits : Digits ['9', '9', '9'] := by decide
  have number : Numeral ⟨false, ['1'], none, some (false, ['9', '9', '9'])⟩ "1e999".toList :=
    ⟨by decide, by decide, [], _, .absent, .present (.inl rfl) .implied digits, rfl⟩
  exact @WellFormed.object [⟨⟨[], _, [' '], by decide, by decide⟩, .tight _⟩] _ rfl
    (List.forall_mem_singleton.2 key) (List.forall_mem_singleton.2 (.number number))

def emphatic : Settings := { host := "a\n😀", maxRetries := 0 }

/-- The members stand in another order, with white space, escapes and a member that is not known. -/
def emphaticMembers : List (String × Member) :=
  [("max_retries", ⟨.tight "\"max_retries\"".toList, ⟨[' '], ['0'], ['\n'], by decide, by decide⟩⟩),
    ("note", ⟨⟨['\t'], "\"note\"".toList, [], by decide, by decide⟩, .tight meaningless⟩),
    ("host", ⟨.tight "\"ho\\u0073t\"".toList, .tight "\"a\\n\\ud83d\\uDE00\"".toList⟩)]

def emphaticText : String :=
  " \x7b\"max_retries\": 0\n,\t\"note\":\x7b\"\\uD800\" :1e999\x7d," ++
    "\"ho\\u0073t\":\"a\\n\\ud83d\\uDE00\"\x7d "

theorem spelled_host : Spelled "host" "\"ho\\u0073t\"".toList := by
  have numbered : Quad 's'.toNat ['0', '0', '7', '3'] :=
    @Quad.mk 0 0 7 3 _ _ _ _ (by decide) (by decide) (by decide) (by decide)
  have plain {c : Char} (h : 32 ≤ c.toNat ∧ c ≠ '"' ∧ c ≠ '\\') : Spelling c [c] := .plain h.1 h.2.1 h.2.2
  exact ⟨[_, _, _, _], .cons (plain (by decide)) (.cons (plain (by decide)) (.cons (.numbered numbered)
    (.cons (plain (by decide)) .nil))), rfl⟩

theorem spelled_emphatic : Spelled emphatic.host "\"a\\n\\ud83d\\uDE00\"".toList := by
  have high : Quad (0xd800 + 61) ['d', '8', '3', 'd'] :=
    @Quad.mk 13 8 3 13 _ _ _ _ (by decide) (by decide) (by decide) (by decide)
  have low : Quad (0xdc00 + 512) ['D', 'E', '0', '0'] :=
    @Quad.mk 13 14 0 0 _ _ _ _ (by decide) (by decide) (by decide) (by decide)
  have smile : Spelling '😀' "\\ud83d\\uDE00".toList := .paired (by decide) (by decide) rfl high low
  exact ⟨[_, _, _], .cons (.plain (by decide) (by decide) (by decide)) (.cons (.named .line)
    (.cons smile .nil)), rfl⟩

theorem described_emphaticText : emphatic.Described emphaticText.toList := by
  have describes : ∀ m ∈ emphaticMembers, emphatic.Describes m := by
    refine List.forall_mem_cons.2 ⟨?_, List.forall_mem_cons.2 ⟨?_, List.forall_mem_singleton.2 ?_⟩⟩
    · exact .field (Field.ofName?_name .maxRetries) (spelled_quote "max_retries") (.number 0)
    · exact .other (by decide) (spelled_quote "note") wellFormed_meaningless
    · exact .field (Field.ofName?_name .host) spelled_host (.text spelled_emphatic)
  have once : (fieldsOf emphaticMembers).Nodup := by decide
  have defaults : emphatic.DefaultsBeyond (fieldsOf emphaticMembers) := by
    intro f missing
    cases f with
    | host | maxRetries => exact absurd (by decide) missing
    | _ => rfl
  exact @Described.object emphatic [' '] _ [' '] emphaticMembers (by decide) (by decide) rfl describes
    once defaults

theorem reads_descriptions_emphaticText :
    emphatic.Described emphaticText.toList ∧ ofJsonText emphaticText = .ok emphatic :=
  ⟨described_emphaticText, (reads_descriptions emphatic).1 emphaticText described_emphaticText⟩

end Settings

end Courier
