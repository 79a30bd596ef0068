import Courier.Command.Options
import Mathlib.Data.List.TakeWhile

/-! The arguments of the command, as they may be spelled. Options are taken from arguments if and only if
these are a sequence of spellings in which none is set twice. -/
namespace Courier.Command

open Options (Valued)

namespace Options.Valued

def name : Valued → String
  | settingsPath => "config"
  | writeKey => "write-key"
  | host => "host"

def letter? : Valued → Option Char
  | settingsPath => some 'c'
  | writeKey => some 'w'
  | host => .none

end Options.Valued

/-- The arguments that give an option a value: by its name or by its letter, with the value in an argument
of its own, behind an equals sign, or right behind the letter. -/
inductive Spelling (option : Valued) (value : String) : List String → Prop where
  | apart (plain : value = "-" ∨ value.toList.head? ≠ some '-') :
      Spelling option value ["--" ++ option.name, value]
  | equated : Spelling option value ["--" ++ option.name ++ "=" ++ value]
  | letterApart {c : Char} (letter : option.letter? = some c)
      (plain : value = "-" ∨ value.toList.head? ≠ some '-') :
      Spelling option value ["-".push c, value]
  | letterEquated {c : Char} (letter : option.letter? = some c) :
      Spelling option value ["-".push c ++ "=" ++ value]
  | attached {c : Char} (letter : option.letter? = some c) (nonempty : value ≠ "")
      (unequated : value.toList.head? ≠ some '=') : Spelling option value ["-".push c ++ value]

/-- The arguments make of some options these. Nothing may stand behind `--`. -/
inductive Given : Options → List String → Options → Prop where
  | none {o : Options} : Given o [] o
  | ended {o : Options} : Given o ["--"] o
  | valued {o o' o'' : Options} {option : Valued} {value : String} {spelled arguments : List String}
      (spelling : Spelling option value spelled) (set : o.set? option value = some o')
      (behind : Given o' arguments o'') : Given o (spelled ++ arguments) o''
  | dryRun {o o' : Options} {arguments : List String} (unset : o.isDryRun = false)
      (behind : Given { o with isDryRun := true } arguments o') : Given o ("--dry-run" :: arguments) o'

namespace Argument

variable {option : Valued} {value : String} {given : Option String} {a : String}

theorem isValue_iff : isValue value = true ↔ value = "-" ∨ value.toList.head? ≠ some '-' := by
  simp [isValue]

theorem ofLong_eq_valued_iff {name : String} {given' : Option String} :
    ofLong name given = .valued option given' ↔ name = option.name ∧ given = given' := by
  unfold ofLong
  cases option <;> split <;> simp_all [Valued.name] <;> split <;> simp

theorem ofLong_eq_dryRun_iff {name : String} : ofLong name given = .dryRun ↔ name = "dry-run" ∧ given = none := by
  unfold ofLong
  split <;> simp_all <;> cases given <;> simp

theorem ofShort_eq_valued_iff {c : Char} {cs : List Char} :
    ofShort c cs = .valued option given ↔ option.letter? = some c ∧ attached cs = given := by
  unfold ofShort
  cases option <;> split <;> simp_all [Valued.letter?, eq_comm]

theorem ofShort_ne_dryRun {c : Char} {cs : List Char} : ofShort c cs ≠ .dryRun := by
  unfold ofShort
  split <;> nofun

theorem takeWhile_name {name : List Char} (whole : '=' ∉ name) (rest : List Char) :
    (name ++ rest).takeWhile (· ≠ '=') = name ++ rest.takeWhile (· ≠ '=') ∧
      (name ++ rest).dropWhile (· ≠ '=') = rest.dropWhile (· ≠ '=') := by
  have passes : ∀ c ∈ name, decide (c ≠ '=') = true := fun c hc =>
    decide_eq_true fun heq => whole (heq ▸ hc)
  exact ⟨List.takeWhile_append_of_pos passes, List.dropWhile_append_of_pos passes⟩

theorem ofText_named {name : List Char} (whole : '=' ∉ name) :
    ofText (String.ofList ('-' :: '-' :: name)) = ofLong (String.ofList name) none := by
  obtain ⟨-, left⟩ := takeWhile_name whole []
  rw [List.append_nil, List.dropWhile_nil] at left
  simp only [ofText, String.toList_ofList, left]

theorem ofText_equated {name : List Char} (whole : '=' ∉ name) (value : List Char) :
    ofText (String.ofList ('-' :: '-' :: (name ++ '=' :: value))) =
      ofLong (String.ofList name) (some (String.ofList value)) := by
  obtain ⟨taken, left⟩ := takeWhile_name whole ('=' :: value)
  rw [List.takeWhile_cons_of_neg (by simp), List.append_nil] at taken
  rw [List.dropWhile_cons_of_neg (by simp)] at left
  simp only [ofText, String.toList_ofList, left, taken]

theorem ofText_lettered {c : Char} (apart : c ≠ '-') (cs : List Char) :
    ofText (String.ofList ('-' :: c :: cs)) = ofShort c cs := by
  rw [ofText, String.toList_ofList]
  split
  next heq => exact absurd (List.cons.inj (List.cons.inj heq).2).1 apart
  next heq =>
    cases heq
    rfl
  next none => exact absurd rfl (none c cs)

/-- The forms that an argument has if it says anything. -/
theorem form_of_ofText (a : String) : ofText a = .unknown ∨
    (∃ name, '=' ∉ name ∧ a = String.ofList ('-' :: '-' :: name)) ∨
    (∃ name value, '=' ∉ name ∧ a = String.ofList ('-' :: '-' :: (name ++ '=' :: value))) ∨
    ∃ c cs, c ≠ '-' ∧ a = String.ofList ('-' :: c :: cs) := by
  have spelled {cs : List Char} (heq : a.toList = cs) : a = String.ofList cs :=
    heq ▸ String.ofList_toList.symm
  unfold ofText
  split
  next cs heq =>
    have parts := List.takeWhile_append_dropWhile (p := (· ≠ '=')) (l := cs)
    have whole : '=' ∉ cs.takeWhile (· ≠ '=') := fun equals => by
      simpa using List.mem_takeWhile_imp equals
    cases left : cs.dropWhile (· ≠ '=') with
    | nil =>
      rw [left, List.append_nil] at parts
      exact .inr (.inl ⟨cs, parts ▸ whole, spelled heq⟩)
    | cons c value =>
      have equals : c = '=' := by
        have first := List.head?_dropWhile_not (· ≠ '=') cs
        rw [left] at first
        simpa using first
      rw [left, equals] at parts
      exact .inr (.inr (.inl ⟨_, value, whole, spelled (parts.symm ▸ heq)⟩))
  next c cs single heq =>
    exact .inr (.inr (.inr ⟨c, cs, single, spelled heq⟩))
  · exact .inl rfl

/-! ### What an argument says -/

theorem name_whole (option : Valued) : '=' ∉ option.name.toList := by
  cases option <;> decide

theorem letter_ne_dash {c : Char} (letter : option.letter? = some c) : c ≠ '-' := by
  cases option <;> cases letter <;> decide

theorem text_named (name : List Char) : "--" ++ String.ofList name = String.ofList ('-' :: '-' :: name) :=
  String.toList_inj.1 (by simp)

theorem text_equated (name value : List Char) : "--" ++ String.ofList name ++ "=" ++ String.ofList value =
    String.ofList ('-' :: '-' :: (name ++ '=' :: value)) :=
  String.toList_inj.1 (by simp)

theorem text_lettered (c : Char) (cs : List Char) :
    "-".push c ++ String.ofList cs = String.ofList ('-' :: c :: cs) :=
  String.toList_inj.1 (by simp)

theorem attached_eq_none_iff {cs : List Char} : attached cs = none ↔ cs = [] := by
  unfold attached
  split <;> simp_all

theorem attached_eq_some_iff {cs : List Char} : attached cs = some value ↔
    cs = '=' :: value.toList ∨ cs = value.toList ∧ value ≠ "" ∧ value.toList.head? ≠ some '=' := by
  have texts (ds : List Char) : some (String.ofList ds) = some value ↔ ds = value.toList := by
    rw [Option.some_inj, ← String.toList_inj, String.toList_ofList]
  unfold attached
  split
  next =>
    refine ⟨nofun, ?_⟩
    rintro (equated | ⟨empty, nonempty, -⟩)
    · cases equated
    · exact absurd (String.toList_inj.1 empty.symm) nonempty
  next cs =>
    rw [texts, List.cons.injEq]
    refine ⟨fun same => .inl ⟨rfl, same⟩, ?_⟩
    rintro (⟨-, same⟩ | ⟨same, -, unequated⟩)
    · exact same
    · exact absurd (same ▸ rfl) unequated
  next some_left unequated =>
    rw [texts]
    refine ⟨fun same => .inr ⟨same, ?_, ?_⟩, ?_⟩
    · rintro rfl
      exact some_left same
    · rw [← same]
      intro equals
      obtain ⟨rest, rfl⟩ := List.head?_eq_some_iff.1 equals
      exact unequated rest rfl
    · rintro (equated | ⟨same, -⟩)
      · exact absurd equated (unequated _)
      · exact same

theorem ofText_eq_valued_iff : ofText a = .valued option given ↔
    given = none ∧ a = "--" ++ option.name ∨
    (∃ value, given = some value ∧ a = "--" ++ option.name ++ "=" ++ value) ∨
    ∃ c cs, option.letter? = some c ∧ attached cs = given ∧ a = "-".push c ++ String.ofList cs := by
  constructor
  · intro said
    rcases form_of_ofText a with unknown | ⟨name, whole, rfl⟩ | ⟨name, value, whole, rfl⟩ | ⟨c, cs, apart, rfl⟩
    · rw [unknown] at said
      cases said
    · rw [ofText_named whole, ofLong_eq_valued_iff] at said
      obtain ⟨same, rfl⟩ := said
      exact .inl ⟨rfl, by rw [← same, text_named]⟩
    · rw [ofText_equated whole, ofLong_eq_valued_iff] at said
      obtain ⟨same, rfl⟩ := said
      exact .inr (.inl ⟨_, rfl, by rw [← same, text_equated]⟩)
    · rw [ofText_lettered apart, ofShort_eq_valued_iff] at said
      exact .inr (.inr ⟨c, cs, said.1, said.2, (text_lettered c cs).symm⟩)
  · rintro (⟨rfl, rfl⟩ | ⟨value, rfl, rfl⟩ | ⟨c, cs, letter, rfl, rfl⟩)
    · rw [← String.ofList_toList (s := option.name), text_named, ofText_named (name_whole option),
        ofLong_eq_valued_iff]
      exact ⟨String.ofList_toList, rfl⟩
    · have text := text_equated option.name.toList value.toList
      rw [String.ofList_toList, String.ofList_toList] at text
      rw [text, ofText_equated (name_whole option), ofLong_eq_valued_iff]
      exact ⟨String.ofList_toList, congrArg some String.ofList_toList⟩
    · rw [text_lettered, ofText_lettered (letter_ne_dash letter), ofShort_eq_valued_iff]
      exact ⟨letter, rfl⟩

theorem ofText_eq_dryRun_iff : ofText a = .dryRun ↔ a = "--dry-run" := by
  constructor
  · intro said
    rcases form_of_ofText a with unknown | ⟨name, whole, rfl⟩ | ⟨name, value, whole, rfl⟩ | ⟨c, cs, apart, rfl⟩
    · rw [unknown] at said
      cases said
    · rw [ofText_named whole, ofLong_eq_dryRun_iff] at said
      rw [← text_named, said.1]
      rfl
    · rw [ofText_equated whole, ofLong_eq_dryRun_iff] at said
      cases said.2
    · rw [ofText_lettered apart] at said
      exact absurd said ofShort_ne_dryRun
  · rintro rfl
    rfl

theorem ofText_eq_valued_some_iff :
    ofText a = .valued option (some value) ↔ Spelling option value [a] := by
  rw [ofText_eq_valued_iff]
  constructor
  · rintro (⟨none, -⟩ | ⟨_, equated, rfl⟩ | ⟨c, cs, letter, behind, rfl⟩)
    · cases none
    · cases equated
      exact .equated
    · rcases attached_eq_some_iff.1 behind with rfl | ⟨rfl, nonempty, unequated⟩
      · have text : "-".push c ++ String.ofList ('=' :: value.toList) = "-".push c ++ "=" ++ value :=
          String.toList_inj.1 (by simp)
        rw [text]
        exact .letterEquated letter
      · rw [String.ofList_toList]
        exact .attached letter nonempty unequated
  · intro spelling
    cases spelling with
    | equated => exact .inr (.inl ⟨value, rfl, rfl⟩)
    | @letterEquated c letter =>
      refine .inr (.inr ⟨c, '=' :: value.toList, letter, attached_eq_some_iff.2 (.inl rfl), ?_⟩)
      exact String.toList_inj.1 (by simp)
    | @attached c letter nonempty unequated =>
      refine .inr (.inr ⟨c, value.toList, letter, attached_eq_some_iff.2 (.inr ⟨rfl, nonempty, unequated⟩), ?_⟩)
      rw [String.ofList_toList]

theorem ofText_eq_valued_none_iff : ofText a = .valued option none ↔
    a = "--" ++ option.name ∨ ∃ c, option.letter? = some c ∧ a = "-".push c := by
  rw [ofText_eq_valued_iff]
  constructor
  · rintro (⟨-, rfl⟩ | ⟨value, some, -⟩ | ⟨c, cs, letter, none, rfl⟩)
    · exact .inl rfl
    · cases some
    · rw [attached_eq_none_iff.1 none]
      exact .inr ⟨c, letter, String.append_empty⟩
  · rintro (rfl | ⟨c, letter, rfl⟩)
    · exact .inl ⟨rfl, rfl⟩
    · exact .inr (.inr ⟨c, [], letter, rfl, String.append_empty.symm⟩)

theorem spelling_iff {spelled : List String} : Spelling option value spelled ↔
    (∃ a, spelled = [a] ∧ ofText a = .valued option (some value)) ∨
      ∃ a, spelled = [a, value] ∧ ofText a = .valued option none ∧ isValue value = true := by
  constructor
  · intro spelling
    cases spelling with
    | equated => exact .inl ⟨_, rfl, ofText_eq_valued_some_iff.2 .equated⟩
    | letterEquated letter => exact .inl ⟨_, rfl, ofText_eq_valued_some_iff.2 (.letterEquated letter)⟩
    | attached letter nonempty unequated =>
      exact .inl ⟨_, rfl, ofText_eq_valued_some_iff.2 (.attached letter nonempty unequated)⟩
    | apart plain => exact .inr ⟨_, rfl, ofText_eq_valued_none_iff.2 (.inl rfl), isValue_iff.2 plain⟩
    | letterApart letter plain =>
      exact .inr ⟨_, rfl, ofText_eq_valued_none_iff.2 (.inr ⟨_, letter, rfl⟩), isValue_iff.2 plain⟩
  · rintro (⟨a, rfl, said⟩ | ⟨a, rfl, said, plain⟩)
    · exact ofText_eq_valued_some_iff.1 said
    · have plain := isValue_iff.1 plain
      rcases ofText_eq_valued_none_iff.1 said with rfl | ⟨c, letter, rfl⟩
      · exact .apart plain
      · exact .letterApart letter plain

end Argument

variable {o o' : Options} {option : Valued} {value : String} {spelled arguments : List String}

theorem Options.dryRun?_eq_some_iff :
    o.dryRun? = some o' ↔ o.isDryRun = false ∧ { o with isDryRun := true } = o' := by
  unfold Options.dryRun?
  cases o.isDryRun <;> simp

namespace Invocation

theorem given_of_ofArguments (run : ofArguments o arguments = .run o') : Given o arguments o' := by
  fun_induction ofArguments o arguments with
  | case1 o =>
    cases run
    exact .none
  | case2 o =>
    cases run
    exact .ended
  | case3 o a arguments _ option value said o'' set ih =>
    exact .valued (Argument.spelling_iff.2 (.inl ⟨a, rfl, said⟩)) set (ih run)
  | case5 o a option said value arguments plain o'' set _ ih =>
    exact .valued (Argument.spelling_iff.2 (.inr ⟨a, rfl, said, plain⟩)) set (ih run)
  | case9 o a arguments _ said o'' set ih =>
    cases Argument.ofText_eq_dryRun_iff.1 said
    obtain ⟨unset, rfl⟩ := Options.dryRun?_eq_some_iff.1 set
    exact .dryRun unset (ih run)
  | _ => cases run

theorem ofArguments_spelling (spelling : Spelling option value spelled) (set : o.set? option value = some o')
    (arguments : List String) : ofArguments o (spelled ++ arguments) = ofArguments o' arguments := by
  rcases Argument.spelling_iff.1 spelling with ⟨a, rfl, said⟩ | ⟨a, rfl, said, plain⟩
  · rw [List.singleton_append, ofArguments.eq_3 _ _ _ fun dashes _ => by cases dashes; cases said]
    simp only [said, set]
  · rw [List.cons_append, ofArguments.eq_3 _ _ _ fun dashes _ => by cases dashes; cases said]
    simp only [said, set, List.singleton_append, plain, if_true]

/-- Options are taken from arguments that spell them, and from no others. -/
theorem ofArguments_eq_run_iff : ofArguments o arguments = .run o' ↔ Given o arguments o' := by
  refine ⟨given_of_ofArguments, fun given => ?_⟩
  induction given with
  | none => rfl
  | ended => rfl
  | valued spelling set behind ih => rw [ofArguments_spelling spelling set, ih]
  | @dryRun o o' arguments unset behind ih =>
    have set : o.dryRun? = some { o with isDryRun := true } := Options.dryRun?_eq_some_iff.2 ⟨unset, rfl⟩
    have said : Argument.ofText "--dry-run" = .dryRun := rfl
    rw [ofArguments.eq_3 _ _ _ fun dashes => absurd dashes (by decide)]
    simp only [said, set, ih]

end Invocation

theorem Spelling.not_mem (spelling : Spelling option value spelled) : "--dry-run" ∉ spelled := by
  have dry : Argument.ofText "--dry-run" = .dryRun := rfl
  rcases Argument.spelling_iff.1 spelling with ⟨a, rfl, said⟩ | ⟨a, rfl, said, plain⟩
  · rw [List.mem_singleton]
    rintro rfl
    cases dry.symm.trans said
  · rw [List.mem_cons, List.mem_singleton]
    rintro (rfl | rfl)
    · cases dry.symm.trans said
    · exact absurd plain (by decide)

theorem Options.isDryRun_of_set? (set : o.set? option value = some o') : o'.isDryRun = o.isDryRun := by
  cases option <;> simp only [Options.set?] at set <;> split at set <;> cases set <;> rfl

/-- A run is dry if and only if one of the arguments says so. -/
theorem Given.isDryRun_iff (given : Given o arguments o') :
    o'.isDryRun = true ↔ o.isDryRun = true ∨ "--dry-run" ∈ arguments := by
  induction given with
  | none => simp
  | ended => simp
  | valued spelling set behind ih =>
    rw [ih, Options.isDryRun_of_set? set, List.mem_append, or_iff_right spelling.not_mem]
  | dryRun unset behind ih => simp [ih]

end Courier.Command
