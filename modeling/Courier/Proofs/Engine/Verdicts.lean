import Courier.Proofs.Engine.Run

/-! Verdicts. What a handler's call ends with is written down as a warning at most, so the worlds of
two runs whose handlers differ in their verdicts alone are the same but for those warnings. -/
namespace Courier

variable {η : Type}

def Fact.isComplaint : Fact η → Bool
  | complained _ => true
  | panicked => true
  | _ => false

theorem Fact.isWorkers_of_isComplaint {f : Fact η} (h : f.isComplaint = true) :
    f.isWorkers = true := by
  cases f <;> first | rfl | cases h

def Verdict.warning? : Verdict → Option LogLine
  | ok => none
  | error reason =>
    some (Fact.aboutInside .warn ("Event handler returned an error: " ++ reason))
  | panic => some (Fact.aboutInside .warn "Event handler panicked, continuing")

/-- The same action, though with no regard to how a handler's call ends. -/
def Action.unheard : Action η → Action η
  | verdict _ => verdict .ok
  | a => a

def Action.verdict? : Action η → Option Verdict
  | verdict v => some v
  | _ => none

namespace Journal

def complaints (j : List (Fact η)) : List (Fact η) := j.filter (·.isComplaint)

def calm (j : List (Fact η)) : List (Fact η) := j.filter (!·.isComplaint)

@[simp] theorem calm_append (j facts : List (Fact η)) : calm (j ++ facts) = calm j ++ calm facts :=
  List.filter_append j facts

@[simp] theorem complaints_append (j facts : List (Fact η)) :
    complaints (j ++ facts) = complaints j ++ complaints facts :=
  List.filter_append j facts

@[simp] theorem calm_facts (v : Verdict) : calm (v.facts : List (Fact η)) = [] := by
  cases v <;> rfl

theorem complaints_facts (v : Verdict) : complaints (v.facts : List (Fact η)) = v.facts := by
  cases v <;> rfl

theorem filterMap_calm {α : Type} {noted : Fact η → Option α}
    (apart : ∀ f, f.isComplaint = true → noted f = none) (j : List (Fact η)) :
    (calm j).filterMap noted = j.filterMap noted := by
  induction j with
  | nil => rfl
  | cons f j ih =>
    unfold calm at ih ⊢
    cases hf : f.isComplaint with
    | true => rw [List.filter_cons_of_neg (by simp [hf]), ih, List.filterMap_cons_none (apart f hf)]
    | false => rw [List.filter_cons_of_pos (by simp [hf]), List.filterMap_cons, List.filterMap_cons, ih]

@[simp] theorem attempts_calm (j : List (Fact η)) : attempts (calm j) = attempts j := by
  apply filterMap_calm
  intro f hf
  cases f <;> first | rfl | cases hf

@[simp] theorem tellings_calm (j : List (Fact η)) : tellings (calm j) = tellings j := by
  apply filterMap_calm
  intro f hf
  cases f <;> first | rfl | cases hf

end Journal

theorem Fact.loggedBy_append (actor : Actor) (j facts : List (Fact η)) :
    Fact.loggedBy actor (j ++ facts) = Fact.loggedBy actor j ++ Fact.loggedBy actor facts :=
  List.filterMap_append

theorem Fact.loggedBy_facts (v : Verdict) :
    Fact.loggedBy .worker (v.facts : List (Fact η)) = v.warning?.toList := by
  cases v <;> rfl

namespace World

/-- The world as it would be if no handler had ever complained. -/
def calm (w : World η) : World η := { w with journal := Journal.calm w.journal }

variable {plan : Plan} {w w' : World η} {a : Action η} {actions actions' : List (Action η)}

/-! ### Complaints are without effect -/

@[simp] theorem calm_note (facts : List (Fact η)) (w : World η) :
    (w.note facts).calm = w.calm.note (Journal.calm facts) := by
  simp [calm, note]

theorem calm_goto (position : Worker η) (w : World η) : (w.goto position).calm = w.calm.goto position := rfl

theorem calm_look (id : Nat) (w : World η) : (w.look id).calm = w.calm.look id := by
  unfold look
  rw [apply_ite calm, calm_note]
  rfl

theorem calm_enqueue (clock : Clock) (e : Event) (w : World η) :
    (w.enqueue plan clock e).calm = w.calm.enqueue plan clock e :=
  calm_note _ _

theorem calm_flush (w : World η) : w.flush.calm = w.calm.flush :=
  calm_note _ _

theorem calm_scrub (actor : Actor) (w : World η) : (w.scrub actor).calm = w.calm.scrub actor :=
  calm_note _ _

theorem calm_idle (w : World η) : w.idle.calm = w.calm.idle := by
  unfold World.idle
  dsimp only
  rw [apply_ite calm, apply_ite calm, calm_note, calm_goto, calm_goto, calm_goto, calm_note]
  rfl

theorem calm_assemble (w : World η) : (w.assemble plan).calm = w.calm.assemble plan := by
  unfold World.assemble
  rw [apply_ite calm, apply_ite calm]
  rfl

theorem calm_decide (now : Nat) (w : World η) : (w.decide now).calm = w.calm.decide now := by
  unfold World.decide
  rw [apply_ite calm]
  rfl

theorem calm_beginSending (stamp : String) (w : World η) :
    (w.beginSending plan stamp).calm = w.calm.beginSending plan stamp := by
  unfold beginSending
  dsimp only
  rw [apply_ite calm, calm_note]
  rfl

theorem calm_settle (outcome : Outcome) (w : World η) :
    (w.settle outcome).calm = w.calm.settle outcome :=
  calm_note _ _

theorem calm_endSending (now : Nat) (answer : Answer) (w : World η) :
    (w.endSending plan now answer).calm = w.calm.endSending plan now answer := by
  unfold endSending
  cases answer.result with
  | ok done =>
    dsimp only
    rw [calm_settle, calm_note]
    rfl
  | error e =>
    dsimp only
    rw [apply_ite calm, calm_settle, calm_goto, calm_note, calm_note]
    rfl

theorem calm_proceed (clock : Clock) (w : World η) :
    (w.proceed plan clock).map calm = w.calm.proceed plan clock := by
  obtain ⟨backlog, worker, callers, journal⟩ := w
  cases worker with
  | starting => exact congrArg some (congrArg (goto _) (calm_note _ _))
  | holding phase =>
    cases phase with
    | idle => exact congrArg some (calm_idle _)
    | assembling => exact congrArg some (calm_assemble _)
    | deciding => exact congrArg some (calm_decide _ _)
    | sending => exact congrArg some (calm_beginSending _ _)
  | reporting handler outcome rest =>
    cases handler with
    | none => rfl
    | some h =>
      cases rest with
      | nil => rfl
      | cons e rest => exact congrArg some (congrArg (goto _) (calm_note _ _))
  | resting | waiting | calling | inHandler | terminated => rfl

theorem calm_locked {f : World η → World η} (same : (f w).calm = f w.calm) :
    (w.locked f).map calm = w.calm.locked f := by
  unfold locked
  rw [apply_ite (Option.map calm), Option.map_some, same]
  rfl

/-- A step is the same with or without the complaints made before it, and with or without its own. -/
theorem calm_step (w : World η) (a : Action η) :
    (w.step plan a).map calm = w.calm.step plan a.unheard := by
  cases a with
  | enqueue e clock => exact calm_locked (calm_enqueue clock e w)
  | flush => exact calm_locked (calm_flush w)
  | scrub actor => exact calm_locked (calm_scrub actor w)
  | setHandler handler => exact calm_locked rfl
  | enterWait id =>
    simp only [step, Action.unheard]
    rw [apply_ite (Option.map calm), calm_locked (f := World.enterWait id) (calm_look id _)]
    rfl
  | recheck id =>
    simp only [step, Action.unheard]
    rw [apply_ite (Option.map calm), calm_locked (f := World.recheck id) (calm_look id _)]
    rfl
  | close => exact calm_locked rfl
  | proceed clock => exact calm_proceed clock w
  | answer answer now =>
    obtain ⟨backlog, worker, callers, journal⟩ := w
    cases worker with
    | calling request => exact congrArg some (calm_endSending now answer _)
    | _ => rfl
  | verdict v =>
    obtain ⟨backlog, worker, callers, journal⟩ := w
    cases worker with
    | inHandler h outcome e rest =>
      rw [step, Option.map_some, calm_goto, calm_note, Journal.calm_facts]
      rfl
    | _ => rfl

theorem calm_run (w : World η) (actions : List (Action η)) :
    (w.run plan actions).map calm = w.calm.run plan (actions.map Action.unheard) := by
  induction actions generalizing w with
  | nil => rfl
  | cons a actions ih =>
    rw [run, List.map_cons, run, ← calm_step]
    cases w.step plan a with
    | none => rfl
    | some u => exact ih u

/-! ### Callbacks and what they end with -/

def underWay? (w : World η) : Option (η × Outcome × Event) :=
  match w.worker with
  | .inHandler h outcome e _ => some (h, outcome, e)
  | _ => none

def ended? (w : World η) (a : Action η) : Option ((η × Outcome × Event) × Verdict) :=
  a.verdict?.bind fun v => w.underWay?.map fun call => (call, v)

def endings (plan : Plan) : World η → List (Action η) → List ((η × Outcome × Event) × Verdict)
  | _, [] => []
  | w, a :: actions =>
    (w.ended? a).toList ++ (w.step plan a).elim [] fun w => endings plan w actions

theorem endings_append {left right : List (Action η)} (ran : w.run plan left = some w') :
    w.endings plan (left ++ right) = w.endings plan left ++ w'.endings plan right := by
  induction left generalizing w with
  | nil =>
    cases Option.some.inj ran
    rfl
  | cons a left ih =>
    obtain ⟨u, hu, ran⟩ := run_cons_eq_some.1 ran
    simp only [List.cons_append, endings, hu, Option.elim_some, ih ran, List.append_assoc]

theorem endings_concat (ran : w.run plan actions = some w') :
    w.endings plan (actions ++ [a]) = w.endings plan actions ++ (w'.ended? a).toList := by
  rw [endings_append ran]
  cases h : w'.step plan a <;> simp [endings, h]

/-- What a step notes of the calls of handlers that it begins or ends. -/
structure Heard (w : World η) (a : Action η) (facts : List (Fact η)) (w' : World η) : Prop where
  journal : w'.journal = w.journal ++ facts
  verdict : (w.ended? a).toList.map (·.2) = a.verdict?.toList
  calls : w.underWay?.toList ++ Journal.tellings facts =
    (w.ended? a).toList.map (·.1) ++ w'.underWay?.toList
  complaints : Journal.complaints facts = (w.ended? a).toList.flatMap fun ended => ended.2.facts

theorem Heard.of_unended {facts : List (Fact η)} (hj : w'.journal = w.journal ++ facts)
    (unended : a.verdict? = none) (same : w'.underWay? = w.underWay?)
    (silent : Journal.tellings facts = []) (uncomplaining : Journal.complaints facts = []) :
    Heard w a facts w' := by
  have none_ends : w.ended? a = none := by rw [ended?, unended]; rfl
  refine ⟨hj, ?_, ?_, ?_⟩
  · rw [none_ends, unended]
    rfl
  · rw [none_ends, silent, same, List.append_nil]
    rfl
  · rw [none_ends, uncomplaining]
    rfl

theorem Call.heard (h : Call plan w a w') : ∃ facts, Heard w a facts w' := by
  obtain ⟨facts, hj, callers⟩ := h.untouched.journal
  have same : w'.underWay? = w.underWay? := by
    unfold underWay?
    rcases h.untouched.worker with hw | hw <;> rw [hw]
    cases w.worker <;> rfl
  refine ⟨facts, .of_unended hj (by cases h <;> rfl) same (Journal.tellings_eq_nil callers) ?_⟩
  apply List.filter_eq_nil_iff.2
  intro f hf complaint
  exact absurd ((callers f hf).symm.trans (Fact.isWorkers_of_isComplaint complaint)) Bool.false_ne_true

theorem Turn.heard (h : Turn plan w a w') : ∃ facts, Heard w a facts w' := by
  cases h with
  | tell clock at_ =>
    refine ⟨_, rfl, rfl, ?_, rfl⟩
    simp [underWay?, at_, ended?, Action.verdict?, Journal.tellings, Fact.telling?]
  | @hear v h outcome e rest at_ =>
    have ends : w.ended? (.verdict v) = some ((h, outcome, e), v) := by
      simp [ended?, Action.verdict?, underWay?, at_]
    refine ⟨_, rfl, ?_, ?_, ?_⟩
    · rw [ends]
      rfl
    · rw [ends, underWay?, at_]
      cases v <;> rfl
    · rw [ends]
      exact (Journal.complaints_facts v).trans (List.append_nil _).symm
  | stop clock at_ | deliver a now at_ | giveUp a now at_ =>
    exact ⟨_, .of_unended (List.append_assoc _ _ _) rfl (by simp [underWay?, at_]) rfl rfl⟩
  | start clock at_ | rest clock at_ | attempt clock at_ | retry a now at_ =>
    exact ⟨_, .of_unended rfl rfl (by simp [underWay?, at_]) rfl rfl⟩
  | rouse clock at_ | wake clock at_ | resume clock at_ | drain clock at_ | backOff clock at_
  | assemble clock at_ | decide clock at_ | wait clock at_ | skip clock at_ | endReport clock at_ =>
    exact ⟨[], .of_unended (List.append_nil _).symm rfl (by simp [underWay?, at_]) rfl rfl⟩

theorem step_heard (h : w.step plan a = some w') : ∃ facts, Heard w a facts w' :=
  (call_or_turn h).elim Call.heard Turn.heard

/-- What handlers were told in a run, how that ended, and what was logged of it. -/
structure Warned (plan : Plan) (start : World η) (actions : List (Action η)) (w : World η) : Prop where
  /-- The callbacks, in order: all but the one that is under way have ended. -/
  callbacks : Journal.tellings w.journal =
    (start.endings plan actions).map (·.1) ++ w.underWay?.toList
  verdicts : (start.endings plan actions).map (·.2) = actions.filterMap Action.verdict?
  /-- One warning for each callback that ended badly, in the order of the callbacks. -/
  warnings : Fact.loggedBy .worker (Journal.complaints w.journal) =
    (start.endings plan actions).filterMap fun ended => ended.2.warning?

theorem Warned.step {start u : World η} (h : Warned plan start actions u)
    (ran : start.run plan actions = some u) (hstep : u.step plan a = some w) :
    Warned plan start (actions ++ [a]) w := by
  obtain ⟨facts, heard⟩ := step_heard hstep
  constructor
  · rw [heard.journal, Journal.tellings_append, h.callbacks, List.append_assoc, heard.calls,
      endings_concat ran, List.map_append, List.append_assoc]
  · rw [endings_concat ran, List.map_append, heard.verdict, h.verdicts, List.filterMap_append]
    cases hv : a.verdict? <;> simp [hv]
  · rw [heard.journal, Journal.complaints_append, Fact.loggedBy_append, h.warnings, heard.complaints,
      endings_concat ran, List.filterMap_append]
    cases u.ended? a with
    | none => rfl
    | some ended =>
      simp only [Option.toList_some, List.flatMap_singleton, Fact.loggedBy_facts]
      cases hw : ended.2.warning? <;> simp [hw]

theorem run_warned {handler : Option η} {url : String}
    (ran : (begun handler url).run plan actions = some w) :
    Warned plan (begun handler url) actions w := by
  refine run_history (I := fun done u => Warned plan (begun handler url) done u) ?_ ?_ ran
  · exact ⟨rfl, rfl, rfl⟩
  · intro done u a u' hu h hstep
    exact h.step hu hstep

/-- The same world, but for what handlers complained of. -/
structure Alike (w w' : World η) : Prop where
  backlog : w'.backlog = w.backlog
  worker : w'.worker = w.worker
  callers : w'.callers = w.callers
  requests : Journal.attempts w'.journal = Journal.attempts w.journal
  callbacks : Journal.tellings w'.journal = Journal.tellings w.journal
  facts : Journal.calm w'.journal = Journal.calm w.journal

theorem Alike.of_calm_eq (h : w'.calm = w.calm) : Alike w w' := by
  obtain ⟨backlog, worker, callers, facts⟩ := World.mk.inj h
  refine ⟨backlog, worker, callers, ?_, ?_, facts⟩
  · rw [← Journal.attempts_calm, facts, Journal.attempts_calm]
  · rw [← Journal.tellings_calm, facts, Journal.tellings_calm]

theorem exists_run_alike (ran : w.run plan actions = some w')
    (same : actions'.map Action.unheard = actions.map Action.unheard) :
    ∃ u, w.run plan actions' = some u ∧ Alike w' u := by
  have both : (w.run plan actions').map calm = some w'.calm := by
    rw [calm_run, same, ← calm_run, ran, Option.map_some]
  obtain ⟨u, hu, calm_eq⟩ := Option.map_eq_some_iff.1 both
  exact ⟨u, hu, .of_calm_eq calm_eq⟩

/-- Two runs whose handlers differ only in how their calls end do the same after every step, and each
writes its own warnings. -/
theorem run_verdicts {handler : Option η} {url : String}
    (ran : (begun handler url).run plan actions = some w)
    (same : actions'.map Action.unheard = actions.map Action.unheard) (n : Nat) :
    ∃ u u', (begun handler url).run plan (actions.take n) = some u ∧
      (begun handler url).run plan (actions'.take n) = some u' ∧ Alike u u' ∧
        Warned plan (begun handler url) (actions.take n) u ∧
          Warned plan (begun handler url) (actions'.take n) u' := by
  rw [← List.take_append_drop n actions] at ran
  obtain ⟨u, hu, -⟩ := run_append_eq_some.1 ran
  have sameUpTo : (actions'.take n).map Action.unheard = (actions.take n).map Action.unheard := by
    rw [List.map_take, same, List.map_take]
  obtain ⟨u', hu', alike⟩ := exists_run_alike hu sameUpTo
  exact ⟨u, u', hu, hu', alike, run_warned hu, run_warned hu'⟩

/-- Two events are delivered together; the handler is told of both. -/
def toldTwice (first second : Verdict) : List (Action Unit) :=
  [.enqueue (.new "track" "") noon, .enqueue (.new "page" "") noon, .proceed noon, .proceed noon,
    .proceed noon, .proceed noon, .answer (.response ⟨200, ""⟩) 0, .proceed noon, .verdict first,
    .proceed noon, .verdict second, .proceed noon]

theorem run_verdicts_toldTwice : ∃ u u',
    (begun (some ()) "").run smallPlan ((toldTwice .ok .ok).take 12) = some u ∧
      (begun (some ()) "").run smallPlan ((toldTwice (.error "full") .panic).take 12) = some u' ∧
        Alike u u' ∧ Warned smallPlan (begun (some ()) "") ((toldTwice .ok .ok).take 12) u ∧
          Warned smallPlan (begun (some ()) "") ((toldTwice (.error "full") .panic).take 12) u' := by
  have ends : ((begun (some ()) "").run smallPlan (toldTwice .ok .ok)).isSome = true := by
    decide +kernel
  obtain ⟨w, ran⟩ := Option.isSome_iff_exists.1 ends
  have same : (toldTwice (.error "full") .panic).map Action.unheard =
      (toldTwice .ok .ok).map Action.unheard := rfl
  exact run_verdicts ran same 12

end World

end Courier
