import Courier.Proofs.Command.Arguments
import Courier.Proofs.Command.Driving
import Courier.Proofs.Command.Input

/-! The command accounts for every line. Whatever the order in which its client goes on, and whatever the
transport answers, every event that was read is settled and counted once before the command reports. -/
namespace Courier.Command

open World Journal

variable {σ : Type} {plan : Plan} {url : String} {w w' : World Unit} {actions : List (Action Unit)}
  {events : List Event}

/-! ### Totals -/

theorem countP_isDelivered_add_countP_isFailed (j : List (Fact Unit)) :
    j.countP isDelivered + j.countP isFailed = (tellings j).length := by
  induction j with
  | nil => rfl
  | cons f j ih =>
    have one : (if isDelivered f then 1 else 0) + (if isFailed f then 1 else 0) =
        (tellings [f]).length := by
      cases f with
      | told h outcome e => cases outcome <;> rfl
      | _ => rfl
    rw [List.countP_cons, List.countP_cons, ← List.singleton_append, tellings_append,
      List.length_append]
    omega

theorem counts_of_settles (settles : Settles plan () events w) :
    w.journal.countP isDelivered + w.journal.countP isFailed = events.length := by
  rw [countP_isDelivered_add_countP_isFailed, settles.length_tellings]

/-! ### Dry runs -/

/-- A recorder that answers no request but with success has kept one for each batch settled. -/
structure Keeps (plan : Plan) (w : World Unit) (r : Recorder) : Prop where
  script : r.script = ⟨[], .status 200⟩
  requests : r.requests = w.settledBatches.map fun batch => plan.target.request (plan.envelope.encode batch)
  successes : ∀ s ∈ settlements w.journal, s.2.2 = .success

theorem recordedAnswer_of_script {r : Recorder} (script : r.script = ⟨[], .status 200⟩)
    (request : Request) : recordedAnswer request r =
      (.response ⟨200, ""⟩, ⟨⟨[], .status 200⟩, r.requests ++ [request]⟩) := by
  unfold recordedAnswer Recorder.deliver
  rw [script]
  rfl

theorem request_of_calling (hr : Reachable plan w) {request : Request} (at_ : w.worker = .calling request) :
    request = plan.target.request (plan.envelope.encode w.backlog.batch) :=
  hr.request_eq (attemptsAtHand_subset _ (List.mem_of_getLast? (Called.of_reachable hr request at_)))

theorem keeps_of_served {r : Recorder}
    (served : Served recordedAnswer plan (begun (some ()) url) Recorder.accepting actions w r) :
    Keeps plan w r := by
  induction served with
  | refl => exact ⟨rfl, rfl, fun _ hs => nomatch hs⟩
  | @answer actions u w' r request now ran at_ hstep ih =>
    have hr : Reachable plan u := ⟨some (), url, actions, ran.run⟩
    rw [recordedAnswer_of_script ih.script] at hstep ⊢
    have settled := (answer_settles hstep).1 rfl
    constructor
    · rfl
    · rw [settledBatches, settled, List.map_append, List.map_append, ih.requests, request_of_calling hr at_]
      rfl
    · rw [settled]
      exact List.forall_mem_append.2 ⟨ih.successes, List.forall_mem_singleton.2 rfl⟩
  | @other actions u w' r a ran apart hstep ih =>
    have hr : Reachable plan u := ⟨some (), url, actions, ran.run⟩
    rcases step_settlements hr hstep with ⟨facts, hj, unsettled⟩ | ⟨_, _, _, _, rfl, -⟩
    · have same : settlements w'.journal = settlements u.journal := by
        rw [hj, settlements_append, unsettled, List.append_nil]
      refine ⟨ih.script, ?_, same ▸ ih.successes⟩
      rw [settledBatches, same]
      exact ih.requests
    · cases apart

theorem countP_isFailed_eq_zero {r : Recorder} (keeps : Keeps plan w r)
    (settles : Settles plan () events w) : w.journal.countP isFailed = 0 := by
  refine List.countP_eq_zero.2 fun f hf failed => ?_
  cases f with
  | told h outcome e =>
    have told : (h, outcome, e) ∈ tellings w.journal := List.mem_filterMap.2 ⟨_, hf, rfl⟩
    rw [settles.told] at told
    obtain ⟨s, hs, hm⟩ := List.mem_flatMap.1 told
    obtain ⟨e, -, heq⟩ := List.mem_map.1 hm
    cases heq
    rw [keeps.successes s hs] at failed
    cases failed
  | _ => cases failed

/-- The bodies hold these events, in this order, as they were read but for their last stamps. -/
def Holds (env : Envelope) (bodies : List String) (events : List Event) : Prop :=
  ∃ batches : List (List Event), bodies = batches.map env.encode ∧
    batches.flatten.map (·.content) = events.map (·.content)

theorem holds_of_keeps {r : Recorder} (keeps : Keeps plan w r) (settles : Settles plan () events w) :
    Holds plan.envelope (r.requests.map (·.body)) events := by
  refine ⟨w.settledBatches, ?_, settles.settled⟩
  rw [keeps.requests, List.map_map]
  rfl

/-! ### Courses of the command -/

/-- A course that the command may take once it has a client: the lines of its input are read, each at some
time, the events are delivered in a session, and it reports. -/
inductive Course (ready : Ready) (arguments : List String) (deliver : Request → σ → Answer × σ) (s : σ)
    (now : Nat → String) (lines : List String) : World Unit → List String → Report → Prop where
  | recorded {events : List Event} {failure : Option Failure} {actions : List (Action Unit)}
      {w : World Unit} {r : Recorder} (isDry : "--dry-run" ∈ arguments)
      (intake : Intake now (numbered 1 lines) events failure)
      (session : Session recordedAnswer ready.plan ready.world Recorder.accepting events actions w r) :
      Course ready arguments deliver s now lines w (r.requests.map (·.body))
        (reportOf events failure w.journal (some r))
  | sent {events : List Event} {failure : Option Failure} {actions : List (Action Unit)}
      {w : World Unit} {s' : σ} (isReal : "--dry-run" ∉ arguments)
      (intake : Intake now (numbered 1 lines) events failure)
      (session : Session deliver ready.plan ready.world s events actions w s') :
      Course ready arguments deliver s now lines w [] (reportOf events failure w.journal none)

/-- The command accounts for the lines of its input that are not blank. -/
inductive Accounts (ready : Ready) (arguments : List String) (now : Nat → String) (lines : List String)
    (w : World Unit) (bodies : List String) (report : Report) : Prop where
  /-- All of them are events; the totals are those of the callbacks made. -/
  | complete {events : List Event} {n delivered failed : Nat}
      (count : n = (numbered 1 lines).length)
      (reads : List.Forall₂ (fun line e => reading now line = .ok e) (numbered 1 lines) events)
      (settles : Settles ready.plan () events w)
      (totals : delivered = w.journal.countP isDelivered ∧ failed = w.journal.countP isFailed)
      (sum : delivered + failed = n) (code : report.code = 0) (errors : report.errors = [])
      (output : report.output =
        ("submitted=" ++ toString n ++ " delivered=" ++ toString delivered ++ " failed=" ++
          toString failed) ::
            if "--dry-run" ∈ arguments then ["requests=" ++ toString bodies.length] else [])
      (dry : "--dry-run" ∈ arguments →
        delivered = n ∧ failed = 0 ∧ Holds ready.plan.envelope bodies events)
  /-- The line with this number is the first that is none; the events before it are delivered, and no
  others. -/
  | broken {good rest : List (String × Nat)} {line what : String} {number : Nat} {events : List Event}
      {f : Failure} (split : numbered 1 lines = good ++ (line, number) :: rest)
      (reads : List.Forall₂ (fun line e => reading now line = .ok e) good events)
      (bad : reading now (line, number) = .error f)
      (settles : Settles ready.plan () events w)
      (code : report.code = 1) (output : report.output = [])
      (fault : what = " is not valid JSON" ∨ what = " is not an event")
      (message : f.message = "Line " ++ toString number ++ what)
      (errors : report.errors = ("Error: " ++ f.message) :: Failure.causeLines f.causes)
      (dry : "--dry-run" ∈ arguments → Holds ready.plan.envelope bodies events)

variable {read : Settings.ReadFile} {arguments : List String} {ready : Ready} {lines : List String}
  {deliver : Request → σ → Answer × σ} {s : σ} {now : Nat → String} {bodies : List String}
  {report : Report}

theorem ready_of_prepare {o : Options} (prepared : prepare read o = .ok ready) : ready.options = o ∧
    ∃ settings, World.opened settings Envelope.default (some ()) = .ok (ready.plan, ready.world) := by
  unfold prepare at prepared
  split at prepared
  · cases prepared
  next settings _ =>
    split at prepared
    · cases prepared
    next opened =>
      cases prepared
      exact ⟨rfl, settings, opened⟩

theorem ready_of_start (started : start read arguments = .ok ready) :
    Given Options.none arguments ready.options ∧
      ∃ settings, World.opened settings Envelope.default (some ()) = .ok (ready.plan, ready.world) := by
  unfold start at started
  split at started
  · cases started
  · cases started
  · cases started
  next o run =>
    cases prepared : prepare read o with
    | error failure =>
      rw [prepared] at started
      cases started
    | ok ready' =>
      rw [prepared] at started
      cases started
      obtain ⟨rfl, opened⟩ := ready_of_prepare prepared
      exact ⟨Invocation.ofArguments_eq_run_iff.1 run, opened⟩

theorem isDryRun_iff_of_start (started : start read arguments = .ok ready) :
    ready.options.isDryRun = true ↔ "--dry-run" ∈ arguments :=
  (ready_of_start started).1.isDryRun_iff.trans (or_iff_right Bool.false_ne_true)

theorem accounts_of_settles {failure : Option Failure} {recorded : Option Recorder}
    (intake : Intake now (numbered 1 lines) events failure) (settles : Settles ready.plan () events w)
    (counted : (recorded.map fun r => "requests=" ++ toString r.attempts).toList =
      if "--dry-run" ∈ arguments then ["requests=" ++ toString bodies.length] else [])
    (dry : "--dry-run" ∈ arguments →
      w.journal.countP isFailed = 0 ∧ Holds ready.plan.envelope bodies events) :
    Accounts ready arguments now lines w bodies (reportOf events failure w.journal recorded) := by
  cases failure with
  | none =>
    have sum := counts_of_settles settles
    have reads := intake.all_read
    refine .complete reads.length_eq.symm reads settles ⟨rfl, rfl⟩ sum rfl rfl
      (congrArg (_ :: ·) counted) fun isDry => ?_
    obtain ⟨unfailing, holds⟩ := dry isDry
    exact ⟨by omega, unfailing, holds⟩
  | some f =>
    obtain ⟨good, line, rest, split, reads, bad⟩ := intake.first_bad
    obtain ⟨what, fault, message⟩ := message_of_reading bad
    exact .broken split reads bad settles rfl rfl fault message rfl fun isDry => (dry isDry).2

theorem Course.accounts (world : ready.world = begun (some ()) url)
    (course : Course ready arguments deliver s now lines w bodies report) :
    Accounts ready arguments now lines w bodies report := by
  cases course with
  | recorded isDry intake session =>
    rw [world] at session
    have keeps := keeps_of_served session.served
    have settles := session.settles
    refine accounts_of_settles intake settles ?_ fun _ =>
      ⟨countP_isFailed_eq_zero keeps settles, holds_of_keeps keeps settles⟩
    rw [if_pos isDry, List.length_map]
    rfl
  | sent isReal intake session =>
    rw [world] at session
    exact accounts_of_settles intake session.settles (if_neg isReal).symm fun isDry => absurd isDry isReal

def Report.outcome (r : Report) : Nat × List String × List String := (r.code, r.output, r.errors)

theorem Accounts.outcome_of_all_read (h : Accounts ready arguments now lines w bodies report)
    (all : ∀ line ∈ numbered 1 lines, ∃ e, reading now line = .ok e) : ∃ delivered failed,
      delivered + failed = (numbered 1 lines).length ∧ ("--dry-run" ∈ arguments → failed = 0) ∧
      report.outcome = (0, ("submitted=" ++ toString (numbered 1 lines).length ++ " delivered=" ++
        toString delivered ++ " failed=" ++ toString failed) ::
          if "--dry-run" ∈ arguments then ["requests=" ++ toString bodies.length] else [], []) := by
  cases h with
  | @complete events n delivered failed count reads settles totals sum code errors output dry =>
    rw [← count]
    exact ⟨delivered, failed, sum, fun isDry => (dry isDry).2.1, by rw [Report.outcome, code, output, errors]⟩
  | broken split reads bad =>
    obtain ⟨e, good⟩ := all _ (split ▸ List.mem_append_right _ List.mem_cons_self)
    cases good.symm.trans bad

theorem Accounts.outcome_of_first_bad {good rest : List (String × Nat)} {line : String × Nat} {f : Failure}
    (h : Accounts ready arguments now lines w bodies report)
    (split : numbered 1 lines = good ++ line :: rest)
    (reads : ∀ line ∈ good, ∃ e, reading now line = .ok e) (bad : reading now line = .error f) :
    report.outcome = (1, [], f.lines) := by
  cases h with
  | complete count read =>
    obtain ⟨e, good⟩ := exists_event_of_mem read line (split ▸ List.mem_append_right _ List.mem_cons_self)
    cases good.symm.trans bad
  | @broken good' rest' text what number events f' split' reads' bad' settles code output fault message errors =>
    have found := find?_bad reads bad rest
    rw [← split, split', find?_bad (exists_event_of_mem reads') bad'] at found
    cases found
    cases bad.symm.trans bad'
    rw [Report.outcome, code, output, errors]
    rfl

theorem Accounts.under (h : Accounts ready arguments now lines w bodies report) (logLevel : Option String) :
    Accounts ready arguments now lines w bodies (report.under logLevel) := by
  cases h with
  | complete count reads settles totals sum code errors output dry =>
    exact .complete count reads settles totals sum code errors output dry
  | broken split reads bad settles code output fault message errors dry =>
    exact .broken split reads bad settles code output fault message errors dry

theorem exists_course (roomy : 0 < ready.plan.flushCount) (world : ready.world = begun (some ()) url)
    (isDry : ready.options.isDryRun = true ↔ "--dry-run" ∈ arguments)
    (deliver : Request → σ → Answer × σ) (s : σ) (clock : Clock) (text : String) : ∃ w bodies,
      Course ready arguments deliver s (fun _ => clock.stamp) (Text.lines text) w bodies
        (ready.run deliver s clock text.toUTF8) := by
  have intake := intake_readEvents clock.stamp 1 (Text.lines text)
  unfold Ready.run
  rw [Text.linesOfBytes_toUTF8]
  cases dry : ready.options.isDryRun with
  | true =>
    obtain ⟨actions, session⟩ := session_submit roomy world recordedAnswer Recorder.accepting clock _
    exact ⟨_, _, .recorded (isDry.1 dry) intake session⟩
  | false =>
    obtain ⟨actions, session⟩ := session_submit roomy world deliver s clock _
    exact ⟨_, _, .sent (mt isDry.2 (Bool.eq_false_iff.1 dry)) intake session⟩

/-- The command ends, and however it goes about it, it accounts for all the lines that its input is put
together from. -/
theorem run_accounts (started : start read arguments = .ok ready) (logLevel : Option String)
    (deliver : Request → σ → Answer × σ) (s : σ) (text : String) :
    Given Options.none arguments ready.options ∧
    ∃ lines, (∀ ls, Text.Cut text ls ↔ ls = lines) ∧
      (∀ clock, ∃ w bodies report,
        Course ready arguments deliver s (fun _ => clock.stamp) lines w bodies report ∧
          run logLevel read arguments deliver s clock text.toUTF8 = report.under logLevel) ∧
      ∀ now w bodies report, Course ready arguments deliver s now lines w bodies report →
        Accounts ready arguments now lines w bodies (report.under logLevel) := by
  obtain ⟨given, settings, opened⟩ := ready_of_start started
  obtain ⟨-, world, -⟩ := eq_begun_of_opened opened
  refine ⟨given, Text.lines text, fun ls => Text.cut_iff.trans eq_comm, ?_, ?_⟩
  · intro clock
    obtain ⟨w, bodies, course⟩ := exists_course (flushCount_pos_of_opened opened) world
      (isDryRun_iff_of_start started) deliver s clock text
    refine ⟨w, bodies, _, course, ?_⟩
    rw [run, started]
  · intro now w bodies report course
    exact (course.accounts world).under logLevel

/-- An event, a blank line, and a line that is none. -/
def threeLines : String := "\x7b\"type\":\"track\"\x7d\n \n\x7b\x7d\n"

/-- Two events with a blank line between them. -/
def allEvents : String := "\x7b\"type\":\"track\"\x7d\r\n\n\x7b\"type\":\"page\"\x7d"

def noFile : Settings.ReadFile := fun _ => .error ""

def neverAnswers (_ : Request) (s : Unit) : Answer × Unit := (.panicked, s)

theorem numbered_threeLines : numbered 1 (Text.lines threeLines) =
    [("\x7b\"type\":\"track\"\x7d", 1)] ++ ("\x7b\x7d", 3) :: [] := by decide +kernel

theorem numbered_allEvents : numbered 1 (Text.lines allEvents) =
    [("\x7b\"type\":\"track\"\x7d", 1), ("\x7b\"type\":\"page\"\x7d", 3)] := by decide +kernel

theorem all_read_allEvents (now : Nat → String) :
    ∀ line ∈ numbered 1 (Text.lines allEvents), ∃ e, reading now line = .ok e := by
  rw [numbered_allEvents]
  simp only [List.forall_mem_cons]
  exact ⟨⟨Event.new "track" (now 1), rfl⟩, ⟨Event.new "page" (now 3), rfl⟩, nofun⟩

theorem exists_ready (arguments : List String) (accepted : (start noFile arguments).isOk = true) :
    ∃ ready, start noFile arguments = .ok ready := by
  cases started : start noFile arguments with
  | error report =>
    rw [started] at accepted
    cases accepted
  | ok ready => exact ⟨ready, rfl⟩

theorem run_accounts_threeLines :
    (∃ ready, start noFile ["--dry-run"] = .ok ready ∧ ready.options.isDryRun = true) ∧
    (∀ clock, (run none noFile ["--dry-run"] neverAnswers () clock threeLines.toUTF8).outcome =
      (1, [], ["Error: Line 3 is not an event", "", "Caused by:", "    missing field `type`"])) ∧
    (∀ clock, ∃ requests,
      (run none noFile ["--dry-run"] neverAnswers () clock allEvents.toUTF8).outcome =
        (0, ["submitted=2 delivered=2 failed=0", "requests=" ++ toString (requests : Nat)], [])) ∧
    ∀ clock, ∃ delivered failed, delivered + failed = 2 ∧
      (run none noFile [] neverAnswers () clock allEvents.toUTF8).outcome =
        (0, ["submitted=2 delivered=" ++ toString (delivered : Nat) ++ " failed=" ++ toString (failed : Nat)],
          []) := by
  obtain ⟨dry, startedDry⟩ := exists_ready ["--dry-run"] (by decide +kernel)
  obtain ⟨real, startedReal⟩ := exists_ready [] (by decide +kernel)
  obtain ⟨given, _, cutThree, ranThree, three⟩ := run_accounts startedDry none neverAnswers () threeLines
  obtain ⟨-, _, cutAll, ranDry, recorded⟩ := run_accounts startedDry none neverAnswers () allEvents
  obtain ⟨-, _, cutAll', ranReal, sent⟩ := run_accounts startedReal none neverAnswers () allEvents
  obtain rfl := (cutThree _).1 (Text.cut_iff.2 rfl)
  obtain rfl := (cutAll _).1 (Text.cut_iff.2 rfl)
  obtain rfl := (cutAll' _).1 (Text.cut_iff.2 rfl)
  have two : (numbered 1 (Text.lines allEvents)).length = 2 := congrArg List.length numbered_allEvents
  refine ⟨⟨dry, startedDry, given.isDryRun_iff.2 (.inr List.mem_cons_self)⟩, fun clock => ?_, fun clock => ?_,
    fun clock => ?_⟩
  · obtain ⟨w, bodies, report, course, ran⟩ := ranThree clock
    have bad : reading (fun _ => clock.stamp) ("\x7b\x7d", 3) = .error (.notEvent 3 (.missingField "type")) := rfl
    rw [ran, (three _ _ _ _ course).outcome_of_first_bad numbered_threeLines
      (List.forall_mem_singleton.2 ⟨Event.new "track" clock.stamp, rfl⟩) bad]
    rfl
  · obtain ⟨w, bodies, report, course, ran⟩ := ranDry clock
    obtain ⟨delivered, failed, sum, unfailing, outcome⟩ :=
      (recorded _ _ _ _ course).outcome_of_all_read (all_read_allEvents _)
    obtain rfl := unfailing List.mem_cons_self
    obtain rfl : delivered = 2 := sum.trans two
    rw [ran, outcome, two]
    exact ⟨bodies.length, rfl⟩
  · obtain ⟨w, bodies, report, course, ran⟩ := ranReal clock
    obtain ⟨delivered, failed, sum, -, outcome⟩ :=
      (sent _ _ _ _ course).outcome_of_all_read (all_read_allEvents _)
    refine ⟨delivered, failed, sum.trans two, ?_⟩
    rw [ran, outcome, two]
    rfl

example : (run none noFile ["--dry-run"] neverAnswers () ⟨0, "1970-01-01T00:00:00.000Z"⟩ allEvents.toUTF8).outcome =
    (0, ["submitted=2 delivered=2 failed=0", "requests=1"], []) := by decide +kernel

end Courier.Command
