import Courier.Command.Failure
import Courier.Command.Options
import Courier.Command.Threshold
import Courier.Delivery.Http
import Courier.Delivery.Recorder
import Courier.Engine.Drive
import Courier.Event.Reader
import Courier.Text.Cutting
import Courier.Text.Shown

/-! The command: it submits the events that its input has, one on each line that is not blank, waits
until every one of them has been delivered or given up on, and says how many were. A line that is no
event ends the input and fails the command, though what stands before it is delivered. -/
namespace Courier.Command

/-- What the journal says of the command itself: failures of single events are logged too. -/
def tallied? : Fact Unit → Option LogLine
  | .told _ (.failure reason) e =>
    some ⟨.warn, none, "Failed to deliver " ++ e.kind ++ " event: " ++ reason⟩
  | _ => none

def isDelivered : Fact Unit → Bool
  | .told _ .success _ => true
  | _ => false

def isFailed : Fact Unit → Bool
  | .told _ (.failure _) _ => true
  | _ => false

def logOf (journal : List (Fact Unit)) : List LogLine :=
  journal.flatMap fun f => (f.logged?.map Prod.snd).toList ++ (tallied? f).toList

def printed (l : LogLine) : String := { l with message := Text.forTerminal l.message }.text

/-! ### Input -/

def readEvent (now : String) (number : Nat) (line : String) : Except Failure Event :=
  match Value.ofText line with
  | .error e => .error (.notJson number e)
  | .ok v =>
    match Event.ofValue now v with
    | .error m => .error (.notEvent number m)
    | .ok e => .ok e

/-- The events of the lines from the one with this number on, and what is wrong with the first bad
line. -/
def readEvents (now : String) (number : Nat) : List (Option String) → List Event × Option Failure
  | [] => ([], none)
  | none :: _ => ([], some (.unreadableInput Settings.notText))
  | some line :: rest =>
    if Text.isAllBlank line then readEvents now (number + 1) rest
    else match readEvent now number line with
      | .error f => ([], some f)
      | .ok e =>
        let (events, failure) := readEvents now (number + 1) rest
        (e :: events, failure)

/-! ### Delivery -/

def hostOf (deliver : Request → σ → Answer × σ) : Host Unit σ where
  answer? := fun request s => some (deliver request s)
  hear := fun _ _ _ _ s => (.verdict .ok, s)

def act (plan : Plan) (a : Action Unit) (w : World Unit) : World Unit := (w.step plan a).getD w

/-- More steps than it takes to deliver `n` events, whatever the transport answers. -/
def stepsFor (plan : Plan) (n : Nat) : Nat := 8 * (plan.policy.maxRetries + 2) * (n + 2)

/-- Everything is accepted before the worker starts; then the client drains and closes. -/
def submit (deliver : Request → σ → Answer × σ) (plan : Plan) (clock : Clock) (events : List Event)
    (w : World Unit) (s : σ) : World Unit × σ :=
  let drive := World.drive (hostOf deliver) plan clock (stepsFor plan events.length)
  let w := events.foldl (fun w e => act plan (.enqueue e clock) w) w
  let (w, s) := drive (act plan (.enterWait 0) w) s
  drive (act plan .close w) s

/-! ### Reports -/

structure Report where
  code : Nat
  output : List String
  /-- What is said before anything is logged. -/
  notices : List String
  log : List LogLine
  errors : List String

namespace Report

def said (output : List String) : Report := ⟨0, output, [], [], []⟩

def misused : Report := ⟨2, [], [], [], ["Usage: " ++ Envelope.libraryName ++ " [OPTIONS]"]⟩

def failed (f : Failure) : Report := ⟨1, [], [], [], f.lines⟩

def withLog (log : List LogLine) (r : Report) : Report := { r with log := log }

def under (logLevel : Option String) (r : Report) : Report :=
  let (threshold, notices) := Threshold.ofVariable logLevel
  { r with notices := notices, log := r.log.filter threshold.allows }

end Report

def versionLine : String := Envelope.libraryName ++ " " ++ Envelope.libraryVersion

def helpLines : List String := [
  "Batch and deliver newline-delimited JSON events", "",
  "Usage: " ++ Envelope.libraryName ++ " [OPTIONS]", "", "Options:",
  "  -c, --config <CONFIG>        A file of settings",
  "  -w, --write-key <WRITE_KEY>  The key of the collector, instead of the file's",
  "      --host <HOST>            The collector, instead of the file's",
  "      --dry-run                Record requests in memory and send nothing",
  "  -h, --help                   Print help",
  "  -V, --version                Print version"]

def tallyLine (journal : List (Fact Unit)) (submitted : Nat) : String :=
  "submitted=" ++ toString submitted ++ " delivered=" ++ toString (journal.countP isDelivered) ++
    " failed=" ++ toString (journal.countP isFailed)

def settingsFor (read : Settings.ReadFile) (o : Options) : Except SettingsError Settings := do
  let s ← match o.settingsPath with
    | some path => Settings.ofFile read path
    | none => .ok {}
  .ok { s with writeKey := o.writeKey.getD s.writeKey, host := o.host.getD s.host }

structure Ready where
  options : Options
  plan : Plan
  world : World Unit

def prepare (read : Settings.ReadFile) (o : Options) : Except Failure Ready :=
  match settingsFor read o with
  | .error e => .error (.settings e)
  | .ok s =>
    match World.opened s Envelope.default (some ()) with
    | .error e => .error (.notStarted e)
    | .ok (plan, world) => .ok ⟨o, plan, world⟩

/-- What is reported when all is done; requests are counted where they are only recorded. -/
def reportOf (events : List Event) (failure : Option Failure) (journal : List (Fact Unit))
    (recorded : Option Recorder) : Report :=
  let report := match failure with
    | some f => Report.failed f
    | none => Report.said (tallyLine journal events.length ::
        (recorded.map fun (r : Recorder) => "requests=" ++ toString r.attempts).toList)
  report.withLog (logOf journal)

def recordedAnswer (request : Request) (r : Recorder) : Answer × Recorder :=
  let (result, r) := r.deliver request
  (.ofResult result, r)

def Ready.run (ready : Ready) (deliver : Request → σ → Answer × σ) (s : σ) (clock : Clock)
    (input : ByteArray) : Report :=
  let (events, failure) := readEvents clock.stamp 1 (Text.linesOfBytes input)
  if ready.options.isDryRun then
    let (w, r) := submit recordedAnswer ready.plan clock events ready.world Recorder.accepting
    reportOf events failure w.journal (some r)
  else
    let (w, _) := submit deliver ready.plan clock events ready.world s
    reportOf events failure w.journal none

def start (read : Settings.ReadFile) (arguments : List String) : Except Report Ready :=
  match Invocation.ofArguments Options.none arguments with
  | .misused => .error Report.misused
  | .help => .error (Report.said helpLines)
  | .version => .error (Report.said [versionLine])
  | .run o => (prepare read o).mapError Report.failed

def run (logLevel : Option String) (read : Settings.ReadFile) (arguments : List String)
    (deliver : Request → σ → Answer × σ) (s : σ) (clock : Clock) (input : ByteArray) : Report :=
  match start read arguments with
  | .error report => report.under logLevel
  | .ok ready => (ready.run deliver s clock input).under logLevel

end Courier.Command
