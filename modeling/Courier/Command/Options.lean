/-! The arguments of the command. Each option is given at most once; a value follows its option as the
next argument, behind `=`, or right behind a short name. -/
namespace Courier.Command

structure Options where
  settingsPath : Option String
  writeKey : Option String
  host : Option String
  isDryRun : Bool
  deriving DecidableEq

namespace Options

def none : Options := ⟨.none, .none, .none, false⟩

inductive Valued where
  | settingsPath
  | writeKey
  | host

/-- Fails for an option that has a value already, and for a path without a character. -/
def set? (option : Valued) (value : String) (o : Options) : Option Options :=
  match option with
  | .settingsPath =>
    if o.settingsPath.isSome || value = "" then .none else some { o with settingsPath := value }
  | .writeKey => if o.writeKey.isSome then .none else some { o with writeKey := value }
  | .host => if o.host.isSome then .none else some { o with host := value }

def dryRun? (o : Options) : Option Options :=
  if o.isDryRun then .none else some { o with isDryRun := true }

end Options

inductive Argument where
  | valued (option : Options.Valued) (value : Option String)
  | dryRun
  | help
  | version
  | unknown

namespace Argument

def ofLong (name : String) (value : Option String) : Argument :=
  match name with
  | "config" => .valued .settingsPath value
  | "write-key" => .valued .writeKey value
  | "host" => .valued .host value
  | "dry-run" => if value.isSome then .unknown else .dryRun
  | "help" => if value.isSome then .unknown else .help
  | "version" => if value.isSome then .unknown else .version
  | _ => .unknown

/-- Text right behind a short name is the value, with or without `=`. -/
def attached : List Char → Option String
  | [] => none
  | '=' :: cs => some (String.ofList cs)
  | cs => some (String.ofList cs)

def ofShort (name : Char) (rest : List Char) : Argument :=
  match name with
  | 'c' => .valued .settingsPath (attached rest)
  | 'w' => .valued .writeKey (attached rest)
  | 'h' => .help
  | 'V' => .version
  | _ => .unknown

def ofText (argument : String) : Argument :=
  match argument.toList with
  | '-' :: '-' :: cs =>
    match cs.dropWhile (· ≠ '=') with
    | _ :: value => ofLong (String.ofList (cs.takeWhile (· ≠ '='))) (some (String.ofList value))
    | [] => ofLong (String.ofList cs) none
  | '-' :: c :: cs => ofShort c cs
  | _ => .unknown

end Argument

def isValue (argument : String) : Bool := argument = "-" || argument.toList.head? ≠ some '-'

inductive Invocation where
  | run (o : Options)
  | help
  | version
  | misused
  deriving DecidableEq

namespace Invocation

/-- Arguments are looked at in order; nothing may follow `--`. -/
def ofArguments (o : Options) : List String → Invocation
  | [] => run o
  | ["--"] => run o
  | a :: rest =>
    match Argument.ofText a with
    | .valued option (some value) =>
      match o.set? option value with
      | some o => ofArguments o rest
      | none => misused
    | .valued option none =>
      match rest with
      | value :: rest =>
        if isValue value then
          match o.set? option value with
          | some o => ofArguments o rest
          | none => misused
        else misused
      | [] => misused
    | .dryRun =>
      match o.dryRun? with
      | some o => ofArguments o rest
      | none => misused
    | .help => help
    | .version => version
    | .unknown => misused

end Invocation

end Courier.Command
