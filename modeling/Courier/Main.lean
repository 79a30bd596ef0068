import Std.Time.DateTime.Timestamp
import Courier.Command.Run
import Courier.Event.Basic

/-! The command line around `Courier.Command.run`: it reads the clock, the settings file and the
input, and prints the report. Requests find no network. -/
namespace Courier.Command

def readingFault : IO.Error → String
  | .noFileOrDirectory _ _ _ => "No such file or directory (os error 2)"
  | .permissionDenied _ _ _ => "Permission denied (os error 13)"
  | .inappropriateType _ _ _ => "Is a directory (os error 21)"
  | e => toString e

def readFile (path : String) : IO (Except String ByteArray) :=
  try
    return .ok (← IO.FS.readBinFile path)
  catch e => return .error (readingFault e)

partial def readAll (input : IO.FS.Stream) (sofar : ByteArray) : IO ByteArray := do
  let chunk ← input.read 65536
  if chunk.isEmpty then return sofar
  readAll input (sofar ++ chunk)

def print (stamp : String) (r : Report) : IO UInt32 := do
  let errors ← IO.getStderr
  for line in r.notices do errors.putStrLn line
  for line in r.log do errors.putStrLn (stamp ++ " " ++ printed line)
  for line in r.output do IO.println line
  for line in r.errors do errors.putStrLn line
  return UInt32.ofNat r.code

end Courier.Command

open Courier Courier.Command

def main (arguments : List String) : IO UInt32 := do
  let now ← Std.Time.Timestamp.now
  let stamp := Time.text now.toMillisecondsSinceUnixEpoch.toInt.toNat
  let logLevel ← IO.getEnv "LOG_LEVEL"
  let file ← match Invocation.ofArguments Options.none arguments with
    | .run o => match o.settingsPath with
      | some path => readFile path
      | none => pure (.ok ByteArray.empty)
    | _ => pure (.ok ByteArray.empty)
  match start (fun _ => file) arguments with
  | .error report => print stamp (report.under logLevel)
  | .ok ready =>
    let input ← readAll (← IO.getStdin) ByteArray.empty
    let deliver := fun request s => (Answer.ofResult (Http.deliver Http.unreachable request), s)
    print stamp ((ready.run deliver () ⟨0, stamp⟩ input).under logLevel)
