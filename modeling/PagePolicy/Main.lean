import PagePolicy.Command.Arguments
import PagePolicy.Command.Run

/-! The program: arguments, files and streams. -/

namespace PagePolicy

def readRules (file : String) : IO (Except ReadError String) := do
  try
    let bytes ← IO.FS.readBinFile file
    match String.fromUTF8? bytes with
    | some text => return .ok text
    | none => return .error .notText
  catch e => return .error (readError e)
where
  /-- The reason that the system gives, whose number may come with its sign turned. -/
  refused (number : UInt32) (reason : String) : ReadError :=
    .refused reason.capitalize (if number.toInt32 < 0 then 0 - number else number).toNat
  /-- What an error of the system means for the file. -/
  readError : IO.Error → ReadError
    | .noFileOrDirectory _ number reason => refused number reason
    | .permissionDenied _ number reason => refused number reason
    | .inappropriateType _ number reason => refused number reason
    | .otherError number reason => refused number reason
    | e => .refused (toString e) 0

def showTime (nanoseconds : Nat) : String :=
  let tenths := (nanoseconds + 50000) / 100000
  s!"{tenths / 10}.{tenths % 10}"

end PagePolicy

open PagePolicy

def main (args : List String) : IO UInt32 := do
  let out ← IO.getStdout
  let err ← IO.getStderr
  match Command.ofArguments args with
  | .error .help =>
    Command.usage.forM out.putStrLn
    return 0
  | .error .wrong =>
    Command.usage.forM err.putStrLn
    return 2
  | .ok command =>
    let start ← IO.monoNanosNow
    let content ← readRules command.file
    let stop ← IO.monoNanosNow
    let outcome := command.run content (showTime (stop - start))
    outcome.output.forM out.putStrLn
    outcome.complaint.forM err.putStrLn
    return outcome.exitCode.toUInt32
