import Storypath.CommandLine.Run

/-! The program: files, variables and output of the system, and nothing else. -/
namespace Storypath

def systemError : IO.Error → Nat × String
  | .alreadyExists _ n s | .otherError n s | .resourceBusy n s | .resourceVanished n s
  | .unsupportedOperation n s | .hardwareFault n s | .unsatisfiedConstraints n s
  | .illegalOperation n s | .protocolError n s | .timeExpired n s | .interrupted _ n s
  | .noFileOrDirectory _ n s | .invalidArgument _ n s | .permissionDenied _ n s
  | .resourceExhausted _ n s | .inappropriateType _ n s | .noSuchThing _ n s => (n.toNat, s)
  | .unexpectedEof => (0, "unexpected end of file")
  | .userError s => (0, s)

/-- A failure by the number of its system error; some parts of the system negate the number. -/
def FileFailure.ofError (e : IO.Error) : FileFailure :=
  let (number, text) := systemError e
  match if number < Nat.pow 2 31 then number else Nat.pow 2 32 - number with
  | 2 => .notFound
  | 17 => .alreadyExists
  | 20 => .notDirectory
  | 21 => .isDirectory
  | 36 => .nameTooLong
  | n => .other s!"{text} (os error {n})"

def useFile {α : Type} (path : String) (action : IO α) : IO (Except FileFailure α) := do
  if path.toList.contains '\x00' then return .error .nulInPath
  try return .ok (← action)
  catch e => return .error (.ofError e)

instance : Files IO where
  read path := useFile path (IO.FS.readBinFile path)
  isThere path := do
    match ← useFile path (IO.FS.readBinFile path) with
    | .error .notFound | .error .notDirectory | .error .nameTooLong | .error .nulInPath =>
      return false
    | _ => return true
  isFolder path := do
    match ← useFile path (IO.FS.readBinFile path) with
    | .error .isDirectory => return true
    | _ => return false
  makeFolder path := useFile path (IO.FS.createDir path)
  write path content := useFile path (IO.FS.writeBinFile path content)

def systemEnvironment : IO Environment := do
  let named ← match ← Files.read CommandLine.environmentFile with
    | .ok content => pure (EnvironmentFile.words content)
    | .error _ => pure []
  let env ← (CommandLine.optionVariables ++ named).filterMapM fun name => do
    return (← IO.getEnv name).map fun value => (name, value)
  CommandLine.loadEnvironment env

def runProgram (args : List String) : IO UInt32 := do
  let env ← systemEnvironment
  match CommandLine.read env args with
  | .error .help => IO.print CommandLine.usageText
  | .error .fault => IO.eprint CommandLine.usageText
  | .ok _ => pure ()
  let (outlet, code) ← CommandLine.run env args .unlimited
  try
    let out ← IO.getStdout
    out.write outlet.written
    out.flush
    return UInt32.ofNat code
  catch _ => return 1

end Storypath

def main (args : List String) : IO UInt32 := Storypath.runProgram args
