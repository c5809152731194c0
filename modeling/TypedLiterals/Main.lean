import TypedLiterals.CommandLine.Run

/-!
The command line: reads the file that a run asks for and prints the outcome.
-/

namespace TypedLiterals.CommandLine

/-- The positive form of an error number of the operating system. -/
def errorNumber (code : UInt32) : Nat :=
  if code < 0x80000000 then code.toNat else 2 ^ 32 - code.toNat

def readSource (path : String) : IO (Except ReadFailure String) := do
  try
    return decode (← IO.FS.readBinFile path)
  catch
    | .noFileOrDirectory .. => return .error .notFound
    | .inappropriateType _ code reason | .permissionDenied _ code reason =>
      return .error (.refused reason.capitalize (errorNumber code))
    | e => return .error (.refused (toString e) 0)

def Stage.line : Stage → String
  | unknownType name => s!"ERROR unknown type name name=\"{name}\"\n"
  | reading file _ _ => s!"DEBUG tokenize file={file}\n"
  | finished nodes issues => s!"DEBUG done nodes={nodes} issues={issues}\n"

/-- The lines under the filter of the environment, if it is the name of a level. -/
def filtered? : Option String → Option (Stage → String)
  | some "off" => some fun _ => ""
  | some "error" | some "warn" | some "info" =>
    some fun stage => if stage.isError then stage.line else ""
  | some "debug" | some "trace" => some Stage.line
  | _ => none

def readHost : IO Host := do
  return {
    lines := Stage.line
    filtered? := filtered? (← IO.getEnv "RUST_LOG")
    report := fun | .tooWide => "Formatting argument out of range\n" }

end TypedLiterals.CommandLine

open TypedLiterals.CommandLine in
def main (args : List String) : IO UInt32 := do
  let outcome ←
    match plan (← readHost) args with
    | .finish outcome => pure outcome
    | .needFile path next => next <$> readSource path
  IO.print outcome.out
  IO.eprint outcome.err
  return UInt32.ofNat outcome.code
