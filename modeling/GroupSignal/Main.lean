import GroupSignal.Command.Run

/-!
# The program

Runs the command line on the files, the standard streams and the environment of the process. It
knows no tool that compiles circuits, so it verifies signals and does not make any.
-/

namespace GroupSignal.Command

/-- The number of a failure of the system, which may come negated. -/
def failureNumber (code : UInt32) : UInt32 := if code < 0x80000000 then code else 0 - code

/-- The cause of a failure to read a file. The system has the number 20 for a path through something
that is no directory, and 36 for a name that is too long. -/
def fileError : IO.Error → FileError
  | .noFileOrDirectory .. => .notFound
  | .inappropriateType _ code _ => if failureNumber code = 20 then .notDirectory else .isDirectory
  | .invalidArgument file code details =>
    if failureNumber code = 36 then .nameTooLong
    else .other (toString (IO.Error.invalidArgument file code details))
  | e => .other (toString e)

/-- The files of the process. -/
def processFiles : FileSystem IO where
  read path := do
    if path.contains '\x00' then return .error .nullInPath
    try return .ok (← IO.FS.readBinFile path).toList
    catch e => return .error (fileError e)

/-- Everything on the standard input of the process. -/
def processInput : IO Bytes := do
  return (← (← IO.getStdin).readBinToEnd).toList

/-- The environment of the process. -/
def processSurroundings : IO Surroundings := do
  return { config := ← IO.getEnv Surroundings.configVariable
           seed := ← IO.getEnv Surroundings.seedVariable }

end GroupSignal.Command

open GroupSignal.Command in
/-- Runs the program. -/
def main (args : List String) : IO UInt32 := do
  let world : World IO := { files := processFiles, input := processInput, loader := .none }
  let response ← respond world (← processSurroundings) args
  (← IO.getStdout).putStr response.output
  (← IO.getStderr).putStr response.errors
  return response.code
