import Questionnaire.CommandLine.Run

/-!
# The program

Reads the template that the arguments name and prints the report, or the error.

## Main definitions

* `ReadFault.ofSystem` — a failure of the system, as far as it is told apart.
* `readTemplate` — the text of the file at a path.
* `main` — the program.
-/

namespace Questionnaire

/-- A failure of the system, as far as it is told apart. -/
def ReadFault.ofSystem : IO.Error → ReadFault
  | .noFileOrDirectory _ _ _ => .missing
  | .inappropriateType _ code _ => if code = 21 then .directory else .throughFile
  | .invalidArgument _ code details =>
    if code = 36 ∨ code = 0 - 36 then .longName else .other details.toList
  | e => .other (toString e).toList

/-- The text of the file at a path. -/
def readTemplate (path : Text) : IO (Except ReadFault Text) := do
  if path.contains '\x00' then return .error .nullInPath
  try
    let bytes ← IO.FS.readBinFile (String.ofList path)
    return (decodeBytes? bytes).elim (.error .notText) .ok
  catch e => return .error (.ofSystem e)

end Questionnaire

/-- The program. -/
def main (args : List String) : IO UInt32 := do
  match Questionnaire.Invocation.read (args.map String.toList) with
  | .error refusal =>
    let usage := String.ofList Questionnaire.Invocation.usage
    if refusal.exitCode = 0 then IO.print usage else IO.eprint usage
    return UInt32.ofNat refusal.exitCode
  | .ok invocation =>
    match invocation.run (← Questionnaire.readTemplate invocation.path) with
    | .ok report =>
      IO.print (String.ofList report)
      return 0
    | .error e =>
      IO.eprint (String.ofList e.line)
      return 1
