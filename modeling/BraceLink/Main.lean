import BraceLink.Command.Run

/-!
# The program

Reads and writes the files that a plan asks for.
-/

namespace BraceLink.Command

/-- Why the system refuses a file. -/
def refusalOf : IO.Error → Refusal
  | .noFileOrDirectory .. => .absent
  | .inappropriateType .. => .throughFile
  | _ => .folder

def Plan.perform : Plan → IO Ending
  | .finish ending => pure ending
  | .read path next => do
    let answer ← (IO.FS.readBinFile (String.ofList path)).toBaseIO
    (next ((answer.mapError refusalOf).map fun bytes => bytes.toList.map UInt8.toNat)).perform
  | .write path content next => do
    let answer ← (IO.FS.writeFile (String.ofList path) (String.ofList content)).toBaseIO
    match answer with
    | .ok _ => (next none).perform
    | .error error => (next (some (refusalOf error))).perform

end BraceLink.Command

/-- Carries out the plan for the words behind the program. -/
def main (words : List String) : IO UInt32 := do
  let ending ← (BraceLink.Command.plan (words.map String.toList)).perform
  IO.print (String.ofList ending.output)
  IO.eprint (String.ofList ending.complaints)
  match ending.crash with
  | some crash => IO.eprintln (repr crash).pretty
  | none => pure ()
  return ending.code.toUInt32
