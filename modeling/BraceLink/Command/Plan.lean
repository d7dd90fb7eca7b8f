import BraceLink.Disk
import BraceLink.Resolver
import BraceLink.Settings.File
import BraceLink.Terminal.Markup

/-!
# Plans

A run of the program reads files, may write one, and ends with texts for the two streams of output. A
plan is such a run as a value: what it does next may depend on the answers of the disk.

* `Plan.run`: the run of a plan on a disk.
-/

namespace BraceLink.Command

/-- Why a run breaks off. -/
inductive Crash where
  /-- A file that should be a text is none. -/
  | noText
  /-- A text that should be written has no bytes, because it holds a surrogate. -/
  | noBytes
  | settings (error : Settings.FileError)
  | chain (error : Registry.Error)
  | handler (fault : Fault)
  | display (error : Terminal.Markup.Error)
  | disk (refusal : Refusal)
  deriving DecidableEq, Repr

/-- How a run ends. -/
structure Ending where
  /-- The exit code: zero if all went well. -/
  code : Nat := 0
  output : Text := []
  complaints : Text := []
  crash : Option Crash := none
  deriving DecidableEq, Repr

inductive Plan where
  | finish (ending : Ending)
  /-- Reads the file to which a path leads. -/
  | read (path : Text) (next : Except Refusal (List Nat) → Plan)
  /-- Writes a text into the file to which a path leads. -/
  | write (path content : Text) (next : Option Refusal → Plan)

namespace Plan

def run (disk : Disk) : Plan → Ending × Disk
  | .finish ending => (ending, disk)
  | .read path next => run disk (next (disk.read path))
  | .write path content next =>
    match disk.write path (Utf8.encode content) with
    | .ok disk => run disk (next none)
    | .error refusal => run disk (next (some refusal))

def crash (crash : Crash) : Plan := .finish { code := 1, crash := some crash }

end Plan

end BraceLink.Command
