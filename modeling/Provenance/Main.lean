import Provenance.CommandLine.Program
import Provenance.Offline

namespace Provenance

def Program.turnLimit : Nat := 1000000

/-- Adds a file of the disk; if it cannot be read, only its directory is there. -/
def FileTree.load (t : FileTree) : Option String → IO FileTree
  | none => pure t
  | some path => do
    let place := Place.ofText path
    try
      return t.withFile place (← IO.FS.readBinFile path)
    catch _ =>
      return t.withDirectory place.dropLast

end Provenance

open Provenance in
def main (arguments : List String) : IO UInt32 := do
  let started ← IO.monoMsNow
  let token ← IO.getEnv "GITHUB_TOKEN"
  let files ← FileTree.load ∅ (Program.config? arguments)
  let output := Program.output? arguments files
  let (ending, files, _) :=
    Program.run (Offline.surroundings started) Program.turnLimit arguments token
      (← files.load output) {}
  if let some path := output then
    if let .ok units := files.readPath path then
      IO.FS.writeBinFile path units
  IO.print (ending.output (toString ((← IO.monoMsNow) - started)))
  IO.eprint ending.complaint
  return .ofNat ending.exitCode
