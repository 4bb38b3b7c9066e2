import Provenance.Files.Tree

namespace Provenance

/-- A claim of a directory below `root`. It tries one name after another until it makes a directory;
making it is the claim, so that no two claims share one. -/
structure Claim where
  root : Place
  base : String
  /-- How many names were taken. Each is that of another entry, so there are fewer than entries. -/
  attempt : Nat := 0
  deriving DecidableEq, Repr

namespace Claim

/-- The first name to try for a repository. -/
def baseName (name : String) (millis : Int) : String :=
  name.map (fun c => if c = '/' then '-' else c) ++ "-" ++ toString millis

/-- The name to try next. -/
def name (c : Claim) : String :=
  if c.attempt = 0 then c.base else c.base ++ "-" ++ toString c.attempt

def place (c : Claim) : Place := c.root ++ [c.name]

inductive Step where
  | claimed (files : FileTree) (name : String)
  /-- The name is taken; the claim goes on with the next. -/
  | taken (next : Claim)
  | failed (cause : IoError)

def step (c : Claim) (files : FileTree) : Step :=
  match files.makeDirectory c.place with
  | .ok files => .claimed files c.name
  | .error .alreadyExists => .taken { c with attempt := c.attempt + 1 }
  | .error e => .failed e

def run : Nat → Claim → FileTree → Except IoError (FileTree × String)
  | 0, _, _ => .error .alreadyExists
  | n + 1, c, files =>
    match c.step files with
    | .claimed files name => .ok (files, name)
    | .taken c => run n c files
    | .failed e => .error e

end Claim

/-- Claims a directory below `root`. One name more than there are entries is enough. -/
def claimDirectory (files : FileTree) (root : Place) (name : String) (millis : Int) :
    Except IoError (FileTree × String) :=
  Claim.run (files.size + 1) { root, base := Claim.baseName name millis } files

end Provenance
