import Provenance.Git.Build
import Provenance.Harvest

namespace Provenance

/-- What a harvest without a network runs on. No platform answers; git clones the repositories that
are at hand, each under its URL, and has no others. -/
structure Offline where
  /-- The repositories at hand by URL. -/
  served : List (String × Git.Repository) := []
  /-- What has been cloned, the last one first. -/
  clones : List (Place × Git.Repository) := []
  cancelled : Bool := false

namespace Offline

/-- The exit code of git for a repository that it cannot find. -/
def notFound : Int := 128

/-- The exit code of git for arguments that it does not know. -/
def notUnderstood : Int := 129

/-- What cloning a repository gives. One with a malformed HEAD is taken for no repository; one whose
HEAD leads to a missing commit gives an empty clone. -/
def copy? (r : Git.Repository) : Option Git.Repository :=
  if r.head = .malformed then none
  else
    match r.headCommit with
    | .ok _ => some r
    | .error _ => some (Git.Repository.empty (.reference "refs/heads/main"))

/-- The URL of a clone command is its last argument but one. -/
def run (c : Command) (target : Place) (files : FileTree) (s : Offline) :
    Attempt × FileTree × Offline :=
  match c.arguments.reverse with
  | _ :: url :: _ =>
    match (s.served.lookup url).bind copy? with
    | some r => (.done, files, { s with clones := (target, r) :: s.clones })
    | none => (.exited (some notFound) [], files, s)
  | _ => (.exited (some notUnderstood) [], files, s)

def network : Http.Network Offline where
  send _ s := (if s.cancelled then none else some .failed, s)
  now _ := 0
  sleep _ s := (!s.cancelled, s)
  cancelled s := s.cancelled

/-- The surroundings of a harvest whose clock stands still. -/
def surroundings (millis : Int) : Surroundings Offline where
  network
  git := ⟨run, fun _ => millis⟩
  repository p s := s.clones.lookup p
  tell cancelled s := { s with cancelled }
  pause _ s := s

end Offline

end Provenance
