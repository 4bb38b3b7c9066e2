import Provenance.Clone.Directory
import Provenance.Descriptor
import Provenance.Text.Split
import Provenance.Text.Utf8

namespace Provenance

inductive CloneError where
  /-- The clone process could not be started. -/
  | notStarted (cause : IoError)
  /-- The clone process failed; a process that a signal killed has no exit code. -/
  | exited (code : Option Int) (stderr : String)
  /-- The directory for the clone could not be prepared. -/
  | directory (cause : IoError)
  deriving DecidableEq, Repr, Inhabited

def CloneError.exitText : Option Int → String
  | some code => "Some(" ++ toString code ++ ")"
  | none => "None"

def CloneError.message : CloneError → String
  | notStarted cause => "Failed to spawn git: " ++ cause.message
  | exited code stderr => "git clone exited with " ++ exitText code ++ ": " ++ stderr
  | directory cause => "Failed to prepare clone directory: " ++ cause.message

/-- A command without the program that runs it. -/
structure Command where
  arguments : List String
  environment : List (String × String)
  deriving DecidableEq, Repr

/-- How running a command ended. -/
inductive Attempt where
  | done
  | notStarted (cause : IoError)
  /-- It failed; a process that a signal killed has no exit code. -/
  | exited (code : Option Int) (stderr : List UInt8)
  | timedOut
  | cancelled
  deriving DecidableEq, Repr

/-- What lies outside of a clone call: the git program and the clock, over a state of their own. -/
structure GitProgram (σ : Type) where
  /-- Runs a command that writes to the directory at a place. -/
  run : Command → Place → FileTree → σ → Attempt × FileTree × σ
  /-- The time in milliseconds. -/
  millis : σ → Int

/-- A repository on disk. -/
structure Clone where
  descriptor : Descriptor
  /-- Where its directory is, with no link on the way. -/
  place : Place
  deriving Repr

def Clone.drop (c : Clone) (files : FileTree) : FileTree := files.removeAll c.place

inductive CloneOutcome where
  | cloned (c : Clone)
  | timedOut (afterMillis : Nat)
  | failed (cause : CloneError)
  | cancelled

/-- An entry of a directory given as a path text. -/
def joinPath (directory name : String) : String :=
  if directory.isEmpty || directory.toList.getLast? = some '/' then directory ++ name
  else directory ++ "/" ++ name

/-- Clones with the command line of git. Every attempt has a fresh directory, which only a clone
that succeeds keeps. An attempt is repeated only if git could not be started. -/
structure GitCloner where
  root : String
  timeoutMillis : Nat
  /-- Further attempts when git cannot be started. -/
  spawnRetries : Nat := 2
  deriving Repr

namespace GitCloner

/-- A bare clone of one branch, which never asks for a password. -/
def command (url target : String) : Command where
  arguments := ["clone", "--bare", "--single-branch", "--quiet", "--", url, target]
  environment := [("GIT_TERMINAL_PROMPT", "0")]

/-- What a clone call did. -/
structure Run (σ : Type) where
  outcome : CloneOutcome
  /-- How often git was started again. -/
  retries : Nat
  files : FileTree
  state : σ

variable {σ : Type}

/-- Runs a command. An argument with a zero byte cannot be handed over. -/
def execute (git : GitProgram σ) (c : Command) (target : Place) (files : FileTree) (s : σ) :
    Attempt × FileTree × σ :=
  if c.arguments.any fun a => a.any (· = '\x00') then (.notStarted .zeroInArgument, files, s)
  else git.run c target files s

/-- Attempts with `left` retries to go, after `retries` of them; the clone root leads to `root`. -/
def attempts (cloner : GitCloner) (git : GitProgram σ) (root : Place) (d : Descriptor) :
    (left retries : Nat) → FileTree → σ → Run σ
  | left, retries, files, s =>
    match claimDirectory files (Place.ofText cloner.root) d.name (git.millis s) with
    | .error e => ⟨.failed (.directory e), retries, files, s⟩
    | .ok (files, name) =>
      let path := joinPath cloner.root name
      let target := root ++ [name]
      match execute git (command d.url path) target files s with
      | (.done, files, s) =>
        ⟨.cloned ⟨{ d with localPath := some path }, target⟩, retries, files, s⟩
      | (attempt, files, s) =>
        let files := files.removeAll target
        match attempt, left with
        | .notStarted _, left + 1 => cloner.attempts git root d left (retries + 1) files s
        | .notStarted e, 0 => ⟨.failed (.notStarted e), retries, files, s⟩
        | .exited code stderr, _ =>
          let text := String.ofList (Text.trimBlanks (Text.lossyUtf8 stderr))
          ⟨.failed (.exited code text), retries, files, s⟩
        | .timedOut, _ => ⟨.timedOut cloner.timeoutMillis, retries, files, s⟩
        | _, _ => ⟨.cancelled, retries, files, s⟩

/-- Makes the clone root if it is missing, and finds the directory that it leads to. -/
def prepare (cloner : GitCloner) (files : FileTree) :
    Except (Broken IoError) (FileTree × Place) := do
  let files ← files.makeDirectories (Place.ofText cloner.root)
  return (files, ← files.trying (files.follow FileTree.mostLinks (Place.ofText cloner.root)))

def clone (cloner : GitCloner) (git : GitProgram σ) (d : Descriptor) (cancelled : Bool)
    (files : FileTree) (s : σ) : Run σ :=
  if cancelled then ⟨.cancelled, 0, files, s⟩
  else
    match cloner.prepare files with
    | .error broken => ⟨.failed (.directory broken.cause), 0, broken.files, s⟩
    | .ok (files, root) => cloner.attempts git root d cloner.spawnRetries 0 files s

end GitCloner

end Provenance
