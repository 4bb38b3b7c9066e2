import Provenance.Config.Read
import Provenance.Text.Digits

namespace Provenance

inductive OptionName where
  | config
  | cloneRoot
  | output
  | cloners
  | indexers
  deriving DecidableEq, Repr, Inhabited

/-- Repositories to harvest, and options that override the configuration. Options and repositories
may be mixed; after `--` every argument is a repository. -/
structure Arguments where
  repositories : List String := []
  config : Option String := none
  cloneRoot : Option String := none
  output : Option String := none
  cloners : Option Nat := none
  indexers : Option Nat := none
  deriving DecidableEq, Repr, Inhabited

/-- Why the arguments are not accepted, or what is shown instead of running. -/
inductive UsageError where
  | unknownArgument
  /-- The value of an option is missing or empty. -/
  | missingValue
  /-- The value of an option is not a number. -/
  | malformedValue
  | repeatedOption
  | unexpectedValue
  | help
  | version
  deriving DecidableEq, Repr, Inhabited

namespace Arguments

def long? (name : List Char) : Option OptionName :=
  match String.ofList name with
  | "config" => some .config
  | "clone-root" => some .cloneRoot
  | "output" => some .output
  | "cloners" => some .cloners
  | "indexers" => some .indexers
  | _ => none

def short? : Char → Option OptionName
  | 'c' => some .config
  | 'o' => some .output
  | _ => none

def isSet (a : Arguments) : OptionName → Bool
  | .config => a.config.isSome
  | .cloneRoot => a.cloneRoot.isSome
  | .output => a.output.isSome
  | .cloners => a.cloners.isSome
  | .indexers => a.indexers.isSome

def path? (v : String) : Except UsageError (Option String) :=
  if v.isEmpty then .error .missingValue else .ok (some v)

def count? (v : String) : Except UsageError (Option Nat) :=
  match Decimal.unsigned? v.toList with
  | none => .error .malformedValue
  | some n => .ok (some n)

def assign (a : Arguments) (o : OptionName) : Option String → Except UsageError Arguments
  | none => .error .missingValue
  | some v =>
    if a.isSet o then .error .repeatedOption
    else
      match o with
      | .config => (path? v).map ({ a with config := · })
      | .cloneRoot => (path? v).map ({ a with cloneRoot := · })
      | .output => (path? v).map ({ a with output := · })
      | .cloners => (count? v).map ({ a with cloners := · })
      | .indexers => (count? v).map ({ a with indexers := · })

/-- What has been read, with an option that is not assigned yet and its value, if it came. -/
structure Partial where
  read : Arguments := {}
  pending : Option (OptionName × Option String) := none

namespace Partial

def settle (p : Partial) : Except UsageError Arguments :=
  match p.pending with
  | none => .ok p.read
  | some (o, v) => p.read.assign o v

def await (p : Partial) (o : OptionName) : Except UsageError Partial := do
  return { read := ← p.settle, pending := some (o, none) }

def set (p : Partial) (o : OptionName) (v : List Char) : Except UsageError Partial := do
  return { read := ← (← p.settle).assign o (some (String.ofList v)) }

def repository (p : Partial) (v : String) : Except UsageError Partial := do
  let a ← p.settle
  return { read := { a with repositories := a.repositories ++ [v] } }

/-- Shows something instead of running, if all before it is accepted. -/
def interrupt (p : Partial) (e : UsageError) : Except UsageError Partial := do
  let _ ← p.settle
  throw e

def value (p : Partial) (v : String) : Except UsageError Partial :=
  match p.pending with
  | some (o, none) => .ok { p with pending := some (o, some v) }
  | _ => p.repository v

/-- An option by its long name, with the text after `=`. -/
def long (p : Partial) (name : List Char) (v : Option (List Char)) : Except UsageError Partial :=
  match Arguments.long? name, v with
  | some o, none => p.await o
  | some o, some v => p.set o v
  | none, none =>
    if name = "help".toList then p.interrupt .help
    else if name = "version".toList then p.interrupt .version
    else .error .unknownArgument
  | none, some _ =>
    if name = "help".toList ∨ name = "version".toList then .error .unexpectedValue
    else .error .unknownArgument

/-- An option by its letter, with the rest of the argument, which may hold its value. -/
def short (p : Partial) (c : Char) (rest : List Char) : Except UsageError Partial :=
  match Arguments.short? c, rest with
  | some o, [] => p.await o
  | some o, '=' :: v => p.set o v
  | some o, v => p.set o v
  | none, _ =>
    if c = 'h' then p.interrupt .help
    else if c = 'V' then p.interrupt .version
    else .error .unknownArgument

def argument (p : Partial) (s : String) : Except UsageError Partial :=
  match s.toList with
  | '-' :: '-' :: r =>
    let name := r.takeWhile (· ≠ '=')
    p.long name (if '=' ∈ r then some (r.drop (name.length + 1)) else none)
  | '-' :: c :: r => p.short c r
  | _ => p.value s

end Partial

def parseFrom (p : Partial) : List String → Except UsageError Arguments
  | [] => p.settle
  | "--" :: rest => do (← rest.foldlM Partial.repository p).settle
  | s :: rest => do parseFrom (← p.argument s) rest

def parse (arguments : List String) : Except UsageError Arguments := parseFrom {} arguments

/-- What the command line says wins. -/
def override (a : Arguments) (c : Config) : Config :=
  { c with
    cloneRoot := a.cloneRoot.getD c.cloneRoot
    output := a.output.getD c.output
    cloners := a.cloners.getD c.cloners
    indexers := a.indexers.getD c.indexers }

def addToken (c : Config) (token : Option String) : Config :=
  { c with github := { c.github with token := c.github.token <|> token } }

/-- The configuration of a run: the file that the command line names, overridden by the command
line. A token of the environment is used if the file has none. `read` reads a file. -/
def configure (a : Arguments) (read : String → Except IoError ByteArray) (token : Option String) :
    Except ConfigError Config := do
  let c ← match a.config with
    | none => .ok {}
    | some path => Config.ofFile path (read path)
  (addToken (a.override c) token).validate

end Arguments

end Provenance
