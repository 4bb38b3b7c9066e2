import Std.Data.ExtTreeMap
import Provenance.Time.Calendar

namespace Provenance

structure Author where
  name : String
  profileUrl : Option String := none
  deriving DecidableEq, Repr, Inhabited

/-- A definition in a source text, such as a function or a class. -/
structure Symbol where
  kind : String
  line : Nat
  column : Nat
  deriving DecidableEq, Repr, Inhabited

abbrev Symbols := Std.ExtTreeMap String (List Symbol)

/-- One text file at HEAD with its provenance and the symbols that a parser found in it. -/
structure CodeUnit where
  displayName : String
  sourceText : String
  filePath : String
  authors : List Author
  canonicalUrl : Option String
  created : Time.Instant
  modified : Time.Instant
  rank : Float
  symbols : Symbols

inductive ParseError where
  | unsupportedLanguage (path : String)
  | invalidContent (detail : String)
  deriving DecidableEq, Repr, Inhabited

def ParseError.message : ParseError → String
  | unsupportedLanguage path => "Unsupported language for file: " ++ path
  | invalidContent detail => "Failed to parse content: " ++ detail

abbrev SymbolParser := CodeUnit → Symbols × Except ParseError Unit

/-- Knows no language. -/
def SymbolParser.none : SymbolParser := fun u => (u.symbols, .error (.unsupportedLanguage u.filePath))

end Provenance
