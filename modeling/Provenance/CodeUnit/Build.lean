import Provenance.CodeUnit.Basic
import Provenance.Descriptor
import Provenance.History.FileRecord

namespace Provenance

/-- The names under which a repository's files can be browsed. -/
structure BrowseRefs where
  defaultBranch : Option String := none
  headCommit : Option String := none

def isSlash (c : Char) : Bool := c = '/'

def dropTrailingSlashes (s : List Char) : List Char := (s.reverse.dropWhile isSlash).reverse

/-- Where `path` can be browsed: on its branch at one platform, at its commit on the other. Unknown
references give no URL. -/
def canonicalUrl? (d : Descriptor) (refs : BrowseRefs) (path : String) : Option String := do
  let (segment, reference) ← match d.platform with
    | .github => refs.defaultBranch.map ("blob", ·)
    | .bitbucket => refs.headCommit.map ("src", ·)
  let base := String.ofList (dropTrailingSlashes d.url.toList)
  let reference := String.ofList (dropTrailingSlashes (reference.toList.dropWhile isSlash))
  let path := String.ofList (path.toList.dropWhile isSlash)
  return "/".intercalate [base, segment, reference, path]

/-- The code unit of a file. Times out of the calendar's range become the epoch. -/
def CodeUnit.build (d : Descriptor) (refs : BrowseRefs) (path text : String) (r : FileRecord) :
    CodeUnit where
  displayName := d.name ++ ": " ++ path
  sourceText := text
  filePath := path
  authors := r.authors.toList.map ({ name := · })
  canonicalUrl := canonicalUrl? d refs path
  created := .ofSeconds r.created
  modified := .ofSeconds r.modified
  rank := d.rank
  symbols := ∅

end Provenance
