import Provenance.CodeUnit.Basic
import Provenance.History.Graph

namespace Provenance

structure IndexReport where
  units : List CodeUnit
  /-- The number of files at HEAD that are no text. -/
  skipped : Nat

inductive IndexError where
  | history (cause : HistoryError)
  /-- The worker that indexes broke down. -/
  | task (detail : String)
  | cancelled
  deriving DecidableEq, Repr, Inhabited

namespace IndexError

def message : IndexError → String
  | history cause => "History error: " ++ cause.message
  | task detail => "Indexing task failed: " ++ detail
  | cancelled => "Indexing cancelled"

/-- Cancellation, wherever it was noticed, is no failure of the repository. -/
def isCancellation : IndexError → Bool
  | cancelled => true
  | history .cancelled => true
  | _ => false

end IndexError

end Provenance
