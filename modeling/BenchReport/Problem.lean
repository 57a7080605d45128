import BenchReport.Files.Error
import BenchReport.Files.Path

/-!
# Problems that end a run

Result files never end a run: what is wrong with them only leaves figures out.  A run
ends when a report cannot be written or the settings cannot be used.
-/

namespace BenchReport

/-- Why no report was produced. -/
inductive Problem where
  /-- A file or folder could not be written. -/
  | access (path : Path) (error : AccessError)
  /-- The report has no written form. -/
  | serialization (message : String)
  /-- A setting cannot be used. -/
  | invalidSetting (parameter reason : String)
  deriving DecidableEq

/-- The problem in words. -/
def Problem.message : Problem → String
  | .access path e => "I/O error for '" ++ path.text ++ "': " ++ e.message
  | .serialization message => "Serialization error: " ++ message
  | .invalidSetting parameter reason =>
      "Invalid configuration parameter '" ++ parameter ++ "': " ++ reason

end BenchReport
