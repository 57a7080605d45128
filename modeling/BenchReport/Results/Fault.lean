import BenchReport.Files.Error
import BenchReport.Files.Path

/-!
# Why a result file is not used

## Main definitions

* `LoadFault` — the causes.
* `LoadFault.message` — a cause in words.
-/

namespace BenchReport

/-- Why a result file has no records. -/
inductive LoadFault where
  /-- The file cannot be read. -/
  | unreadable (path : Path) (error : AccessError)
  /-- The file has more bytes than are allowed. -/
  | tooLarge (path : Path) (size limit : Nat)
  /-- The content is not a JSON text. -/
  | malformed (path : Path)
  /-- The content is a JSON text of something else than a list. -/
  | notAList (path : Path)
  deriving DecidableEq

namespace LoadFault

/-- What is said of a content that is not a JSON text. -/
def malformedDetail : String := "not a JSON text"

/-- The cause in words. -/
def message : LoadFault → String
  | unreadable path e => "cannot read '" ++ path.text ++ "': " ++ e.message
  | tooLarge path size limit =>
      "'" ++ path.text ++ "' is too large (" ++ toString size ++ " bytes, limit " ++
        toString limit ++ ")"
  | malformed path => "malformed JSON in '" ++ path.text ++ "': " ++ malformedDetail
  | notAList path => "'" ++ path.text ++ "' does not contain a list of records"

end LoadFault

end BenchReport
