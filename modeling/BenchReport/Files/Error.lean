/-!
# Why a file operation fails

## Main definitions

* `SystemError` — the faults that the operating system reports, each with its number.
* `AccessError` — those, contents and paths that cannot be used, and faults told in words.
-/

namespace BenchReport

/-- A fault reported by the operating system. -/
inductive SystemError where
  /-- The operation is not permitted to anyone. -/
  | notPermitted
  /-- Nothing has this name. -/
  | notFound
  /-- The operation is not permitted here. -/
  | permissionDenied
  /-- Something has this name already. -/
  | alreadyExists
  /-- A folder is needed, and something else has this name. -/
  | notFolder
  /-- A file is needed, and a folder has this name. -/
  | isFolder
  /-- The device is full. -/
  | noSpace
  /-- The device cannot be written. -/
  | readOnly
  /-- A name is too long. -/
  | nameTooLong
  /-- The folder is not empty. -/
  | notEmpty
  /-- Links lead to links too many times. -/
  | linkLoop
  deriving DecidableEq

namespace SystemError

/-- All faults. -/
def all : List SystemError :=
  [.notPermitted, .notFound, .permissionDenied, .alreadyExists, .notFolder, .isFolder,
   .noSpace, .readOnly, .nameTooLong, .notEmpty, .linkLoop]

/-- The number of the fault. -/
def code : SystemError → Nat
  | .notPermitted => 1
  | .notFound => 2
  | .permissionDenied => 13
  | .alreadyExists => 17
  | .notFolder => 20
  | .isFolder => 21
  | .noSpace => 28
  | .readOnly => 30
  | .nameTooLong => 36
  | .notEmpty => 39
  | .linkLoop => 40

/-- The fault of a number. -/
def ofCode? (code : Nat) : Option SystemError := all.find? fun e => e.code == code

/-- The fault in words. -/
def description : SystemError → String
  | .notPermitted => "Operation not permitted"
  | .notFound => "No such file or directory"
  | .permissionDenied => "Permission denied"
  | .alreadyExists => "File exists"
  | .notFolder => "Not a directory"
  | .isFolder => "Is a directory"
  | .noSpace => "No space left on device"
  | .readOnly => "Read-only file system"
  | .nameTooLong => "File name too long"
  | .notEmpty => "Directory not empty"
  | .linkLoop => "Too many levels of symbolic links"

/-- The fault in words and with its number. -/
def message (e : SystemError) : String :=
  e.description ++ " (os error " ++ toString e.code ++ ")"

end SystemError

/-- Why a file could not be read or written. -/
inductive AccessError where
  /-- The operating system reports a fault. -/
  | system (error : SystemError)
  /-- The content is not encoded text. -/
  | notText
  /-- The path holds the character that ends paths. -/
  | nulInPath
  /-- Another fault, told in words. -/
  | other (message : String)
  deriving DecidableEq

namespace AccessError

/-- The fault in words. -/
def message : AccessError → String
  | .system e => e.message
  | .notText => "stream did not contain valid UTF-8"
  | .nulInPath => "file name contained an unexpected NUL byte"
  | .other message => message

end AccessError

end BenchReport
