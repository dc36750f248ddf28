/-! # File errors — why the operating system refused -/

namespace SchemaMigration

/-- Why a file, a directory or a program could not be used. -/
inductive FileError where
  | notFound
  | denied
  | notRunnable
  | alreadyThere
  | notDirectory
  | isDirectory
  | nameTooLong
  | nulInName
  | nulInArgument
  | notText
  deriving DecidableEq, Repr

/-- The system's wording. -/
def FileError.message : FileError → String
  | .notFound => "No such file or directory (os error 2)"
  | .denied => "Permission denied (os error 13)"
  | .notRunnable => "Exec format error (os error 8)"
  | .alreadyThere => "File exists (os error 17)"
  | .notDirectory => "Not a directory (os error 20)"
  | .isDirectory => "Is a directory (os error 21)"
  | .nameTooLong => "File name too long (os error 36)"
  | .nulInName => "file name contained an unexpected NUL byte"
  | .nulInArgument => "nul byte found in provided data"
  | .notText => "stream did not contain valid UTF-8"

end SchemaMigration
