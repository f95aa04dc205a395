/-!
# Failures of file operations

None of them is for a lack of permission, because every permission check passes.
-/

namespace TestCursor

/-- Why a file operation failed. -/
inductive FileError
  | notFound
  | notDirectory
  | isDirectory
  | tooManyLinks
  | nameTooLong
  | noSpace
  /-- The path holds a character that no path can hold. -/
  | nulInPath
  | notText
  deriving DecidableEq, Repr

def FileError.message : FileError → String
  | .notFound => "No such file or directory (os error 2)"
  | .notDirectory => "Not a directory (os error 20)"
  | .isDirectory => "Is a directory (os error 21)"
  | .tooManyLinks => "Too many levels of symbolic links (os error 40)"
  | .nameTooLong => "File name too long (os error 36)"
  | .noSpace => "No space left on device (os error 28)"
  | .nulInPath => "file name contained an unexpected NUL byte"
  | .notText => "stream did not contain valid UTF-8"

end TestCursor
