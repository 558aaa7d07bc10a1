import Stencil.Text

/-!
# Why a file cannot be used

The causes, and the message of each with the number that the system gives it.
-/

namespace Stencil

/-- Why a file cannot be read or written. -/
inductive FileError
  /-- Nothing is there. -/
  | missing
  /-- Something is there already. -/
  | occupied
  /-- A name is asked for below something that is no folder. -/
  | notFolder
  /-- A folder is where a file is asked for. -/
  | isFolder
  /-- A name is too long. -/
  | nameTooLong
  /-- A name holds the character zero. -/
  | zeroInName
  /-- The bytes of a file are no text. -/
  | notText
  /-- A path has no last name. -/
  | noName
  deriving DecidableEq, Repr

/-- Why a file cannot be used, in words. -/
def FileError.message : FileError → Text
  | .missing => "No such file or directory (os error 2)".toList
  | .occupied => "File exists (os error 17)".toList
  | .notFolder => "Not a directory (os error 20)".toList
  | .isFolder => "Is a directory (os error 21)".toList
  | .nameTooLong => "File name too long (os error 36)".toList
  | .zeroInName => "file name contained an unexpected NUL byte".toList
  | .notText => "stream did not contain valid UTF-8".toList
  | .noName => "Invalid path".toList

end Stencil
