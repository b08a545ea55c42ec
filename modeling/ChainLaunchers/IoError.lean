/-
Module: ChainLaunchers.IoError
Purpose: Why an operation on files can fail.
Trusted boundary: the wordings, which restate those of the operating system.
Main exports:
  IoError, IoError.message
-/

namespace ChainLaunchers

/-- The causes for which reading or writing a file fails. -/
inductive IoError where
  /-- A name on the way does not exist. -/
  | notFound
  /-- Something of that name is there already. -/
  | alreadyExists
  /-- A file stands where a directory is needed. -/
  | notDirectory
  /-- A directory stands where a file is needed. -/
  | isDirectory
  /-- The operation makes no sense for this path, such as removing a directory by its own `.`. -/
  | invalidArgument
  /-- A directory still has entries or is in use. -/
  | notEmpty
  /-- A name has more than 255 bytes, or a path 4096 or more. -/
  | nameTooLong
  /-- A path contains the null byte, which no name can hold. -/
  | nullInPath
  /-- A text file is not valid UTF-8. -/
  | notText
  /-- A cause that is known by its description only. -/
  | described (text : String)
deriving Repr, DecidableEq, Inhabited

/-- The wording of a cause. -/
def IoError.message : IoError → String
  | .notFound => "No such file or directory (os error 2)"
  | .alreadyExists => "File exists (os error 17)"
  | .notDirectory => "Not a directory (os error 20)"
  | .isDirectory => "Is a directory (os error 21)"
  | .invalidArgument => "Invalid argument (os error 22)"
  | .notEmpty => "Directory not empty (os error 39)"
  | .nameTooLong => "File name too long (os error 36)"
  | .nullInPath => "file name contained an unexpected NUL byte"
  | .notText => "stream did not contain valid UTF-8"
  | .described text => text

end ChainLaunchers
