import SiteGate.Files.Path

/-!
# Failures of the file system

Why an operation on files fails. Each cause has the number and the words that the operating system
gives it, and a name for its kind.
-/

set_option autoImplicit false

namespace SiteGate

/-- Why an operation on a file fails. -/
inductive FileError where
  | notFound
  | busy
  | alreadyExists
  | notADirectory
  | isADirectory
  | nameTooLong
  | notEmpty
  /-- The path holds the character with number zero. -/
  | zeroInPath
deriving DecidableEq

namespace FileError

/-- The number of the operating system for the failure, which it never sees if the path cannot be
handed to it. -/
def code? : FileError → Option Nat
  | .notFound => some 2
  | .busy => some 16
  | .alreadyExists => some 17
  | .notADirectory => some 20
  | .isADirectory => some 21
  | .nameTooLong => some 36
  | .notEmpty => some 39
  | .zeroInPath => none

/-- The words for the failure. -/
def words : FileError → String
  | .notFound => "No such file or directory"
  | .busy => "Device or resource busy"
  | .alreadyExists => "File exists"
  | .notADirectory => "Not a directory"
  | .isADirectory => "Is a directory"
  | .nameTooLong => "File name too long"
  | .notEmpty => "Directory not empty"
  | .zeroInPath => "file name contained an unexpected NUL byte"

/-- The name of the failure's kind. -/
def kind : FileError → String
  | .notFound => "NotFound"
  | .busy => "ResourceBusy"
  | .alreadyExists => "AlreadyExists"
  | .notADirectory => "NotADirectory"
  | .isADirectory => "IsADirectory"
  | .nameTooLong => "InvalidFilename"
  | .notEmpty => "DirectoryNotEmpty"
  | .zeroInPath => "InvalidInput"

end FileError

/-- A failure with the path that it concerns. -/
structure FileFailure where
  path : Path
  cause : FileError
deriving DecidableEq

/-- The message of a failure. -/
def FileFailure.message (f : FileFailure) : Text :=
  let number :=
    match f.cause.code? with
    | some n => " (os error ".toList ++ Nat.toDigits 10 n ++ [')']
    | none => []
  "IO error on ".toList ++ f.path ++ ": ".toList ++ f.cause.words.toList ++ number

end SiteGate
