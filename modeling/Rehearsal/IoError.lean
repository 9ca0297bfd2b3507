/-!
# Failures of input and output

Why a file could not be opened or a stream could not be read: the causes, what is said of each, and
the number that the operating system gives it. The three last ones have none, because it is not the
operating system that finds them.
-/

namespace Rehearsal

/-- Why an operation on a file or a stream failed. -/
inductive IoError where
  | notFound
  | permissionDenied
  | alreadyExists
  | notADirectory
  | isADirectory
  | nameTooLong
  | textFileBusy
  | noSpace
  | noDevice
  | notEmpty
  | execFormat
  | inputOutput
  | nulInPath
  | nulInArgument
  | notUtf8
  deriving DecidableEq, Repr

/-- What is said of a failure. -/
def IoError.reason : IoError → String
  | .notFound => "No such file or directory"
  | .permissionDenied => "Permission denied"
  | .alreadyExists => "File exists"
  | .notADirectory => "Not a directory"
  | .isADirectory => "Is a directory"
  | .nameTooLong => "File name too long"
  | .textFileBusy => "Text file busy"
  | .noSpace => "No space left on device"
  | .noDevice => "No such device or address"
  | .notEmpty => "Directory not empty"
  | .execFormat => "Exec format error"
  | .inputOutput => "Input/output error"
  | .nulInPath => "file name contained an unexpected NUL byte"
  | .nulInArgument => "nul byte found in provided data"
  | .notUtf8 => "stream did not contain valid UTF-8"

/-- The number that the operating system gives a failure. -/
def IoError.code? : IoError → Option Nat
  | .notFound => some 2
  | .permissionDenied => some 13
  | .alreadyExists => some 17
  | .notADirectory => some 20
  | .isADirectory => some 21
  | .nameTooLong => some 36
  | .textFileBusy => some 26
  | .noSpace => some 28
  | .noDevice => some 6
  | .notEmpty => some 39
  | .execFormat => some 8
  | .inputOutput => some 5
  | .nulInPath | .nulInArgument | .notUtf8 => none

/-- What is said of a failure, with its number. -/
def IoError.message (e : IoError) : String :=
  match e.code? with
  | some n => e.reason ++ " (os error " ++ toString n ++ ")"
  | none => e.reason

end Rehearsal
