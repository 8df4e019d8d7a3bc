/-!
Why an operation on files fails.
-/
namespace MockData

/-- `other` is whatever else a real disk may answer. -/
inductive DiskError
  | notFound
  | taken
  | notDirectory
  | isDirectory
  | busy
  | nameTooLong
  | nulInPath
  | noFileName
  | notText
  | other (message : String)
  deriving DecidableEq, Repr

def DiskError.message : DiskError → String
  | .notFound => "No such file or directory (os error 2)"
  | .taken => "File exists (os error 17)"
  | .notDirectory => "Not a directory (os error 20)"
  | .isDirectory => "Is a directory (os error 21)"
  | .busy => "Device or resource busy (os error 16)"
  | .nameTooLong => "File name too long (os error 36)"
  | .nulInPath => "file name contained an unexpected NUL byte"
  | .noFileName => "invalid path for atomic write"
  | .notText => "stream did not contain valid UTF-8"
  | .other message => message

end MockData
