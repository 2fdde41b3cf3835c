/-! # System errors

What the operating system answers when a file, an address or a stream cannot be used. -/

set_option autoImplicit false

namespace StorageBroker

/-- A failure of the operating system or of a stream. -/
inductive IoError
  | earlyEof
  | noSuchFile
  | notADirectory
  | isADirectory
  | fileExists
  | notEmpty
  | noDevice
  | invalidArgument
  | permissionDenied
  | nameTooLong
  | tooManyLinks
  | argumentsTooLong
  | nulInName
  | nulInArgument
  | addressInUse
  | addressNotAvailable
  | networkUnreachable
  | invalidSocketAddress
  | invalidPort
  | unknownHost
  | timedOut (text : String)
  | other (text : String)
  deriving DecidableEq, Repr

def IoError.text : IoError → String
  | .earlyEof => "early eof"
  | .noSuchFile => "No such file or directory (os error 2)"
  | .notADirectory => "Not a directory (os error 20)"
  | .isADirectory => "Is a directory (os error 21)"
  | .fileExists => "File exists (os error 17)"
  | .notEmpty => "Directory not empty (os error 39)"
  | .noDevice => "No such device (os error 19)"
  | .invalidArgument => "Invalid argument (os error 22)"
  | .permissionDenied => "Permission denied (os error 13)"
  | .nameTooLong => "File name too long (os error 36)"
  | .tooManyLinks => "Too many levels of symbolic links (os error 40)"
  | .argumentsTooLong => "Argument list too long (os error 7)"
  | .nulInName => "file name contained an unexpected NUL byte"
  | .nulInArgument => "nul byte found in provided data"
  | .addressInUse => "Address already in use (os error 98)"
  | .addressNotAvailable => "Cannot assign requested address (os error 99)"
  | .networkUnreachable => "Network is unreachable (os error 101)"
  | .invalidSocketAddress => "invalid socket address"
  | .invalidPort => "invalid port value"
  | .unknownHost => "failed to lookup address information: Name or service not known"
  | .timedOut text | .other text => text

end StorageBroker
