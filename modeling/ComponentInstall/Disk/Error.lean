/-!
# What a disk can answer instead

A refusal of the disk has a kind, which callers may test, and a wording, which they show. The
refusals that the disk finds by itself carry the number of the system's error; a refusal that is
arranged from outside has the bare wording of its kind, or a wording of its own.
-/

namespace ComponentInstall.Disk

/-- The kinds of refusals. -/
inductive IoKind
  | notFound
  | permissionDenied
  | alreadyExists
  | notADirectory
  | isADirectory
  | directoryNotEmpty
  | readOnlyFilesystem
  | storageFull
  | quotaExceeded
  | invalidFilename
  | invalidInput
  | invalidData
  | timedOut
  | writeZero
  | interrupted
  | unexpectedEof
  | outOfMemory
  | brokenPipe
  | resourceBusy
  | other
deriving DecidableEq, Repr

/-- The wording of a kind. -/
def IoKind.message : IoKind → String
  | .notFound => "entity not found"
  | .permissionDenied => "permission denied"
  | .alreadyExists => "entity already exists"
  | .notADirectory => "not a directory"
  | .isADirectory => "is a directory"
  | .directoryNotEmpty => "directory not empty"
  | .readOnlyFilesystem => "read-only filesystem or storage medium"
  | .storageFull => "no storage space"
  | .quotaExceeded => "quota exceeded"
  | .invalidFilename => "invalid filename"
  | .invalidInput => "invalid input parameter"
  | .invalidData => "invalid data"
  | .timedOut => "timed out"
  | .writeZero => "write zero"
  | .interrupted => "operation interrupted"
  | .unexpectedEof => "unexpected end of file"
  | .outOfMemory => "out of memory"
  | .brokenPipe => "broken pipe"
  | .resourceBusy => "resource busy"
  | .other => "other error"

/-- A refusal. -/
inductive IoError
  | missing
  | present
  | notFolder
  | isFolder
  | nameTooLong
  | nulInName
  | notText
  | bare (kind : IoKind)
  | worded (text : String)
deriving DecidableEq, Repr

namespace IoError

def kind : IoError → IoKind
  | .missing => .notFound
  | .present => .alreadyExists
  | .notFolder => .notADirectory
  | .isFolder => .isADirectory
  | .nameTooLong => .invalidFilename
  | .nulInName => .invalidInput
  | .notText => .invalidData
  | .bare kind => kind
  | .worded _ => .other

def message : IoError → String
  | .missing => "No such file or directory (os error 2)"
  | .present => "File exists (os error 17)"
  | .notFolder => "Not a directory (os error 20)"
  | .isFolder => "Is a directory (os error 21)"
  | .nameTooLong => "File name too long (os error 36)"
  | .nulInName => "file name contained an unexpected NUL byte"
  | .notText => "stream did not contain valid UTF-8"
  | .bare kind => kind.message
  | .worded text => text

end IoError

end ComponentInstall.Disk
