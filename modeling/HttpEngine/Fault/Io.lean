/-! Failures of input and output: their kinds, and the text that goes with each. -/

namespace HttpEngine

/-- The kinds of failure that the operating system reports. -/
inductive IoKind where
  | addrInUse
  | addrNotAvailable
  | alreadyExists
  | argumentListTooLong
  | brokenPipe
  | connectionAborted
  | connectionRefused
  | connectionReset
  | crossesDevices
  | deadlock
  | directoryNotEmpty
  | executableFileBusy
  | fileTooLarge
  | filesystemLoop
  | hostUnreachable
  | inProgress
  | interrupted
  | invalidData
  | invalidFilename
  | invalidInput
  | isADirectory
  | networkDown
  | networkUnreachable
  | notADirectory
  | notConnected
  | notFound
  | notSeekable
  | other
  | outOfMemory
  | permissionDenied
  | quotaExceeded
  | readOnlyFilesystem
  | resourceBusy
  | staleNetworkFileHandle
  | storageFull
  | timedOut
  | tooManyLinks
  | uncategorized
  | unexpectedEof
  | unsupported
  | wouldBlock
  | writeZero
  deriving DecidableEq, Repr, Inhabited

namespace IoKind

/-- Every kind, in alphabetical order. -/
def all : List IoKind :=
  [.addrInUse, .addrNotAvailable, .alreadyExists, .argumentListTooLong, .brokenPipe,
   .connectionAborted, .connectionRefused, .connectionReset, .crossesDevices, .deadlock,
   .directoryNotEmpty, .executableFileBusy, .fileTooLarge, .filesystemLoop, .hostUnreachable,
   .inProgress, .interrupted, .invalidData, .invalidFilename, .invalidInput, .isADirectory,
   .networkDown, .networkUnreachable, .notADirectory, .notConnected, .notFound, .notSeekable,
   .other, .outOfMemory, .permissionDenied, .quotaExceeded, .readOnlyFilesystem, .resourceBusy,
   .staleNetworkFileHandle, .storageFull, .timedOut, .tooManyLinks, .uncategorized,
   .unexpectedEof, .unsupported, .wouldBlock, .writeZero]

/-- The name that a kind goes by. -/
def name : IoKind → String
  | .addrInUse => "AddrInUse"
  | .addrNotAvailable => "AddrNotAvailable"
  | .alreadyExists => "AlreadyExists"
  | .argumentListTooLong => "ArgumentListTooLong"
  | .brokenPipe => "BrokenPipe"
  | .connectionAborted => "ConnectionAborted"
  | .connectionRefused => "ConnectionRefused"
  | .connectionReset => "ConnectionReset"
  | .crossesDevices => "CrossesDevices"
  | .deadlock => "Deadlock"
  | .directoryNotEmpty => "DirectoryNotEmpty"
  | .executableFileBusy => "ExecutableFileBusy"
  | .fileTooLarge => "FileTooLarge"
  | .filesystemLoop => "FilesystemLoop"
  | .hostUnreachable => "HostUnreachable"
  | .inProgress => "InProgress"
  | .interrupted => "Interrupted"
  | .invalidData => "InvalidData"
  | .invalidFilename => "InvalidFilename"
  | .invalidInput => "InvalidInput"
  | .isADirectory => "IsADirectory"
  | .networkDown => "NetworkDown"
  | .networkUnreachable => "NetworkUnreachable"
  | .notADirectory => "NotADirectory"
  | .notConnected => "NotConnected"
  | .notFound => "NotFound"
  | .notSeekable => "NotSeekable"
  | .other => "Other"
  | .outOfMemory => "OutOfMemory"
  | .permissionDenied => "PermissionDenied"
  | .quotaExceeded => "QuotaExceeded"
  | .readOnlyFilesystem => "ReadOnlyFilesystem"
  | .resourceBusy => "ResourceBusy"
  | .staleNetworkFileHandle => "StaleNetworkFileHandle"
  | .storageFull => "StorageFull"
  | .timedOut => "TimedOut"
  | .tooManyLinks => "TooManyLinks"
  | .uncategorized => "Uncategorized"
  | .unexpectedEof => "UnexpectedEof"
  | .unsupported => "Unsupported"
  | .wouldBlock => "WouldBlock"
  | .writeZero => "WriteZero"

/-- The words that describe a kind. -/
def description : IoKind → String
  | .addrInUse => "address in use"
  | .addrNotAvailable => "address not available"
  | .alreadyExists => "entity already exists"
  | .argumentListTooLong => "argument list too long"
  | .brokenPipe => "broken pipe"
  | .connectionAborted => "connection aborted"
  | .connectionRefused => "connection refused"
  | .connectionReset => "connection reset"
  | .crossesDevices => "cross-device link or rename"
  | .deadlock => "deadlock"
  | .directoryNotEmpty => "directory not empty"
  | .executableFileBusy => "executable file busy"
  | .fileTooLarge => "file too large"
  | .filesystemLoop => "filesystem loop or indirection limit (e.g. symlink loop)"
  | .hostUnreachable => "host unreachable"
  | .inProgress => "in progress"
  | .interrupted => "operation interrupted"
  | .invalidData => "invalid data"
  | .invalidFilename => "invalid filename"
  | .invalidInput => "invalid input parameter"
  | .isADirectory => "is a directory"
  | .networkDown => "network down"
  | .networkUnreachable => "network unreachable"
  | .notADirectory => "not a directory"
  | .notConnected => "not connected"
  | .notFound => "entity not found"
  | .notSeekable => "seek on unseekable file"
  | .other => "other error"
  | .outOfMemory => "out of memory"
  | .permissionDenied => "permission denied"
  | .quotaExceeded => "quota exceeded"
  | .readOnlyFilesystem => "read-only filesystem or storage medium"
  | .resourceBusy => "resource busy"
  | .staleNetworkFileHandle => "stale network file handle"
  | .storageFull => "no storage space"
  | .timedOut => "timed out"
  | .tooManyLinks => "too many links"
  | .uncategorized => "uncategorized error"
  | .unexpectedEof => "unexpected end of file"
  | .unsupported => "unsupported"
  | .wouldBlock => "operation would block"
  | .writeZero => "write zero"

/-- The kind that goes by a name. -/
def ofName? (name : String) : Option IoKind :=
  all.find? fun kind => kind.name == name

/-- Every kind is found under its own name. -/
theorem ofName?_name (kind : IoKind) : ofName? kind.name = some kind := by
  cases kind <;> decide +kernel

end IoKind

/-- One failure of input or output: its kind, and what is said about it. -/
structure IoError where
  kind : IoKind
  text : String
  deriving DecidableEq, Repr, Inhabited

namespace IoError

/-- A failure about which nothing is known but its kind. -/
def ofKind (kind : IoKind) : IoError := ⟨kind, kind.description⟩

/-- A failure with the number under which the system reports it. -/
def ofSystem (kind : IoKind) (words : String) (number : Nat) : IoError :=
  ⟨kind, s!"{words} (os error {number})"⟩

/-- Nobody listens at the address. -/
def connectionRefused : IoError := ofSystem .connectionRefused "Connection refused" 111

/-- No route leads to the address. -/
def networkUnreachable : IoError := ofSystem .networkUnreachable "Network is unreachable" 101

/-- Another listener holds the address. -/
def addrInUse : IoError := ofSystem .addrInUse "Address already in use" 98

/-- The address cannot be used in this way. -/
def invalidArgument : IoError := ofSystem .invalidInput "Invalid argument" 22

/-- No interface has the number. -/
def noSuchDevice : IoError := ofSystem .uncategorized "No such device" 19

/-- The address does not belong to this machine. -/
def addrNotAvailable : IoError :=
  ofSystem .addrNotAvailable "Cannot assign requested address" 99

/-- The peer closed the connection before a whole response was there. -/
def closedEarly : IoError :=
  ⟨.unexpectedEof, "connection closed before a response arrived"⟩

end IoError

end HttpEngine
