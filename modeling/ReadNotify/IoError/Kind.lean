/-!
# Kinds of Failures

The classes into which failures fall, whatever caused them. A kind has a name,
and a description that serves as the text of a failure of which nothing but
the kind is known.

## Main definitions

* `IoError.Kind`: The classes of failures.
* `IoError.Kind.name`, `IoError.Kind.ofName?`: Their names.
* `IoError.Kind.description`: The text of a failure that has only a kind.
-/

namespace ReadNotify

namespace IoError

/-- The classes of failures. -/
inductive Kind where
  | addrInUse
  | addrNotAvailable
  | alreadyExists
  | argumentListTooLong
  | brokenPipe
  | connectionAborted
  | connectionRefused
  | connectionReset
  | crossesDevices
  | deadlock
  | directoryNotEmpty
  | executableFileBusy
  | fileTooLarge
  | filesystemLoop
  | hostUnreachable
  | inProgress
  | inputOutputError
  | interrupted
  | invalidData
  | invalidFilename
  | invalidInput
  | isADirectory
  | networkDown
  | networkUnreachable
  | notADirectory
  | notConnected
  | notFound
  | notSeekable
  | other
  | outOfMemory
  | permissionDenied
  | quotaExceeded
  | readOnlyFilesystem
  | resourceBusy
  | staleNetworkFileHandle
  | storageFull
  | timedOut
  | tooManyLinks
  | tooManyOpenFiles
  | uncategorized
  | unexpectedEof
  | unsupported
  | wouldBlock
  | writeZero
  deriving DecidableEq, Repr

namespace Kind

/-- Every kind with its name and its description. -/
def table : List (Kind × String × String) :=
  [(.addrInUse, "AddrInUse", "address in use"),
   (.addrNotAvailable, "AddrNotAvailable", "address not available"),
   (.alreadyExists, "AlreadyExists", "entity already exists"),
   (.argumentListTooLong, "ArgumentListTooLong", "argument list too long"),
   (.brokenPipe, "BrokenPipe", "broken pipe"),
   (.connectionAborted, "ConnectionAborted", "connection aborted"),
   (.connectionRefused, "ConnectionRefused", "connection refused"),
   (.connectionReset, "ConnectionReset", "connection reset"),
   (.crossesDevices, "CrossesDevices", "cross-device link or rename"),
   (.deadlock, "Deadlock", "deadlock"),
   (.directoryNotEmpty, "DirectoryNotEmpty", "directory not empty"),
   (.executableFileBusy, "ExecutableFileBusy", "executable file busy"),
   (.fileTooLarge, "FileTooLarge", "file too large"),
   (.filesystemLoop, "FilesystemLoop",
     "filesystem loop or indirection limit (e.g. symlink loop)"),
   (.hostUnreachable, "HostUnreachable", "host unreachable"),
   (.inProgress, "InProgress", "in progress"),
   (.inputOutputError, "InputOutputError", "input/output error"),
   (.interrupted, "Interrupted", "operation interrupted"),
   (.invalidData, "InvalidData", "invalid data"),
   (.invalidFilename, "InvalidFilename", "invalid filename"),
   (.invalidInput, "InvalidInput", "invalid input parameter"),
   (.isADirectory, "IsADirectory", "is a directory"),
   (.networkDown, "NetworkDown", "network down"),
   (.networkUnreachable, "NetworkUnreachable", "network unreachable"),
   (.notADirectory, "NotADirectory", "not a directory"),
   (.notConnected, "NotConnected", "not connected"),
   (.notFound, "NotFound", "entity not found"),
   (.notSeekable, "NotSeekable", "seek on unseekable file"),
   (.other, "Other", "other error"),
   (.outOfMemory, "OutOfMemory", "out of memory"),
   (.permissionDenied, "PermissionDenied", "permission denied"),
   (.quotaExceeded, "QuotaExceeded", "quota exceeded"),
   (.readOnlyFilesystem, "ReadOnlyFilesystem", "read-only filesystem or storage medium"),
   (.resourceBusy, "ResourceBusy", "resource busy"),
   (.staleNetworkFileHandle, "StaleNetworkFileHandle", "stale network file handle"),
   (.storageFull, "StorageFull", "no storage space"),
   (.timedOut, "TimedOut", "timed out"),
   (.tooManyLinks, "TooManyLinks", "too many links"),
   (.tooManyOpenFiles, "TooManyOpenFiles", "too many open files"),
   (.uncategorized, "Uncategorized", "uncategorized error"),
   (.unexpectedEof, "UnexpectedEof", "unexpected end of file"),
   (.unsupported, "Unsupported", "unsupported"),
   (.wouldBlock, "WouldBlock", "operation would block"),
   (.writeZero, "WriteZero", "write zero")]

/-- The name of a kind. -/
def name (k : Kind) : String :=
  ((table.find? fun row => row.1 == k).map fun row => row.2.1).getD ""

/-- The fixed text of a failure that has only a kind. -/
def description (k : Kind) : String :=
  ((table.find? fun row => row.1 == k).map fun row => row.2.2).getD ""

/-- The kind of a name. -/
def ofName? (name : String) : Option Kind :=
  (table.find? fun row => row.2.1 == name).map fun row => row.1

end Kind

end IoError

end ReadNotify
