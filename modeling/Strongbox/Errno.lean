/-!
# Error numbers

The host and the store report failures by POSIX error number.  An `Errno` is such a number, and a
number that no known error carries is `Errno.unknown`, so that every value has a symbol and a
description.

* `Errno.ofCode` recognises a number, `Errno.symbol` and `Errno.description` name it.
* `Errno.systemText` is the wording of the host's C library, which differs for a few numbers.
* `Errno.kind` sorts an error number into the coarse classes `IoKind` that stream errors carry.
-/

namespace Strongbox

/-- The coarse classes of input and output failures. -/
inductive IoKind where
  | addrInUse
  | addrNotAvailable
  | alreadyExists
  | argumentListTooLong
  | brokenPipe
  | connectionAborted
  | connectionRefused
  | connectionReset
  | crossesDevices
  | deadlock
  | directoryNotEmpty
  | executableFileBusy
  | fileTooLarge
  | filesystemLoop
  | hostUnreachable
  | inProgress
  | inputOutputError
  | interrupted
  | invalidData
  | invalidFilename
  | invalidInput
  | isADirectory
  | networkDown
  | networkUnreachable
  | notADirectory
  | notConnected
  | notFound
  | notSeekable
  | outOfMemory
  | permissionDenied
  | quotaExceeded
  | readOnlyFilesystem
  | resourceBusy
  | staleNetworkFileHandle
  | storageFull
  | timedOut
  | tooManyLinks
  | tooManyOpenFiles
  | uncategorized
  | unsupported
  | wouldBlock
  | writeZero
  deriving DecidableEq, Repr

/-- The printed name of a class. -/
def IoKind.name : IoKind → String
  | .addrInUse => "AddrInUse"
  | .addrNotAvailable => "AddrNotAvailable"
  | .alreadyExists => "AlreadyExists"
  | .argumentListTooLong => "ArgumentListTooLong"
  | .brokenPipe => "BrokenPipe"
  | .connectionAborted => "ConnectionAborted"
  | .connectionRefused => "ConnectionRefused"
  | .connectionReset => "ConnectionReset"
  | .crossesDevices => "CrossesDevices"
  | .deadlock => "Deadlock"
  | .directoryNotEmpty => "DirectoryNotEmpty"
  | .executableFileBusy => "ExecutableFileBusy"
  | .fileTooLarge => "FileTooLarge"
  | .filesystemLoop => "FilesystemLoop"
  | .hostUnreachable => "HostUnreachable"
  | .inProgress => "InProgress"
  | .inputOutputError => "InputOutputError"
  | .interrupted => "Interrupted"
  | .invalidData => "InvalidData"
  | .invalidFilename => "InvalidFilename"
  | .invalidInput => "InvalidInput"
  | .isADirectory => "IsADirectory"
  | .networkDown => "NetworkDown"
  | .networkUnreachable => "NetworkUnreachable"
  | .notADirectory => "NotADirectory"
  | .notConnected => "NotConnected"
  | .notFound => "NotFound"
  | .notSeekable => "NotSeekable"
  | .outOfMemory => "OutOfMemory"
  | .permissionDenied => "PermissionDenied"
  | .quotaExceeded => "QuotaExceeded"
  | .readOnlyFilesystem => "ReadOnlyFilesystem"
  | .resourceBusy => "ResourceBusy"
  | .staleNetworkFileHandle => "StaleNetworkFileHandle"
  | .storageFull => "StorageFull"
  | .timedOut => "TimedOut"
  | .tooManyLinks => "TooManyLinks"
  | .tooManyOpenFiles => "TooManyOpenFiles"
  | .uncategorized => "Uncategorized"
  | .unsupported => "Unsupported"
  | .wouldBlock => "WouldBlock"
  | .writeZero => "WriteZero"

/-- A POSIX error number.  `unknown`, with number zero, stands for every unlisted one. -/
structure Errno where
  number : Nat
  deriving DecidableEq, Repr

namespace Errno

/-! ## The numbers the store itself raises -/

def unknown : Errno := ⟨0⟩
def notPermitted : Errno := ⟨1⟩
def noEntry : Errno := ⟨2⟩
def ioFailure : Errno := ⟨5⟩
def noDevice : Errno := ⟨6⟩
def badDescriptor : Errno := ⟨9⟩
def accessDenied : Errno := ⟨13⟩
def busy : Errno := ⟨16⟩
def alreadyExists : Errno := ⟨17⟩
def notDirectory : Errno := ⟨20⟩
def isDirectory : Errno := ⟨21⟩
def invalid : Errno := ⟨22⟩
def tooBig : Errno := ⟨27⟩
def nameTooLong : Errno := ⟨36⟩
def notSupported : Errno := ⟨38⟩
def notEmpty : Errno := ⟨39⟩

/-! ## The table -/

/-- What is known of one error number. -/
structure Entry where
  number : Nat
  symbol : String
  description : String
  kind : IoKind

/-- Every error number of the platform, in increasing order. -/
def table : List Entry := [
  ⟨1, "EPERM", "Operation not permitted", .permissionDenied⟩,
  ⟨2, "ENOENT", "No such file or directory", .notFound⟩,
  ⟨3, "ESRCH", "No such process", .uncategorized⟩,
  ⟨4, "EINTR", "Interrupted system call", .interrupted⟩,
  ⟨5, "EIO", "I/O error", .inputOutputError⟩,
  ⟨6, "ENXIO", "No such device or address", .uncategorized⟩,
  ⟨7, "E2BIG", "Argument list too long", .argumentListTooLong⟩,
  ⟨8, "ENOEXEC", "Exec format error", .uncategorized⟩,
  ⟨9, "EBADF", "Bad file number", .uncategorized⟩,
  ⟨10, "ECHILD", "No child processes", .uncategorized⟩,
  ⟨11, "EAGAIN", "Try again", .wouldBlock⟩,
  ⟨12, "ENOMEM", "Out of memory", .outOfMemory⟩,
  ⟨13, "EACCES", "Permission denied", .permissionDenied⟩,
  ⟨14, "EFAULT", "Bad address", .uncategorized⟩,
  ⟨15, "ENOTBLK", "Block device required", .uncategorized⟩,
  ⟨16, "EBUSY", "Device or resource busy", .resourceBusy⟩,
  ⟨17, "EEXIST", "File exists", .alreadyExists⟩,
  ⟨18, "EXDEV", "Cross-device link", .crossesDevices⟩,
  ⟨19, "ENODEV", "No such device", .uncategorized⟩,
  ⟨20, "ENOTDIR", "Not a directory", .notADirectory⟩,
  ⟨21, "EISDIR", "Is a directory", .isADirectory⟩,
  ⟨22, "EINVAL", "Invalid argument", .invalidInput⟩,
  ⟨23, "ENFILE", "File table overflow", .tooManyOpenFiles⟩,
  ⟨24, "EMFILE", "Too many open files", .tooManyOpenFiles⟩,
  ⟨25, "ENOTTY", "Not a typewriter", .uncategorized⟩,
  ⟨26, "ETXTBSY", "Text file busy", .executableFileBusy⟩,
  ⟨27, "EFBIG", "File too large", .fileTooLarge⟩,
  ⟨28, "ENOSPC", "No space left on device", .storageFull⟩,
  ⟨29, "ESPIPE", "Illegal seek", .notSeekable⟩,
  ⟨30, "EROFS", "Read-only file system", .readOnlyFilesystem⟩,
  ⟨31, "EMLINK", "Too many links", .tooManyLinks⟩,
  ⟨32, "EPIPE", "Broken pipe", .brokenPipe⟩,
  ⟨33, "EDOM", "Math argument out of domain of func", .uncategorized⟩,
  ⟨34, "ERANGE", "Math result not representable", .uncategorized⟩,
  ⟨35, "EDEADLK", "Resource deadlock would occur", .deadlock⟩,
  ⟨36, "ENAMETOOLONG", "File name too long", .invalidFilename⟩,
  ⟨37, "ENOLCK", "No record locks available", .uncategorized⟩,
  ⟨38, "ENOSYS", "Function not implemented", .unsupported⟩,
  ⟨39, "ENOTEMPTY", "Directory not empty", .directoryNotEmpty⟩,
  ⟨40, "ELOOP", "Too many symbolic links encountered", .filesystemLoop⟩,
  ⟨42, "ENOMSG", "No message of desired type", .uncategorized⟩,
  ⟨43, "EIDRM", "Identifier removed", .uncategorized⟩,
  ⟨44, "ECHRNG", "Channel number out of range", .uncategorized⟩,
  ⟨45, "EL2NSYNC", "Level 2 not synchronized", .uncategorized⟩,
  ⟨46, "EL3HLT", "Level 3 halted", .uncategorized⟩,
  ⟨47, "EL3RST", "Level 3 reset", .uncategorized⟩,
  ⟨48, "ELNRNG", "Link number out of range", .uncategorized⟩,
  ⟨49, "EUNATCH", "Protocol driver not attached", .uncategorized⟩,
  ⟨50, "ENOCSI", "No CSI structure available", .uncategorized⟩,
  ⟨51, "EL2HLT", "Level 2 halted", .uncategorized⟩,
  ⟨52, "EBADE", "Invalid exchange", .uncategorized⟩,
  ⟨53, "EBADR", "Invalid request descriptor", .uncategorized⟩,
  ⟨54, "EXFULL", "Exchange full", .uncategorized⟩,
  ⟨55, "ENOANO", "No anode", .uncategorized⟩,
  ⟨56, "EBADRQC", "Invalid request code", .uncategorized⟩,
  ⟨57, "EBADSLT", "Invalid slot", .uncategorized⟩,
  ⟨59, "EBFONT", "Bad font file format", .uncategorized⟩,
  ⟨60, "ENOSTR", "Device not a stream", .uncategorized⟩,
  ⟨61, "ENODATA", "No data available", .uncategorized⟩,
  ⟨62, "ETIME", "Timer expired", .uncategorized⟩,
  ⟨63, "ENOSR", "Out of streams resources", .uncategorized⟩,
  ⟨64, "ENONET", "Machine is not on the network", .uncategorized⟩,
  ⟨65, "ENOPKG", "Package not installed", .uncategorized⟩,
  ⟨66, "EREMOTE", "Object is remote", .uncategorized⟩,
  ⟨67, "ENOLINK", "Link has been severed", .uncategorized⟩,
  ⟨68, "EADV", "Advertise error", .uncategorized⟩,
  ⟨69, "ESRMNT", "Srmount error", .uncategorized⟩,
  ⟨70, "ECOMM", "Communication error on send", .uncategorized⟩,
  ⟨71, "EPROTO", "Protocol error", .uncategorized⟩,
  ⟨72, "EMULTIHOP", "Multihop attempted", .uncategorized⟩,
  ⟨73, "EDOTDOT", "RFS specific error", .uncategorized⟩,
  ⟨74, "EBADMSG", "Not a data message", .uncategorized⟩,
  ⟨75, "EOVERFLOW", "Value too large for defined data type", .uncategorized⟩,
  ⟨76, "ENOTUNIQ", "Name not unique on network", .uncategorized⟩,
  ⟨77, "EBADFD", "File descriptor in bad state", .uncategorized⟩,
  ⟨78, "EREMCHG", "Remote address changed", .uncategorized⟩,
  ⟨79, "ELIBACC", "Can not access a needed shared library", .uncategorized⟩,
  ⟨80, "ELIBBAD", "Accessing a corrupted shared library", .uncategorized⟩,
  ⟨81, "ELIBSCN", ".lib section in a.out corrupted", .uncategorized⟩,
  ⟨82, "ELIBMAX", "Attempting to link in too many shared libraries", .uncategorized⟩,
  ⟨83, "ELIBEXEC", "Cannot exec a shared library directly", .uncategorized⟩,
  ⟨84, "EILSEQ", "Illegal byte sequence", .uncategorized⟩,
  ⟨85, "ERESTART", "Interrupted system call should be restarted", .uncategorized⟩,
  ⟨86, "ESTRPIPE", "Streams pipe error", .uncategorized⟩,
  ⟨87, "EUSERS", "Too many users", .uncategorized⟩,
  ⟨88, "ENOTSOCK", "Socket operation on non-socket", .uncategorized⟩,
  ⟨89, "EDESTADDRREQ", "Destination address required", .uncategorized⟩,
  ⟨90, "EMSGSIZE", "Message too long", .uncategorized⟩,
  ⟨91, "EPROTOTYPE", "Protocol wrong type for socket", .uncategorized⟩,
  ⟨92, "ENOPROTOOPT", "Protocol not available", .uncategorized⟩,
  ⟨93, "EPROTONOSUPPORT", "Protocol not supported", .uncategorized⟩,
  ⟨94, "ESOCKTNOSUPPORT", "Socket type not supported", .uncategorized⟩,
  ⟨95, "EOPNOTSUPP", "Operation not supported on transport endpoint", .unsupported⟩,
  ⟨96, "EPFNOSUPPORT", "Protocol family not supported", .uncategorized⟩,
  ⟨97, "EAFNOSUPPORT", "Address family not supported by protocol", .uncategorized⟩,
  ⟨98, "EADDRINUSE", "Address already in use", .addrInUse⟩,
  ⟨99, "EADDRNOTAVAIL", "Cannot assign requested address", .addrNotAvailable⟩,
  ⟨100, "ENETDOWN", "Network is down", .networkDown⟩,
  ⟨101, "ENETUNREACH", "Network is unreachable", .networkUnreachable⟩,
  ⟨102, "ENETRESET", "Network dropped connection because of reset", .uncategorized⟩,
  ⟨103, "ECONNABORTED", "Software caused connection abort", .connectionAborted⟩,
  ⟨104, "ECONNRESET", "Connection reset by peer", .connectionReset⟩,
  ⟨105, "ENOBUFS", "No buffer space available", .uncategorized⟩,
  ⟨106, "EISCONN", "Transport endpoint is already connected", .uncategorized⟩,
  ⟨107, "ENOTCONN", "Transport endpoint is not connected", .notConnected⟩,
  ⟨108, "ESHUTDOWN", "Cannot send after transport endpoint shutdown", .uncategorized⟩,
  ⟨109, "ETOOMANYREFS", "Too many references: cannot splice", .uncategorized⟩,
  ⟨110, "ETIMEDOUT", "Connection timed out", .timedOut⟩,
  ⟨111, "ECONNREFUSED", "Connection refused", .connectionRefused⟩,
  ⟨112, "EHOSTDOWN", "Host is down", .uncategorized⟩,
  ⟨113, "EHOSTUNREACH", "No route to host", .hostUnreachable⟩,
  ⟨114, "EALREADY", "Operation already in progress", .uncategorized⟩,
  ⟨115, "EINPROGRESS", "Operation now in progress", .inProgress⟩,
  ⟨116, "ESTALE", "Stale file handle", .staleNetworkFileHandle⟩,
  ⟨117, "EUCLEAN", "Structure needs cleaning", .uncategorized⟩,
  ⟨118, "ENOTNAM", "Not a XENIX named type file", .uncategorized⟩,
  ⟨119, "ENAVAIL", "No XENIX semaphores available", .uncategorized⟩,
  ⟨120, "EISNAM", "Is a named type file", .uncategorized⟩,
  ⟨121, "EREMOTEIO", "Remote I/O error", .uncategorized⟩,
  ⟨122, "EDQUOT", "Quota exceeded", .quotaExceeded⟩,
  ⟨123, "ENOMEDIUM", "No medium found", .uncategorized⟩,
  ⟨124, "EMEDIUMTYPE", "Wrong medium type", .uncategorized⟩,
  ⟨125, "ECANCELED", "Operation canceled", .uncategorized⟩,
  ⟨126, "ENOKEY", "Required key not available", .uncategorized⟩,
  ⟨127, "EKEYEXPIRED", "Key has expired", .uncategorized⟩,
  ⟨128, "EKEYREVOKED", "Key has been revoked", .uncategorized⟩,
  ⟨129, "EKEYREJECTED", "Key was rejected by service", .uncategorized⟩,
  ⟨130, "EOWNERDEAD", "Owner died", .uncategorized⟩,
  ⟨131, "ENOTRECOVERABLE", "State not recoverable", .uncategorized⟩,
  ⟨132, "ERFKILL", "Operation not possible due to RF-kill", .uncategorized⟩,
  ⟨133, "EHWPOISON", "Memory page has hardware error", .uncategorized⟩]

/-- The numbers that the host's C library words otherwise than `table` does. -/
def systemWording : List (Nat × String) := [
  (5, "Input/output error"),
  (9, "Bad file descriptor"),
  (11, "Resource temporarily unavailable"),
  (12, "Cannot allocate memory"),
  (18, "Invalid cross-device link"),
  (23, "Too many open files in system"),
  (25, "Inappropriate ioctl for device"),
  (33, "Numerical argument out of domain"),
  (34, "Numerical result out of range"),
  (35, "Resource deadlock avoided"),
  (37, "No locks available"),
  (40, "Too many levels of symbolic links"),
  (74, "Bad message"),
  (84, "Invalid or incomplete multibyte or wide character"),
  (95, "Operation not supported"),
  (102, "Network dropped connection on reset"),
  (122, "Disk quota exceeded")]

/-- The table's entry for an error number, absent for `unknown`. -/
def entry? (e : Errno) : Option Entry :=
  table.find? (·.number == e.number)

/-- The error with a given number, `unknown` unless the table lists it. -/
def ofNat (n : Nat) : Errno :=
  if table.any (·.number == n) then ⟨n⟩ else unknown

/-- The error with a given signed code.  Codes are 32 bits wide: a wider one loses its upper bits,
and no negative code is listed. -/
def ofCode (code : Int) : Errno :=
  let word := code.bmod UInt32.size
  if word < 0 then unknown else ofNat word.toNat

/-- The symbol of an error, such as `ENOENT`. -/
def symbol (e : Errno) : String :=
  (e.entry?.map (·.symbol)).getD "UnknownErrno"

/-- The short description of an error. -/
def description (e : Errno) : String :=
  (e.entry?.map (·.description)).getD "Unknown errno"

/-- Symbol and description together. -/
def message (e : Errno) : String :=
  s!"{e.symbol}: {e.description}"

/-- The host's own wording of an error; number zero is no failure at all. -/
def systemText (e : Errno) : String :=
  if e.number = 0 then "Success"
  else match systemWording.lookup e.number with
    | some text => text
    | none => e.description

/-- The class of an error. -/
def kind (e : Errno) : IoKind :=
  (e.entry?.map (·.kind)).getD .uncategorized

end Errno

end Strongbox
