/-!
# Numbers of system errors

File operations fail with a number and a text that goes with it.  The table holds the texts of the
numbers from 1 on.
-/

namespace DeckPress

/-- The number of a system error. -/
structure Errno where
  code : Int
deriving DecidableEq, Repr

namespace Errno

/-- The texts of the numbers from 1 on. -/
def texts : Array String := #[
  "Operation not permitted", "No such file or directory", "No such process",
  "Interrupted system call", "Input/output error", "No such device or address",
  "Argument list too long", "Exec format error", "Bad file descriptor", "No child processes",
  "Resource temporarily unavailable", "Cannot allocate memory", "Permission denied", "Bad address",
  "Block device required", "Device or resource busy", "File exists", "Invalid cross-device link",
  "No such device", "Not a directory", "Is a directory", "Invalid argument",
  "Too many open files in system", "Too many open files", "Inappropriate ioctl for device",
  "Text file busy", "File too large", "No space left on device", "Illegal seek",
  "Read-only file system", "Too many links", "Broken pipe", "Numerical argument out of domain",
  "Numerical result out of range", "Resource deadlock avoided", "File name too long",
  "No locks available", "Function not implemented", "Directory not empty",
  "Too many levels of symbolic links", "Unknown error 41", "No message of desired type",
  "Identifier removed", "Channel number out of range", "Level 2 not synchronized",
  "Level 3 halted", "Level 3 reset", "Link number out of range", "Protocol driver not attached",
  "No CSI structure available", "Level 2 halted", "Invalid exchange", "Invalid request descriptor",
  "Exchange full", "No anode", "Invalid request code", "Invalid slot", "Unknown error 58",
  "Bad font file format", "Device not a stream", "No data available", "Timer expired",
  "Out of streams resources", "Machine is not on the network", "Package not installed",
  "Object is remote", "Link has been severed", "Advertise error", "Srmount error",
  "Communication error on send", "Protocol error", "Multihop attempted", "RFS specific error",
  "Bad message", "Value too large for defined data type", "Name not unique on network",
  "File descriptor in bad state", "Remote address changed",
  "Can not access a needed shared library", "Accessing a corrupted shared library",
  ".lib section in a.out corrupted", "Attempting to link in too many shared libraries",
  "Cannot exec a shared library directly", "Invalid or incomplete multibyte or wide character",
  "Interrupted system call should be restarted", "Streams pipe error", "Too many users",
  "Socket operation on non-socket", "Destination address required", "Message too long",
  "Protocol wrong type for socket", "Protocol not available", "Protocol not supported",
  "Socket type not supported", "Operation not supported", "Protocol family not supported",
  "Address family not supported by protocol", "Address already in use",
  "Cannot assign requested address", "Network is down", "Network is unreachable",
  "Network dropped connection on reset", "Software caused connection abort",
  "Connection reset by peer", "No buffer space available",
  "Transport endpoint is already connected", "Transport endpoint is not connected",
  "Cannot send after transport endpoint shutdown", "Too many references: cannot splice",
  "Connection timed out", "Connection refused", "Host is down", "No route to host",
  "Operation already in progress", "Operation now in progress", "Stale file handle",
  "Structure needs cleaning", "Not a XENIX named type file", "No XENIX semaphores available",
  "Is a named type file", "Remote I/O error", "Disk quota exceeded", "No medium found",
  "Wrong medium type", "Operation canceled", "Required key not available", "Key has expired",
  "Key has been revoked", "Key was rejected by service", "Owner died", "State not recoverable",
  "Operation not possible due to RF-kill", "Memory page has hardware error"]

/-- The text of a number. -/
def text (e : Errno) : String :=
  if e.code = 0 then "Success"
  else if 0 < e.code then (texts[e.code.toNat - 1]?).getD s!"Unknown error {e.code}"
  else s!"Unknown error {e.code}"

/-- There is no such file or directory. -/
def noEntry : Errno := ⟨2⟩

/-- What is asked for is not open. -/
def badDescriptor : Errno := ⟨9⟩

/-- The place is in use. -/
def busy : Errno := ⟨16⟩

/-- The file exists already. -/
def alreadyThere : Errno := ⟨17⟩

/-- What should be a directory is a file. -/
def notADirectory : Errno := ⟨20⟩

/-- What should be a file is a directory. -/
def isADirectory : Errno := ⟨21⟩

/-- The arguments make no sense together. -/
def invalid : Errno := ⟨22⟩

/-- A name is too long. -/
def nameTooLong : Errno := ⟨36⟩

/-- The directory holds entries. -/
def notEmpty : Errno := ⟨39⟩

/-- Links lead to one another without end. -/
def tooManyLinks : Errno := ⟨40⟩

/-- Whether an error at a look for a path means that nothing is there. -/
def isAbsence (e : Errno) : Bool :=
  e = noEntry || e = notADirectory || e = badDescriptor || e = tooManyLinks

end Errno

end DeckPress
