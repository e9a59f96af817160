import Overseer.Text.Decimal

/-!
# Errors of the operating system

## Main definitions

* `Errno` — the error numbers that the host of this library reports
* `OsError` — an error number, a text that cannot be handed to the system, or some other cause
* `OsError.message` — the text of an error
* `OsError.kind` — the coarse kind of an error, on which callers decide
-/

namespace Overseer.Os

open Overseer.Text

/-- The error numbers that the host of this library reports. -/
inductive Errno where
  | notPermitted | noEntry | noProcess | interrupted | ioError | noDevice | tooBig
  | notExecutable
  | badDescriptor | noChild | again | denied | alreadyThere | notDirectory | isDirectory
  | invalidArgument | notTerminal | noSpace | illegalSeek | brokenPipe | nameTooLong | notEmpty
  | linkLoop
  deriving DecidableEq, Repr, Inhabited

/-- The number of an error. -/
def Errno.number : Errno → Int
  | notPermitted => 1 | noEntry => 2 | noProcess => 3 | interrupted => 4 | ioError => 5
  | noDevice => 6 | tooBig => 7 | notExecutable => 8 | badDescriptor => 9 | noChild => 10
  | again => 11
  | denied => 13 | alreadyThere => 17 | notDirectory => 20 | isDirectory => 21
  | invalidArgument => 22 | notTerminal => 25 | noSpace => 28
  | illegalSeek => 29 | brokenPipe => 32 | nameTooLong => 36
  | notEmpty => 39 | linkLoop => 40

/-- What the system says to the error numbers from 0 on; nothing for the numbers that it skips. -/
def errnoTexts : List String := [
  "Success", "Operation not permitted", "No such file or directory", "No such process",
  "Interrupted system call", "Input/output error", "No such device or address",
  "Argument list too long", "Exec format error", "Bad file descriptor", "No child processes",
  "Resource temporarily unavailable", "Cannot allocate memory", "Permission denied",
  "Bad address", "Block device required", "Device or resource busy", "File exists",
  "Invalid cross-device link", "No such device", "Not a directory", "Is a directory",
  "Invalid argument", "Too many open files in system", "Too many open files",
  "Inappropriate ioctl for device", "Text file busy", "File too large", "No space left on device",
  "Illegal seek", "Read-only file system", "Too many links", "Broken pipe",
  "Numerical argument out of domain", "Numerical result out of range",
  "Resource deadlock avoided", "File name too long", "No locks available",
  "Function not implemented", "Directory not empty", "Too many levels of symbolic links", "",
  "No message of desired type", "Identifier removed", "Channel number out of range",
  "Level 2 not synchronized", "Level 3 halted", "Level 3 reset", "Link number out of range",
  "Protocol driver not attached", "No CSI structure available", "Level 2 halted",
  "Invalid exchange", "Invalid request descriptor", "Exchange full", "No anode",
  "Invalid request code", "Invalid slot", "", "Bad font file format", "Device not a stream",
  "No data available", "Timer expired", "Out of streams resources",
  "Machine is not on the network", "Package not installed", "Object is remote",
  "Link has been severed", "Advertise error", "Srmount error", "Communication error on send",
  "Protocol error", "Multihop attempted", "RFS specific error", "Bad message",
  "Value too large for defined data type", "Name not unique on network",
  "File descriptor in bad state", "Remote address changed",
  "Can not access a needed shared library", "Accessing a corrupted shared library",
  ".lib section in a.out corrupted", "Attempting to link in too many shared libraries",
  "Cannot exec a shared library directly", "Invalid or incomplete multibyte or wide character",
  "Interrupted system call should be restarted", "Streams pipe error", "Too many users",
  "Socket operation on non-socket", "Destination address required", "Message too long",
  "Protocol wrong type for socket", "Protocol not available", "Protocol not supported",
  "Socket type not supported", "Operation not supported", "Protocol family not supported",
  "Address family not supported by protocol", "Address already in use",
  "Cannot assign requested address", "Network is down", "Network is unreachable",
  "Network dropped connection on reset", "Software caused connection abort",
  "Connection reset by peer", "No buffer space available",
  "Transport endpoint is already connected", "Transport endpoint is not connected",
  "Cannot send after transport endpoint shutdown", "Too many references: cannot splice",
  "Connection timed out", "Connection refused", "Host is down", "No route to host",
  "Operation already in progress", "Operation now in progress", "Stale file handle",
  "Structure needs cleaning", "Not a XENIX named type file", "No XENIX semaphores available",
  "Is a named type file", "Remote I/O error", "Disk quota exceeded", "No medium found",
  "Wrong medium type", "Operation canceled", "Required key not available", "Key has expired",
  "Key has been revoked", "Key was rejected by service", "Owner died", "State not recoverable",
  "Operation not possible due to RF-kill", "Memory page has hardware error"]

/-- What the system says to an error number. -/
def errnoText (n : Int) : String :=
  match errnoTexts[n.toNat]? with
  | some text =>
    if n < 0 ∨ text = "" then "Unknown error " ++ integerText n else text
  | none => "Unknown error " ++ integerText n

/-- The words of an error without its number. -/
def Errno.text (e : Errno) : String := errnoText e.number

/-- Why the system could not do something. -/
inductive OsError where
  /-- the system refused, with this number -/
  | code (number : Int)
  /-- a text for the system holds a zero byte -/
  | zeroByte
  /-- another cause, in words -/
  | other (text : String)
  deriving DecidableEq, Repr, Inhabited

/-- Coarse kinds of errors. -/
inductive ErrorKind where
  | notFound | permissionDenied | alreadyExists | notADirectory | isADirectory | directoryNotEmpty
  | invalidInput | invalidFilename | filesystemLoop | other
  deriving DecidableEq, Repr, Inhabited

namespace OsError

/-- The error of a number that the host reports. -/
def ofErrno (e : Errno) : OsError := .code e.number

/-- The text of an error. -/
def message : OsError → String
  | code n => errnoText n ++ " (os error " ++ integerText n ++ ")"
  | zeroByte => "nul byte found in provided data"
  | other text => text

/-- The kind of an error. -/
def kind : OsError → ErrorKind
  | code 1 | code 13 => .permissionDenied
  | code 2 => .notFound
  | code 17 => .alreadyExists
  | code 20 => .notADirectory
  | code 21 => .isADirectory
  | code 22 => .invalidInput
  | code 36 => .invalidFilename
  | code 39 => .directoryNotEmpty
  | code 40 => .filesystemLoop
  | code _ => .other
  | zeroByte => .invalidInput
  | other _ => .other

end OsError

end Overseer.Os
