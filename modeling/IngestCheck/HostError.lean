namespace IngestCheck

inductive HostError where
  | os (number : Int)
  | nulByte
  | other (text : String)
  deriving DecidableEq, Repr

namespace HostError

/-- What the system says of an error number, by position. An empty text marks a number that it
does not use. -/
def descriptions : Array String :=
  #["Success", "Operation not permitted", "No such file or directory", "No such process",
    "Interrupted system call", "Input/output error", "No such device or address",
    "Argument list too long", "Exec format error", "Bad file descriptor", "No child processes",
    "Resource temporarily unavailable", "Cannot allocate memory", "Permission denied",
    "Bad address", "Block device required", "Device or resource busy", "File exists",
    "Invalid cross-device link", "No such device", "Not a directory", "Is a directory",
    "Invalid argument", "Too many open files in system", "Too many open files",
    "Inappropriate ioctl for device", "Text file busy", "File too large", "No space left on device",
    "Illegal seek", "Read-only file system", "Too many links", "Broken pipe",
    "Numerical argument out of domain", "Numerical result out of range",
    "Resource deadlock avoided", "File name too long", "No locks available",
    "Function not implemented", "Directory not empty", "Too many levels of symbolic links", "",
    "No message of desired type", "Identifier removed", "Channel number out of range",
    "Level 2 not synchronized", "Level 3 halted", "Level 3 reset", "Link number out of range",
    "Protocol driver not attached", "No CSI structure available", "Level 2 halted",
    "Invalid exchange", "Invalid request descriptor", "Exchange full", "No anode",
    "Invalid request code", "Invalid slot", "", "Bad font file format", "Device not a stream",
    "No data available", "Timer expired", "Out of streams resources",
    "Machine is not on the network", "Package not installed", "Object is remote",
    "Link has been severed", "Advertise error", "Srmount error", "Communication error on send",
    "Protocol error", "Multihop attempted", "RFS specific error", "Bad message",
    "Value too large for defined data type", "Name not unique on network",
    "File descriptor in bad state", "Remote address changed",
    "Can not access a needed shared library", "Accessing a corrupted shared library",
    ".lib section in a.out corrupted", "Attempting to link in too many shared libraries",
    "Cannot exec a shared library directly", "Invalid or incomplete multibyte or wide character",
    "Interrupted system call should be restarted", "Streams pipe error", "Too many users",
    "Socket operation on non-socket", "Destination address required", "Message too long",
    "Protocol wrong type for socket", "Protocol not available", "Protocol not supported",
    "Socket type not supported", "Operation not supported", "Protocol family not supported",
    "Address family not supported by protocol", "Address already in use",
    "Cannot assign requested address", "Network is down", "Network is unreachable",
    "Network dropped connection on reset", "Software caused connection abort",
    "Connection reset by peer", "No buffer space available",
    "Transport endpoint is already connected", "Transport endpoint is not connected",
    "Cannot send after transport endpoint shutdown", "Too many references: cannot splice",
    "Connection timed out", "Connection refused", "Host is down", "No route to host",
    "Operation already in progress", "Operation now in progress", "Stale file handle",
    "Structure needs cleaning", "Not a XENIX named type file", "No XENIX semaphores available",
    "Is a named type file", "Remote I/O error", "Disk quota exceeded", "No medium found",
    "Wrong medium type", "Operation canceled", "Required key not available", "Key has expired",
    "Key has been revoked", "Key was rejected by service", "Owner died", "State not recoverable",
    "Operation not possible due to RF-kill", "Memory page has hardware error"]

def describe (number : Int) : String :=
  match number with
  | .ofNat n => match descriptions[n]? with
    | some text => if text.isEmpty then s!"Unknown error {number}" else text
    | none => s!"Unknown error {number}"
  | .negSucc _ => s!"Unknown error {number}"

def message : HostError → String
  | .os number => s!"{describe number} (os error {number})"
  | .nulByte => "nul byte found in provided data"
  | .other text => text

inductive Kind where
  | notFound
  | permissionDenied
  | notADirectory
  | filesystemLoop
  | invalidFilename
  | invalidInput
  | argumentListTooLong
  | isADirectory
  | uncategorized
  deriving DecidableEq, Repr

def Kind.name : Kind → String
  | .notFound => "NotFound"
  | .permissionDenied => "PermissionDenied"
  | .notADirectory => "NotADirectory"
  | .filesystemLoop => "FilesystemLoop"
  | .invalidFilename => "InvalidFilename"
  | .invalidInput => "InvalidInput"
  | .argumentListTooLong => "ArgumentListTooLong"
  | .isADirectory => "IsADirectory"
  | .uncategorized => "Uncategorized"

def kind : HostError → Kind
  | .os number =>
    if number = 2 then .notFound
    else if number = 1 ∨ number = 13 then .permissionDenied
    else if number = 7 then .argumentListTooLong
    else if number = 20 then .notADirectory
    else if number = 21 then .isADirectory
    else if number = 22 then .invalidInput
    else if number = 36 then .invalidFilename
    else if number = 40 then .filesystemLoop
    else .uncategorized
  | .nulByte => .invalidInput
  | .other _ => .uncategorized

def notPermitted : HostError := .os 1
def noEntry : HostError := .os 2
def noProcess : HostError := .os 3
def formatError : HostError := .os 8
def badDescriptor : HostError := .os 9
def listTooLong : HostError := .os 7
def accessDenied : HostError := .os 13
def busy : HostError := .os 16
def alreadyThere : HostError := .os 17
def notDirectory : HostError := .os 20
def isDirectory : HostError := .os 21
def invalidArgument : HostError := .os 22
def textBusy : HostError := .os 26
def nameTooLong : HostError := .os 36
def notImplemented : HostError := .os 38
def notEmpty : HostError := .os 39
def linkLoop : HostError := .os 40

end HostError

end IngestCheck
