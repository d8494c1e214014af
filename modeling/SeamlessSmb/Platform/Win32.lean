/-
# `Win32` — the Windows API as the callbacks see it

Names and values are those of the Windows headers.  A call of the API either
succeeds, with a value and some last error, or fails with a nonzero one
(`Outcome`); which of the two happens is up to the platform, so nothing below
says what a call does.  A handle that an open call delivers is neither `NULL`
nor `INVALID_HANDLE_VALUE` (`OpenHandle`), and a security descriptor has a
length (`SecurityDescriptor`): the callbacks compare against exactly these
special values.

Security descriptors are self-relative throughout.  The driver hands them over
in that form, and so do `SetPrivateObjectSecurity` and
`CreateDefaultSelfRelativeSD`.
-/
import SeamlessSmb.Platform.Crt

namespace SeamlessSmb

/-! ## Words -/

abbrev NTSTATUS := BitVec 32
abbrev HANDLE := BitVec 64
abbrev Byte := BitVec 8

def INVALID_HANDLE_VALUE : HANDLE := BitVec.allOnes 64

/-- What `CreateFile` returns when it succeeds. -/
abbrev OpenHandle := { h : HANDLE // h ≠ 0 ∧ h ≠ INVALID_HANDLE_VALUE }

/-- An error code a failing call leaves. -/
abbrev Win32Error := { e : DWORD // e ≠ 0 }

def INVALID_FILE_ATTRIBUTES : DWORD := 0xFFFFFFFF

/-- What `GetFileAttributes` returns when it succeeds. -/
abbrev Attributes := { a : DWORD // a ≠ INVALID_FILE_ATTRIBUTES }

/-- A self-relative security descriptor: its bytes, as many as an `unsigned long`
counts. -/
structure SecurityDescriptor where
  bytes : List Byte
  nonempty : bytes ≠ []
  fits : bytes.length < 0x100000000
  deriving DecidableEq

/-- How a call of the API comes out. -/
inductive Outcome (α : Type)
  | ok (value : α) (lastError : DWORD)
  | fail (error : Win32Error)
  deriving DecidableEq

namespace Outcome

variable {α : Type}

/-- `GetLastError()` right after the call. -/
def lastError : Outcome α → DWORD
  | .ok _ e => e
  | .fail e => e

def toOption : Outcome α → Option α
  | .ok v _ => some v
  | .fail _ => none

/-- The `BOOL` the call returns. -/
def succeeded : Outcome α → Bool
  | .ok _ _ => true
  | .fail _ => false

end Outcome

/-! ## Error codes -/

def ERROR_SUCCESS : DWORD := 0
def ERROR_NO_MORE_FILES : DWORD := 18
def ERROR_HANDLE_EOF : DWORD := 38
def ERROR_ALREADY_EXISTS : DWORD := 183

def STATUS_SUCCESS : NTSTATUS := 0
def STATUS_BUFFER_OVERFLOW : NTSTATUS := 0x80000005
def STATUS_INVALID_HANDLE : NTSTATUS := 0xC0000008
def STATUS_ACCESS_DENIED : NTSTATUS := 0xC0000022
def STATUS_OBJECT_NAME_COLLISION : NTSTATUS := 0xC0000035
def STATUS_FILE_IS_A_DIRECTORY : NTSTATUS := 0xC00000BA
def STATUS_DIRECTORY_NOT_EMPTY : NTSTATUS := 0xC0000101
def STATUS_NOT_A_DIRECTORY : NTSTATUS := 0xC0000103
def STATUS_CANNOT_DELETE : NTSTATUS := 0xC0000121

/-- `!NT_SUCCESS(status)`: the sign bit. -/
def Failure (status : NTSTATUS) : Prop := status.msb = true

instance (status : NTSTATUS) : Decidable (Failure status) := inferInstanceAs (Decidable (_ = _))

/-! ## Creation dispositions, sharing and options -/

def CREATE_NEW : DWORD := 1
def CREATE_ALWAYS : DWORD := 2
def OPEN_EXISTING : DWORD := 3
def OPEN_ALWAYS : DWORD := 4
def TRUNCATE_EXISTING : DWORD := 5

def FILE_SHARE_READ : DWORD := 1
def FILE_SHARE_WRITE : DWORD := 2
def FILE_SHARE_DELETE : DWORD := 4

def FILE_DIRECTORY_FILE : DWORD := 0x1
def FILE_NON_DIRECTORY_FILE : DWORD := 0x40

def INVALID_FILE_SIZE : DWORD := 0xFFFFFFFF

/-! ## Access rights -/

def FILE_READ_DATA : DWORD := 0x1
def FILE_WRITE_DATA : DWORD := 0x2
def FILE_APPEND_DATA : DWORD := 0x4
def FILE_READ_EA : DWORD := 0x8
def FILE_WRITE_EA : DWORD := 0x10
def FILE_EXECUTE : DWORD := 0x20
def FILE_READ_ATTRIBUTES : DWORD := 0x80
def FILE_WRITE_ATTRIBUTES : DWORD := 0x100
def DELETE : DWORD := 0x10000
def READ_CONTROL : DWORD := 0x20000
def WRITE_DAC : DWORD := 0x40000
def WRITE_OWNER : DWORD := 0x80000
def SYNCHRONIZE : DWORD := 0x100000
def ACCESS_SYSTEM_SECURITY : DWORD := 0x1000000
def GENERIC_EXECUTE : DWORD := 0x20000000
def GENERIC_WRITE : DWORD := 0x40000000
def GENERIC_READ : DWORD := 0x80000000
def STANDARD_RIGHTS_READ : DWORD := READ_CONTROL
def STANDARD_RIGHTS_WRITE : DWORD := READ_CONTROL
def STANDARD_RIGHTS_EXECUTE : DWORD := READ_CONTROL

/-! ## File attributes and flags -/

def FILE_ATTRIBUTE_READONLY : DWORD := 0x1
def FILE_ATTRIBUTE_HIDDEN : DWORD := 0x2
def FILE_ATTRIBUTE_SYSTEM : DWORD := 0x4
def FILE_ATTRIBUTE_DIRECTORY : DWORD := 0x10
def FILE_ATTRIBUTE_ARCHIVE : DWORD := 0x20
def FILE_ATTRIBUTE_DEVICE : DWORD := 0x40
def FILE_ATTRIBUTE_NORMAL : DWORD := 0x80
def FILE_ATTRIBUTE_TEMPORARY : DWORD := 0x100
def FILE_ATTRIBUTE_SPARSE_FILE : DWORD := 0x200
def FILE_ATTRIBUTE_REPARSE_POINT : DWORD := 0x400
def FILE_ATTRIBUTE_COMPRESSED : DWORD := 0x800
def FILE_ATTRIBUTE_OFFLINE : DWORD := 0x1000
def FILE_ATTRIBUTE_NOT_CONTENT_INDEXED : DWORD := 0x2000
def FILE_ATTRIBUTE_ENCRYPTED : DWORD := 0x4000
def FILE_ATTRIBUTE_INTEGRITY_STREAM : DWORD := 0x8000
def FILE_ATTRIBUTE_VIRTUAL : DWORD := 0x10000
def FILE_ATTRIBUTE_NO_SCRUB_DATA : DWORD := 0x20000

def FILE_FLAG_OPEN_NO_RECALL : DWORD := 0x100000
def FILE_FLAG_OPEN_REPARSE_POINT : DWORD := 0x200000
def FILE_FLAG_POSIX_SEMANTICS : DWORD := 0x1000000
def FILE_FLAG_BACKUP_SEMANTICS : DWORD := 0x2000000
def FILE_FLAG_DELETE_ON_CLOSE : DWORD := 0x4000000
def FILE_FLAG_SEQUENTIAL_SCAN : DWORD := 0x8000000
def FILE_FLAG_RANDOM_ACCESS : DWORD := 0x10000000
def FILE_FLAG_NO_BUFFERING : DWORD := 0x20000000
def FILE_FLAG_OVERLAPPED : DWORD := 0x40000000
def FILE_FLAG_WRITE_THROUGH : DWORD := 0x80000000

def SECURITY_ANONYMOUS : DWORD := 0x0
def SECURITY_IDENTIFICATION : DWORD := 0x10000
def SECURITY_IMPERSONATION : DWORD := 0x20000
def SECURITY_DELEGATION : DWORD := 0x30000
def SECURITY_CONTEXT_TRACKING : DWORD := 0x40000
def SECURITY_EFFECTIVE_ONLY : DWORD := 0x80000
def SECURITY_SQOS_PRESENT : DWORD := 0x100000

/-! ## Parts of a security descriptor -/

def OWNER_SECURITY_INFORMATION : DWORD := 0x1
def GROUP_SECURITY_INFORMATION : DWORD := 0x2
def DACL_SECURITY_INFORMATION : DWORD := 0x4
def SACL_SECURITY_INFORMATION : DWORD := 0x8
def LABEL_SECURITY_INFORMATION : DWORD := 0x10
def ATTRIBUTE_SECURITY_INFORMATION : DWORD := 0x20
def SCOPE_SECURITY_INFORMATION : DWORD := 0x40
def PROCESS_TRUST_LABEL_SECURITY_INFORMATION : DWORD := 0x80
def ACCESS_FILTER_SECURITY_INFORMATION : DWORD := 0x100
def BACKUP_SECURITY_INFORMATION : DWORD := 0x10000
def UNPROTECTED_SACL_SECURITY_INFORMATION : DWORD := 0x10000000
def UNPROTECTED_DACL_SECURITY_INFORMATION : DWORD := 0x20000000
def PROTECTED_SACL_SECURITY_INFORMATION : DWORD := 0x40000000
def PROTECTED_DACL_SECURITY_INFORMATION : DWORD := 0x80000000

/-! ## Features of a volume -/

def FILE_CASE_SENSITIVE_SEARCH : DWORD := 0x1
def FILE_CASE_PRESERVED_NAMES : DWORD := 0x2
def FILE_UNICODE_ON_DISK : DWORD := 0x4
def FILE_PERSISTENT_ACLS : DWORD := 0x8
def FILE_SUPPORTS_REMOTE_STORAGE : DWORD := 0x100
def FILE_NAMED_STREAMS : DWORD := 0x40000

/-! ## The calls -/

/-- The entries `FindFirstFile` and the `FindNextFile` calls after it deliver,
and the error that ends them; and the same for the streams of a file. -/
structure Listing where
  first : WString
  rest : List WString
  final : Win32Error

/-- A `FILETIME`. -/
abbrev FILETIME := BitVec 64

/-- `BY_HANDLE_FILE_INFORMATION`.  The size and the index are one field each. -/
structure ByHandleFileInformation where
  fileAttributes : DWORD := 0
  creationTime : FILETIME := 0
  lastAccessTime : FILETIME := 0
  lastWriteTime : FILETIME := 0
  volumeSerialNumber : DWORD := 0
  fileSize : BitVec 64 := 0
  numberOfLinks : DWORD := 0
  fileIndex : BitVec 64 := 0
  deriving DecidableEq

/-- `WIN32_FIND_DATAW`, the fields `MirrorGetFileInformation` takes from it. -/
structure FindData where
  fileAttributes : DWORD
  creationTime : FILETIME
  lastAccessTime : FILETIME
  lastWriteTime : FILETIME
  fileSize : BitVec 64
  deriving DecidableEq

/-- What `GetDiskFreeSpaceEx` stores through its pointers. -/
structure DiskFreeSpace where
  freeBytesAvailable : BitVec 64
  totalNumberOfBytes : BitVec 64
  totalNumberOfFreeBytes : BitVec 64
  deriving DecidableEq

/-- What `GetVolumeInformation` stores through its pointers. -/
structure VolumeFeatures where
  maximumComponentLength : DWORD
  fileSystemFlags : DWORD
  fileSystemName : WString
  deriving DecidableEq

/-- From where `SetFilePointerEx` counts. -/
inductive MoveMethod
  | FILE_BEGIN
  | FILE_END
  deriving DecidableEq

/-- A call of the API.  `SetFileInformationByHandle` appears once for each
information class the program uses, `FindFirstFile` once for a listing and once for
the data of one file, and `SetFilePointer` with the beginning of the file, the only
place it is called for. -/
inductive Win32Call
  | getFileAttributes (path : WString)
  | setFileAttributes (path : WString) (attributes : DWORD)
  | createDirectory (path : WString) (sd : Option SecurityDescriptor)
  | createFile (path : WString) (access share : DWORD) (sd : Option SecurityDescriptor)
      (disposition flagsAndAttributes : DWORD)
  | closeHandle (handle : HANDLE)
  | getHandleInformation (handle : HANDLE)
  | deleteFile (path : WString)
  | removeDirectory (path : WString)
  | setFileDispositionInfo (handle : HANDLE) (deleteFile : Bool)
  | setFileRenameInfo (handle : HANDLE) (replaceIfExists : Bool) (fileName : WString)
  | findFirstFile (pattern : WString)
  | findFirstFileData (path : WString)
  | findFirstStream (path : WString)
  | findClose
  | setFileEndOfFileInfo (handle : HANDLE) (endOfFile : BitVec 64)
  | setEndOfFile (handle : HANDLE)
  | setFilePointer (handle : HANDLE)
  | setFilePointerEx (handle : HANDLE) (distanceToMove : BitVec 64) (moveMethod : MoveMethod)
  | getFileSize (handle : HANDLE)
  | getFileSizeEx (handle : HANDLE)
  | readFile (handle : HANDLE) (length : DWORD) (overlapped : Option (BitVec 64))
  | writeFile (handle : HANDLE) (data : List Byte)
  | flushFileBuffers (handle : HANDLE)
  | getFileInformationByHandle (handle : HANDLE)
  | setFileTime (handle : HANDLE) (creationTime lastAccessTime lastWriteTime : Option FILETIME)
  | lockFile (handle : HANDLE) (offset length : BitVec 64)
  | unlockFile (handle : HANDLE) (offset length : BitVec 64)
  | malloc (size : DWORD)
  | getProcessNameFromPID (processId : DWORD)
  | dokanOpenRequestorToken
  | impersonateLoggedOnUser (token : HANDLE)
  | revertToSelf
  | setPrivateObjectSecurity (parts : DWORD) (modification current : SecurityDescriptor)
  | getPrivateObjectSecuritySize (parts : DWORD) (current : SecurityDescriptor)
  | getPrivateObjectSecurity (parts : DWORD) (current : SecurityDescriptor) (length : DWORD)
  | getDiskFreeSpaceEx (directoryName : WString)
  | getVolumeInformation (rootPathName : WString)
  deriving DecidableEq

/-- What a call delivers when it succeeds. -/
@[reducible] def Win32Call.Value : Win32Call → Type
  | .getFileAttributes _ => Attributes
  | .createFile .. => OpenHandle
  | .findFirstFile _ => Listing
  | .findFirstFileData _ => FindData
  | .findFirstStream _ => Listing
  | .getFileSize _ => BitVec 64
  | .getFileSizeEx _ => BitVec 64
  | .readFile .. => List Byte
  | .writeFile .. => DWORD
  | .getFileInformationByHandle _ => ByHandleFileInformation
  | .getProcessNameFromPID _ => WString
  | .dokanOpenRequestorToken => HANDLE
  | .setPrivateObjectSecurity .. => SecurityDescriptor
  | .getPrivateObjectSecuritySize .. => DWORD
  | .getPrivateObjectSecurity .. => SecurityDescriptor
  | .getDiskFreeSpaceEx _ => DiskFreeSpace
  | .getVolumeInformation _ => VolumeFeatures
  | _ => Unit

end SeamlessSmb
