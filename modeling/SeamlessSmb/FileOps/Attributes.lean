/-
# `FileOps.Attributes` — sizes, attributes, times and locks

Six callbacks that carry one request over to the backing file.  All but one work on the
handle of the request and refuse one without (`onHandle`); `MirrorSetFileAttributes` works
on the path.

`MirrorSetEndOfFile` returns what `SetFileInformationByHandle` returns, which is a `BOOL`.
-/
import SeamlessSmb.FileOps.World

namespace SeamlessSmb

open Calls

/-- The last error, reported under a text and mapped. -/
def reportStatus (env : Env) (format : String) : Op NTSTATUS := do
  let error ← getLastError
  print format [.num error]
  pure (env.ntStatusFromWin32 error)

/-- What the callbacks on a handle begin with. -/
def onHandle (env : Env) (format : String) (args : WString → List PrintArg) (fileName : WString)
    (info : DokanFileInfo) (body : HANDLE → Op NTSTATUS) : Op NTSTATUS := do
  let filePath ← filePathOf env.globals fileName
  print format (args filePath)
  if info.context = 0 ∨ info.context = INVALID_HANDLE_VALUE then do
    print "\tinvalid handle\n\n"
    pure STATUS_INVALID_HANDLE
  else body info.context

/-- The callbacks that make one call and report how it went. -/
def carryOut (env : Env) (c : Win32Call) (success failure : String) : Op NTSTATUS := do
  let r ← win32 c
  if r.succeeded then do
    print success
    pure STATUS_SUCCESS
  else reportStatus env failure

/-- `MirrorSetEndOfFile`. -/
def mirrorSetEndOfFile (env : Env) (fileName : WString) (byteOffset : BitVec 64)
    (info : DokanFileInfo) : Op NTSTATUS :=
  onHandle env "SetEndOfFile %s, %I64d\n" (fun path => [.str path, .int64 byteOffset]) fileName info
    fun handle => do
      let r ← win32 (.setFileEndOfFileInfo handle byteOffset)
      pure (if r.succeeded then 1 else 0)

/-- `MirrorSetAllocationSize`. -/
def mirrorSetAllocationSize (env : Env) (fileName : WString) (allocSize : BitVec 64)
    (info : DokanFileInfo) : Op NTSTATUS :=
  onHandle env "SetAllocationSize %s, %I64d\n" (fun path => [.str path, .int64 allocSize]) fileName info
    fun handle => do
      let r ← win32 (.getFileSizeEx handle)
      match r with
      | .fail _ => reportStatus env "\terror code = %d\n\n"
      | .ok fileSize _ =>
          if allocSize.toInt < fileSize.toInt then do
            let r ← win32 (.setFilePointerEx handle allocSize .FILE_BEGIN)
            match r with
            | .fail _ => do
                let error ← getLastError
                print "\tSetAllocationSize: SetFilePointer eror: %d, offset = %I64d\n\n"
                  [.num error, .int64 allocSize]
                pure (env.ntStatusFromWin32 error)
            | .ok _ _ => do
                let r ← win32 (.setEndOfFile handle)
                match r with
                | .fail _ => reportStatus env "\tSetEndOfFile error code = %d\n\n"
                | .ok _ _ => pure STATUS_SUCCESS
          else pure STATUS_SUCCESS

/-- `MirrorSetFileAttributes`. -/
def mirrorSetFileAttributes (env : Env) (fileName : WString) (fileAttributes : DWORD) :
    Op NTSTATUS := do
  let filePath ← filePathOf env.globals fileName
  print "SetFileAttributes %s 0x%x\n" [.str filePath, .num fileAttributes]
  if fileAttributes ≠ 0 then
    carryOut env (.setFileAttributes filePath fileAttributes) "\n" "\terror code = %d\n\n"
  else do
    print "Set 0 to FileAttributes means MUST NOT be changed. Didn't call SetFileAttributes function. \n"
    print "\n"
    pure STATUS_SUCCESS

/-- `MirrorSetFileTime`. -/
def mirrorSetFileTime (env : Env) (fileName : WString)
    (creationTime lastAccessTime lastWriteTime : Option FILETIME) (info : DokanFileInfo) : Op NTSTATUS :=
  onHandle env "SetFileTime %s\n" (fun path => [.str path]) fileName info fun handle =>
    carryOut env (.setFileTime handle creationTime lastAccessTime lastWriteTime) "\n"
      "\terror code = %d\n\n"

/-- `MirrorLockFile`. -/
def mirrorLockFile (env : Env) (fileName : WString) (byteOffset length : BitVec 64)
    (info : DokanFileInfo) : Op NTSTATUS :=
  onHandle env "LockFile %s\n" (fun path => [.str path]) fileName info fun handle =>
    carryOut env (.lockFile handle byteOffset length) "\tsuccess\n\n" "\terror code = %d\n\n"

/-- `MirrorUnlockFile`. -/
def mirrorUnlockFile (env : Env) (fileName : WString) (byteOffset length : BitVec 64)
    (info : DokanFileInfo) : Op NTSTATUS :=
  onHandle env "UnlockFile %s\n" (fun path => [.str path]) fileName info fun handle =>
    carryOut env (.unlockFile handle byteOffset length) "\tsuccess\n\n" "\terror code = %d\n\n"

end SeamlessSmb
