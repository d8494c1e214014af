/-
# `FileOps.Information` — what a file looks like

`MirrorGetFileInformation` asks for the information of an open file, or takes it from the
entry of the file in its directory where that fails.  The archive bit is not shown.

What it found out about one file is kept (`bzvolfile`), and given out from then on.
-/
import SeamlessSmb.FileOps.ReadWrite

namespace SeamlessSmb

open Calls

def informationFlags : List (DWORD × String) :=
  [(FILE_ATTRIBUTE_ARCHIVE, "FILE_ATTRIBUTE_ARCHIVE"),
    (FILE_ATTRIBUTE_COMPRESSED, "FILE_ATTRIBUTE_COMPRESSED"),
    (FILE_ATTRIBUTE_DEVICE, "FILE_ATTRIBUTE_DEVICE"),
    (FILE_ATTRIBUTE_DIRECTORY, "FILE_ATTRIBUTE_DIRECTORY"),
    (FILE_ATTRIBUTE_ENCRYPTED, "FILE_ATTRIBUTE_ENCRYPTED"),
    (FILE_ATTRIBUTE_HIDDEN, "FILE_ATTRIBUTE_HIDDEN"),
    (FILE_ATTRIBUTE_INTEGRITY_STREAM, "FILE_ATTRIBUTE_INTEGRITY_STREAM"),
    (FILE_ATTRIBUTE_NORMAL, "FILE_ATTRIBUTE_NORMAL"),
    (FILE_ATTRIBUTE_NOT_CONTENT_INDEXED, "FILE_ATTRIBUTE_NOT_CONTENT_INDEXED"),
    (FILE_ATTRIBUTE_NO_SCRUB_DATA, "FILE_ATTRIBUTE_NO_SCRUB_DATA"),
    (FILE_ATTRIBUTE_OFFLINE, "FILE_ATTRIBUTE_OFFLINE"),
    (FILE_ATTRIBUTE_READONLY, "FILE_ATTRIBUTE_READONLY"),
    (FILE_ATTRIBUTE_REPARSE_POINT, "FILE_ATTRIBUTE_REPARSE_POINT"),
    (FILE_ATTRIBUTE_SPARSE_FILE, "FILE_ATTRIBUTE_SPARSE_FILE"),
    (FILE_ATTRIBUTE_SYSTEM, "FILE_ATTRIBUTE_SYSTEM"),
    (FILE_ATTRIBUTE_TEMPORARY, "FILE_ATTRIBUTE_TEMPORARY"),
    (FILE_ATTRIBUTE_VIRTUAL, "FILE_ATTRIBUTE_VIRTUAL")]

/-- The fields of a directory entry, put into the structure of the caller. -/
def FindData.into (find : FindData) (information : ByHandleFileInformation) : ByHandleFileInformation :=
  { information with
    fileAttributes := find.fileAttributes
    creationTime := find.creationTime
    lastAccessTime := find.lastAccessTime
    lastWriteTime := find.lastWriteTime
    fileSize := find.fileSize }

/-- The archive bit is taken out; a file with no other attribute is a normal one. -/
def hideArchive (information : ByHandleFileInformation) : ByHandleFileInformation :=
  if information.fileAttributes &&& FILE_ATTRIBUTE_ARCHIVE ≠ 0 then
    { information with
      fileAttributes :=
        if information.fileAttributes &&& ~~~FILE_ATTRIBUTE_ARCHIVE = 0 then FILE_ATTRIBUTE_NORMAL
        else information.fileAttributes &&& ~~~FILE_ATTRIBUTE_ARCHIVE }
  else information

/-- The status, and the structure of the caller as the call leaves it. -/
structure FileInformationResult where
  status : NTSTATUS
  information : ByHandleFileInformation

/-- What there is to know about the file behind the handle, or the status of an early exit. -/
def findInformation (env : Env) (fileName filePath : WString) (information : ByHandleFileInformation)
    (handle : HANDLE) (opened : Bool) : Op (Except NTSTATUS ByHandleFileInformation) := do
  let r ← win32 (.getFileInformationByHandle handle)
  match r with
  | .ok found _ => do
      print "\tGetFileInformationByHandle success, file size = %d\n" [.num (found.fileSize.setWidth 32)]
      pure (.ok found)
  | .fail _ => do
      let error ← getLastError
      print "\terror code = %d\n" [.num error]
      if fileName.length = 1 then do
        print "  root dir\n"
        let fileAttributes ← getFileAttributes filePath
        pure (.ok { information with fileAttributes := fileAttributes })
      else do
        let r ← win32 (.findFirstFileData filePath)
        match r with
        | .fail _ => do
            let status ← reportError env "\tFindFirstFile error code = %d\n\n" (fun e => [.num e]) handle
              opened
            pure (.error status)
        | .ok find _ => do
            print "\tFindFiles OK, file size = %d\n" [.num (find.fileSize.setWidth 32)]
            let _ ← win32 .findClose
            pure (.ok (find.into information))

/-- `MirrorGetFileInformation`. -/
def mirrorGetFileInformation (env : Env) (fileName : WString) (information : ByHandleFileInformation)
    (info : DokanFileInfo) : Op FileInformationResult := do
  let cache ← Prog.perform Call.readCache
  if fileName = bzvolfile ∧ Cache.bzvolInfoSet cache = true then
    pure { status := STATUS_SUCCESS, information := Cache.bzvolInfo cache }
  else do
    let filePath ← filePathOf env.globals fileName
    print "GetFileInfo : %s\n" [.str filePath]
    let file ← reopen env (pure filePath) GENERIC_READ FILE_SHARE_READ (pure ()) info
    match file with
    | .error status => pure { status := status, information := information }
    | .ok (handle, opened) => do
        let found ← findInformation env fileName filePath information handle opened
        match found with
        | .error status => pure { status := status, information := information }
        | .ok found => do
            print "FILE ATTRIBUTE  = %d\n" [.num found.fileAttributes]
            print "\tFileAttributes = 0x%x\n" [.num found.fileAttributes]
            checkFlags found.fileAttributes informationFlags
            let shown := hideArchive found
            let cache ← Prog.perform Call.readCache
            Prog.onlyIf (fileName = bzvolfile ∧ Cache.bzvolInfoSet cache = false)
              (Prog.perform (Call.storeCacheInfo shown))
            closeOpened handle opened
            pure { status := STATUS_SUCCESS, information := shown }

/-! ## Frames -/

namespace Housekeeping

variable {P : Call → Prop} {env : Env} {fileName : WString} {information : ByHandleFileInformation}

theorem onlyCalls_findInformation (hP : Housekeeping P) {filePath : WString} {handle : HANDLE}
    {opened : Bool} (hask : ∀ handle, P (.win32 (.getFileInformationByHandle handle)))
    (hattributes : ∀ path, P (.win32 (.getFileAttributes path)))
    (hfind : ∀ path, P (.win32 (.findFirstFileData path))) (hclose : P (.win32 .findClose)) :
    OnlyCalls P (findInformation env fileName filePath information handle opened) := by
  refine OnlyCalls.bind (onlyCalls_perform.mpr (hask handle)) fun r => ?_
  cases r with
  | ok found e => exact OnlyCalls.bind hP.onlyCalls_print fun _ => trivial
  | fail e =>
      refine OnlyCalls.bind (onlyCalls_perform.mpr hP.getLastError) fun error => ?_
      refine OnlyCalls.bind hP.onlyCalls_print fun _ => ?_
      split
      · refine OnlyCalls.bind hP.onlyCalls_print fun _ => ?_
        exact OnlyCalls.bind (onlyCalls_getFileAttributes (hattributes filePath)) fun _ => trivial
      · refine OnlyCalls.bind (onlyCalls_perform.mpr (hfind filePath)) fun r => ?_
        cases r with
        | fail e => exact OnlyCalls.bind hP.onlyCalls_reportError fun _ => trivial
        | ok find e =>
            refine OnlyCalls.bind hP.onlyCalls_print fun _ => ?_
            exact OnlyCalls.bind (onlyCalls_perform.mpr hclose) fun _ => trivial

/-- The callback makes the calls that ask for information; it keeps that of one file only. -/
theorem onlyCalls_getFileInformation (hP : Housekeeping P) {info : DokanFileInfo}
    (hcreate : ∀ path, P (.win32 (.createFile path GENERIC_READ FILE_SHARE_READ none OPEN_EXISTING 0)))
    (hask : ∀ handle, P (.win32 (.getFileInformationByHandle handle)))
    (hattributes : ∀ path, P (.win32 (.getFileAttributes path)))
    (hfind : ∀ path, P (.win32 (.findFirstFileData path))) (hclose : P (.win32 .findClose))
    (hcache : P .readCache) (hstore : fileName = bzvolfile → ∀ i, P (.storeCacheInfo i)) :
    OnlyCalls P (mirrorGetFileInformation env fileName information info) := by
  refine OnlyCalls.bind (onlyCalls_perform.mpr hcache) fun cache => ?_
  split
  · trivial
  · refine OnlyCalls.bind hP.onlyCalls_filePathOf fun filePath => ?_
    refine OnlyCalls.bind hP.onlyCalls_print fun _ => ?_
    refine OnlyCalls.bind (hP.onlyCalls_reopen trivial trivial hcreate) fun file => ?_
    cases file with
    | error status => trivial
    | ok file =>
        refine OnlyCalls.bind (hP.onlyCalls_findInformation hask hattributes hfind hclose) fun found => ?_
        cases found with
        | error status => trivial
        | ok found =>
            refine OnlyCalls.bind hP.onlyCalls_print fun _ => ?_
            refine OnlyCalls.bind hP.onlyCalls_print fun _ => ?_
            refine OnlyCalls.bind hP.onlyCalls_checkFlags fun _ => ?_
            refine OnlyCalls.bind (onlyCalls_perform.mpr hcache) fun cache => ?_
            refine OnlyCalls.bind (OnlyCalls.onlyIf fun h => ?_) fun _ => ?_
            · exact onlyCalls_perform.mpr (hstore h.1 _)
            · exact OnlyCalls.bind hP.onlyCalls_closeOpened fun _ => trivial

end Housekeeping

end SeamlessSmb
