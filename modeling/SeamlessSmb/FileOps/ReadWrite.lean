/-
# `FileOps.ReadWrite` — reading, writing and flushing

`MirrorReadFile` and `MirrorWriteFile` work on the handle of the request, or on the file
opened anew where there is none.  A read is positioned: it names the offset, and on a
synchronous handle it leaves the file pointer behind what it read.  A write is not: it
moves the pointer and then writes at it.

One file is kept in memory after its first read (`bzvolfile`).  A read of it is then
answered from there.
-/
import SeamlessSmb.FileOps.World

namespace SeamlessSmb

open Calls

/-! ## Opening the file anew -/

/-- The handle of the request, or the file opened anew; the flag is `opened`. -/
def reopen (env : Env) (path : Op WString) (access share : DWORD) (note : Op Unit)
    (info : DokanFileInfo) : Op (Except NTSTATUS (HANDLE × Bool)) :=
  if info.context = 0 ∨ info.context = INVALID_HANDLE_VALUE then do
    print "\tinvalid handle, cleanuped?\n"
    let filePath ← path
    let handle ← createFile filePath access share none OPEN_EXISTING 0
    if handle = INVALID_HANDLE_VALUE then do
      let error ← getLastError
      print "\tCreateFile error : %d\n\n" [.num error]
      pure (.error (env.ntStatusFromWin32 error))
    else do
      note
      pure (.ok (handle, true))
  else pure (.ok (info.context, false))

/-- `if (opened) CloseHandle(handle);`. -/
def closeOpened (handle : HANDLE) (opened : Bool) : Op Unit :=
  Prog.onlyIf (opened = true) (closeHandle handle)

/-- The end of a branch in which a call failed: the error is read and reported. -/
def reportError (env : Env) (format : String) (args : DWORD → List PrintArg) (handle : HANDLE)
    (opened : Bool) : Op NTSTATUS := do
  let error ← getLastError
  print format (args error)
  closeOpened handle opened
  pure (env.ntStatusFromWin32 error)

/-! ## `MirrorReadFile` -/

/-- `bzvolfile`. -/
def bzvolfile : WString :=
  wide ['\\', '.', 'b', 'z', 'v', 'o', 'l', '\\', 'b', 'z', 'v', 'o', 'l', '_', 'i', 'd', '.', 'x', 'm', 'l']

/-- The status of a read, what it put into the buffer, and the length it stored. -/
structure ReadFileResult where
  status : NTSTATUS
  buffer : List Byte := []
  readLength : Option DWORD := none

/-- A branch of the filling of the cache in which a call failed: the error is read again at
its end. -/
def reportReread (env : Env) (format : String) (args : DWORD → List PrintArg) (handle : HANDLE)
    (opened : Bool) : Op NTSTATUS := do
  let error ← getLastError
  print format (args error)
  closeOpened handle opened
  let error ← getLastError
  pure (env.ntStatusFromWin32 error)

/-- The file is read into the cache from its beginning; a status is an early exit. -/
def fillCache (env : Env) (handle : HANDLE) (opened : Bool) (bufferLength readLength : DWORD) :
    Op (Option NTSTATUS) := do
  let r ← win32 (.setFilePointer handle)
  match r with
  | .fail _ => do
      let status ← reportReread env "\tseek error, offset = %d %d\n\n"
        (fun e => [.num e, .num 0xFFFFFFFF]) handle opened
      pure (some status)
  | .ok _ _ => do
      let r ← win32 (.getFileSizeEx handle)
      match r with
      | .fail _ => do
          let status ← reportReread env "\tGetFileSize error = %d\n\n" (fun e => [.num e]) handle opened
          pure (some status)
      | .ok fileSize _ => do
          Prog.perform (Call.allocCacheData fileSize)
          let r ← win32 (.readFile handle (fileSize.setWidth 32) none)
          match r with
          | .fail _ => do
              let status ← reportError env "\tread error = %u, buffer length = %d, read length = %d\n\n"
                (fun e => [.num e, .num bufferLength, .num readLength]) handle opened
              pure (some status)
          | .ok bytes _ => do
              Prog.perform (Call.storeCacheData bytes)
              pure none

/-- A read that is not answered from the cache. -/
def readThrough (env : Env) (fileName filePath : WString) (bufferLength : DWORD) (offset : BitVec 64)
    (info : DokanFileInfo) : Op ReadFileResult := do
  let file ← reopen env (pure filePath) GENERIC_READ FILE_SHARE_READ (pure ()) info
  match file with
  | .error status => pure { status := status }
  | .ok (handle, opened) => do
      let r ← win32 (.readFile handle bufferLength (some offset))
      match r with
      | .fail _ => do
          let status ← reportError env "\tread error = %u, buffer length = %d, read length = %d\n\n"
            (fun e => [.num e, .num bufferLength, .num 0]) handle opened
          pure { status := status, readLength := some 0 }
      | .ok bytes _ => do
          let readLength := BitVec.ofNat 32 bytes.length
          let cache ← Prog.perform Call.readCache
          let early ←
            if fileName = bzvolfile ∧ Cache.bzvolDataLength cache = 0 then
              fillCache env handle opened bufferLength readLength
            else pure none
          match early with
          | some status => pure { status := status, buffer := bytes, readLength := some readLength }
          | none => do
              closeOpened handle opened
              pure { status := STATUS_SUCCESS, buffer := bytes, readLength := some readLength }

/-- A read answered from the cache. -/
def readCached (offset count : BitVec 64) : Op ReadFileResult := do
  let bytes ← Prog.perform (Call.copyCacheData offset count.toNat)
  pure { status := STATUS_SUCCESS, buffer := bytes, readLength := some (count.setWidth 32) }

/-- `MirrorReadFile`. -/
def mirrorReadFile (env : Env) (fileName : WString) (bufferLength : DWORD) (offset : BitVec 64)
    (info : DokanFileInfo) : Op ReadFileResult := do
  let filePath ← filePathOf env.globals fileName
  let cache ← Prog.perform Call.readCache
  let length := Cache.bzvolDataLength cache
  if fileName = bzvolfile ∧ length ≠ 0 then
    if length ≤ bufferLength ∧ offset.toInt ≤ length.toNat then
      readCached offset (length.setWidth 64 - offset)
    else if length > bufferLength ∧ offset.toInt ≤ length.toNat then
      readCached offset (bufferLength.setWidth 64)
    else readThrough env fileName filePath bufferLength offset info
  else readThrough env fileName filePath bufferLength offset info

/-- How many bytes a read copies, if it is answered from the cache. -/
def cachedCount (fileName : WString) (bufferLength : DWORD) (offset : BitVec 64) (cache : Cache) :
    Option (BitVec 64) :=
  if fileName = bzvolfile ∧ cache.bzvolDataLength ≠ 0 ∧ offset.toInt ≤ cache.bzvolDataLength.toNat then
    some (if cache.bzvolDataLength ≤ bufferLength then cache.bzvolDataLength.setWidth 64 - offset
      else bufferLength.setWidth 64)
  else none

/-- **A read** is answered from the cache or goes to the file. -/
theorem mirrorReadFile_eq {env : Env} {fileName : WString} {bufferLength : DWORD} {offset : BitVec 64}
    {info : DokanFileInfo} :
    mirrorReadFile env fileName bufferLength offset info =
      (filePathOf env.globals fileName >>= fun filePath => Prog.perform Call.readCache >>= fun cache =>
        (cachedCount fileName bufferLength offset cache).elim
          (readThrough env fileName filePath bufferLength offset info) (readCached offset)) := by
  refine congrArg (filePathOf env.globals fileName >>= ·) (funext fun filePath => ?_)
  refine congrArg (Prog.perform Call.readCache >>= ·) (funext fun (cache : Cache) => ?_)
  dsimp only
  by_cases hwithin : offset.toInt ≤ cache.bzvolDataLength.toNat
  · by_cases hkept : fileName = bzvolfile ∧ cache.bzvolDataLength ≠ 0
    · have hcount : cachedCount fileName bufferLength offset cache = some _ :=
        if_pos ⟨hkept.1, hkept.2, hwithin⟩
      rw [hcount, if_pos hkept]
      by_cases hwhole : cache.bzvolDataLength ≤ bufferLength
      · rw [if_pos ⟨hwhole, hwithin⟩, if_pos hwhole, Option.elim_some]
      · rw [if_neg fun h => hwhole h.1, if_pos ⟨BitVec.not_le.mp hwhole, hwithin⟩, if_neg hwhole,
          Option.elim_some]
    · have hcount : cachedCount fileName bufferLength offset cache = none :=
        if_neg fun h => hkept ⟨h.1, h.2.1⟩
      rw [hcount, if_neg hkept, Option.elim_none]
  · have hcount : cachedCount fileName bufferLength offset cache = none :=
      if_neg fun h => hwithin h.2.2
    simp only [hcount, hwithin, and_false, if_false, ite_self, Option.elim_none]

/-! ## `MirrorWriteFile` -/

/-- The status of a write and the number it stored. -/
structure WriteFileResult where
  status : NTSTATUS
  numberOfBytesWritten : Option DWORD := none

/-- Every sixth write through a handle flushes it. -/
def countWrite (handle : HANDLE) : Op Unit := do
  let count ← Prog.perform (Call.writeCount handle)
  if (count : BitVec 8) = 5 then do
    let _ ← win32 (.flushFileBuffers handle)
    Prog.perform (Call.setWriteCount handle 0)
  else Prog.perform (Call.incWriteCount handle)

/-- The end of a write, with the pointer set. -/
def writeAtPointer (env : Env) (buffer : List Byte) (numberOfBytesToWrite : DWORD)
    (offset : BitVec 64) (handle : HANDLE) (opened : Bool) : Op WriteFileResult := do
  let r ← win32 (.writeFile handle (buffer.take numberOfBytesToWrite.toNat))
  match r with
  | .fail _ => do
      let status ← reportError env "\twrite error = %u, buffer length = %d, write length = %d\n"
        (fun e => [.num e, .num numberOfBytesToWrite, .num 0]) handle opened
      pure { status := status, numberOfBytesWritten := some 0 }
  | .ok numberOfBytesWritten _ => do
      countWrite handle
      print "\twrite %d, offset %I64d\n" [.num numberOfBytesWritten, .int64 offset]
      closeOpened handle opened
      pure { status := STATUS_SUCCESS, numberOfBytesWritten := some numberOfBytesWritten }

/-- How many bytes a write may write: paged writes end where the file does, and `none` is one
that starts behind it. -/
def bytesToWrite (pagingIo : Bool) (offset fileSize : BitVec 64) (numberOfBytesToWrite : DWORD) :
    Option DWORD :=
  if pagingIo = true then
    if offset ≥ fileSize then none
    else if offset + numberOfBytesToWrite.setWidth 64 > fileSize then
      some ((fileSize - offset).setWidth 32)
    else some numberOfBytesToWrite
  else some numberOfBytesToWrite

/-- A write at an offset. -/
def writeAt (env : Env) (buffer : List Byte) (numberOfBytesToWrite : DWORD) (offset : BitVec 64)
    (info : DokanFileInfo) (handle : HANDLE) (opened : Bool) : Op WriteFileResult := do
  let r ← win32 (.getFileSize handle)
  let sizeError : Op WriteFileResult := do
    let status ← reportError env "\tcan not get a file size error = %d\n" (fun e => [.num e]) handle opened
    pure { status := status }
  match r with
  | .fail _ => sizeError
  | .ok fileSize _ =>
      if fileSize.setWidth 32 = INVALID_FILE_SIZE then sizeError
      else
        match bytesToWrite info.pagingIo offset fileSize numberOfBytesToWrite with
        | none => do
            closeOpened handle opened
            pure { status := STATUS_SUCCESS, numberOfBytesWritten := some 0 }
        | some count => do
            let r ← win32 (.setFilePointerEx handle offset .FILE_BEGIN)
            match r with
            | .fail _ => do
                let status ← reportError env "\tseek error, offset = %I64d, error = %d\n"
                  (fun e => [.int64 offset, .num e]) handle opened
                pure { status := status }
            | .ok _ _ => writeAtPointer env buffer count offset handle opened

/-- A write at the end of the file. -/
def writeAtEnd (env : Env) (buffer : List Byte) (numberOfBytesToWrite : DWORD) (offset : BitVec 64)
    (handle : HANDLE) (opened : Bool) : Op WriteFileResult := do
  let r ← win32 (.setFilePointerEx handle 0 .FILE_END)
  match r with
  | .fail _ => do
      let status ← reportError env "\tseek error, offset = EOF, error = %d\n" (fun e => [.num e]) handle
        opened
      pure { status := status }
  | .ok _ _ => writeAtPointer env buffer numberOfBytesToWrite offset handle opened

/-- `MirrorWriteFile`. -/
def mirrorWriteFile (env : Env) (fileName : WString) (buffer : List Byte)
    (numberOfBytesToWrite : DWORD) (offset : BitVec 64) (info : DokanFileInfo) :
    Op WriteFileResult := do
  print "WriteFile : %s, offset %I64d, length %d\n"
    [.str fileName, .int64 offset, .num numberOfBytesToWrite]
  let file ← reopen env (filePathOf env.globals fileName) GENERIC_WRITE FILE_SHARE_WRITE
    (print "\tOpened file to write") info
  match file with
  | .error status => pure { status := status }
  | .ok (handle, opened) =>
      if info.writeToEndOfFile = true then
        writeAtEnd env buffer numberOfBytesToWrite offset handle opened
      else writeAt env buffer numberOfBytesToWrite offset info handle opened

/-! ## `MirrorFlushFileBuffers` -/

/-- `MirrorFlushFileBuffers`. -/
def mirrorFlushFileBuffers (env : Env) (fileName : WString) (info : DokanFileInfo) : Op NTSTATUS := do
  let filePath ← filePathOf env.globals fileName
  print "FlushFileBuffers : %s\n" [.str filePath]
  if info.context = 0 ∨ info.context = INVALID_HANDLE_VALUE then do
    print "\tinvalid handle\n\n"
    pure STATUS_SUCCESS
  else do
    let r ← win32 (.flushFileBuffers info.context)
    match r with
    | .ok _ _ => pure STATUS_SUCCESS
    | .fail _ => do
        let error ← getLastError
        print "\tflush error code = %d\n" [.num error]
        pure (env.ntStatusFromWin32 error)

/-! ## Housekeeping

What a frame says of reading the error, printing and closing, it says of the parts made of
these calls. -/

/-- The calls that report and close are in `P`. -/
structure ReportCalls (P : Call → Prop) : Prop where
  getLastError : P .getLastError
  print : ∀ format args, P (.print format args)
  closeHandle : ∀ handle, P (.win32 (.closeHandle handle))

/-- And so is the one that does not return. -/
structure Housekeeping (P : Call → Prop) : Prop extends ReportCalls P where
  invalidParameter : P .invalidParameter

section

variable {P : Call → Prop} {env : Env} {handle : HANDLE} {opened : Bool}

namespace Housekeeping

theorem onlyCalls_createFile {path : WString} {access share disposition flags : DWORD}
    {sd : Option SecurityDescriptor}
    (hcreate : P (.win32 (.createFile path access share sd disposition flags))) :
    OnlyCalls P (createFile path access share sd disposition flags) := by
  refine OnlyCalls.bind (onlyCalls_perform.mpr hcreate) fun r => ?_
  cases r with
  | ok h e => trivial
  | fail e => trivial

theorem onlyCalls_getFileAttributes {path : WString} (h : P (.win32 (.getFileAttributes path))) :
    OnlyCalls P (getFileAttributes path) := by
  refine OnlyCalls.bind (onlyCalls_perform.mpr h) fun r => ?_
  cases r with
  | ok a e => trivial
  | fail e => trivial

end Housekeeping

namespace ReportCalls

theorem onlyCalls_print (hP : ReportCalls P) {format : String} {args : List PrintArg} :
    OnlyCalls P (SeamlessSmb.print format args) := onlyCalls_perform.mpr (hP.print format args)

theorem onlyCalls_closeOpened (hP : ReportCalls P) : OnlyCalls P (closeOpened handle opened) :=
  OnlyCalls.onlyIf fun _ => OnlyCalls.bind (onlyCalls_perform.mpr (hP.closeHandle handle)) fun _ => trivial

theorem onlyCalls_checkFlags (hP : ReportCalls P) {value : DWORD} {flags : List (DWORD × String)} :
    OnlyCalls P (checkFlags value flags) := SeamlessSmb.onlyCalls_checkFlags hP.print

theorem onlyCalls_reportError (hP : ReportCalls P) {format : String} {args : DWORD → List PrintArg} :
    OnlyCalls P (reportError env format args handle opened) := by
  refine OnlyCalls.bind (onlyCalls_perform.mpr hP.getLastError) fun error => ?_
  refine OnlyCalls.bind hP.onlyCalls_print fun _ => ?_
  exact OnlyCalls.bind hP.onlyCalls_closeOpened fun _ => trivial

theorem onlyCalls_reportReread (hP : ReportCalls P) {format : String} {args : DWORD → List PrintArg} :
    OnlyCalls P (reportReread env format args handle opened) := by
  refine OnlyCalls.bind (onlyCalls_perform.mpr hP.getLastError) fun error => ?_
  refine OnlyCalls.bind hP.onlyCalls_print fun _ => ?_
  refine OnlyCalls.bind hP.onlyCalls_closeOpened fun _ => ?_
  exact OnlyCalls.bind (onlyCalls_perform.mpr hP.getLastError) fun _ => trivial

theorem onlyCalls_reopen (hP : ReportCalls P) {path : Op WString} {note : Op Unit}
    {access share : DWORD} {info : DokanFileInfo} (hpath : OnlyCalls P path) (hnote : OnlyCalls P note)
    (hcreate : ∀ filePath, P (.win32 (.createFile filePath access share none OPEN_EXISTING 0))) :
    OnlyCalls P (reopen env path access share note info) := by
  unfold reopen
  split
  · refine OnlyCalls.bind hP.onlyCalls_print fun _ => OnlyCalls.bind hpath fun filePath => ?_
    refine OnlyCalls.bind (Housekeeping.onlyCalls_createFile (hcreate filePath)) fun handle => ?_
    split
    · refine OnlyCalls.bind (onlyCalls_perform.mpr hP.getLastError) fun error => ?_
      exact OnlyCalls.bind hP.onlyCalls_print fun _ => trivial
    · exact OnlyCalls.bind hnote fun _ => trivial
  · trivial

/-- A write makes the calls of a write; the path is looked at for a handle of its own. -/
theorem onlyCalls_write (hP : ReportCalls P) {fileName : WString} {buffer : List Byte}
    {numberOfBytesToWrite : DWORD} {offset : BitVec 64} {info : DokanFileInfo}
    (hreopen : OnlyCalls P (reopen env (filePathOf env.globals fileName) GENERIC_WRITE FILE_SHARE_WRITE
      (SeamlessSmb.print "\tOpened file to write") info))
    (hsize : ∀ handle, P (.win32 (.getFileSize handle)))
    (hend : ∀ handle, P (.win32 (.setFilePointerEx handle 0 .FILE_END)))
    (hbegin : ∀ handle, P (.win32 (.setFilePointerEx handle offset .FILE_BEGIN)))
    (hwrite : ∀ handle data, P (.win32 (.writeFile handle data)))
    (hcount : ∀ handle, OnlyCalls P (countWrite handle)) :
    OnlyCalls P (mirrorWriteFile env fileName buffer numberOfBytesToWrite offset info) := by
  refine OnlyCalls.bind hP.onlyCalls_print fun _ => OnlyCalls.bind hreopen fun file => ?_
  cases file with
  | error status => trivial
  | ok file =>
      obtain ⟨handle, opened⟩ := file
      have hfailed : ∀ {format : String} {args : DWORD → List PrintArg} {f : NTSTATUS → WriteFileResult},
          OnlyCalls P (reportError env format args handle opened >>= fun status => pure (f status)) :=
        OnlyCalls.bind hP.onlyCalls_reportError fun _ => trivial
      have hpointer : ∀ count, OnlyCalls P (writeAtPointer env buffer count offset handle opened) := by
        intro count
        refine OnlyCalls.bind (onlyCalls_perform.mpr (hwrite ..)) fun r => ?_
        cases r with
        | fail e => exact hfailed
        | ok written e =>
            refine OnlyCalls.bind (hcount handle) fun _ => OnlyCalls.bind hP.onlyCalls_print fun _ => ?_
            exact OnlyCalls.bind hP.onlyCalls_closeOpened fun _ => trivial
      dsimp only
      split
      · refine OnlyCalls.bind (onlyCalls_perform.mpr (hend handle)) fun r => ?_
        cases r with
        | fail e => exact hfailed
        | ok u e => exact hpointer numberOfBytesToWrite
      · refine OnlyCalls.bind (onlyCalls_perform.mpr (hsize handle)) fun r => ?_
        cases r with
        | fail e => exact hfailed
        | ok fileSize e =>
            dsimp only
            split
            · exact hfailed
            · split
              · exact OnlyCalls.bind hP.onlyCalls_closeOpened fun _ => trivial
              · next count _ =>
                  refine OnlyCalls.bind (onlyCalls_perform.mpr (hbegin handle)) fun r => ?_
                  cases r with
                  | fail e => exact hfailed
                  | ok u e => exact hpointer count

end ReportCalls

namespace Housekeeping

theorem onlyCalls_filePathOf (hP : Housekeeping P) {g : Globals} {fileName : WString} :
    OnlyCalls P (filePathOf g fileName) := SeamlessSmb.onlyCalls_filePathOf hP.invalidParameter

/-- A read makes the calls of a read; those that fill the cache, for one file only. -/
theorem onlyCalls_read (hP : Housekeeping P) {fileName : WString} {bufferLength : DWORD}
    {offset : BitVec 64} {info : DokanFileInfo}
    (hcreate : ∀ path, P (.win32 (.createFile path GENERIC_READ FILE_SHARE_READ none OPEN_EXISTING 0)))
    (hread : ∀ handle length overlapped, P (.win32 (.readFile handle length overlapped)))
    (hcache : P .readCache) (hcopy : ∀ offset count, P (.copyCacheData offset count))
    (hfill : fileName = bzvolfile → ∀ handle opened readLength,
      OnlyCalls P (fillCache env handle opened bufferLength readLength)) :
    OnlyCalls P (mirrorReadFile env fileName bufferLength offset info) := by
  have hthrough : ∀ filePath,
      OnlyCalls P (readThrough env fileName filePath bufferLength offset info) := by
    intro filePath
    refine OnlyCalls.bind (hP.onlyCalls_reopen trivial trivial hcreate) fun file => ?_
    cases file with
    | error status => trivial
    | ok file =>
        refine OnlyCalls.bind (onlyCalls_perform.mpr (hread ..)) fun r => ?_
        cases r with
        | fail e => exact OnlyCalls.bind hP.onlyCalls_reportError fun _ => trivial
        | ok bytes e =>
            refine OnlyCalls.bind (onlyCalls_perform.mpr hcache) fun cache => ?_
            dsimp only
            split
            · next hname =>
                refine OnlyCalls.bind (hfill hname.1 ..) fun early => ?_
                cases early with
                | some status => trivial
                | none => exact OnlyCalls.bind hP.onlyCalls_closeOpened fun _ => trivial
            · exact OnlyCalls.bind trivial fun early => by
                cases early with
                | some status => trivial
                | none => exact OnlyCalls.bind hP.onlyCalls_closeOpened fun _ => trivial
  have hcached : ∀ count, OnlyCalls P (readCached offset count) :=
    fun count => OnlyCalls.bind (onlyCalls_perform.mpr (hcopy ..)) fun _ => trivial
  rw [mirrorReadFile_eq]
  refine OnlyCalls.bind hP.onlyCalls_filePathOf fun filePath => ?_
  refine OnlyCalls.bind (onlyCalls_perform.mpr hcache) fun cache => ?_
  cases cachedCount fileName bufferLength offset cache with
  | some count => exact hcached count
  | none => exact hthrough filePath

/-- The filling of the cache. -/
theorem onlyCalls_fillCache (hP : ReportCalls P) {bufferLength readLength : DWORD}
    (hseek : P (.win32 (.setFilePointer handle))) (hsize : P (.win32 (.getFileSizeEx handle)))
    (halloc : ∀ size, P (.allocCacheData size))
    (hread : ∀ length overlapped, P (.win32 (.readFile handle length overlapped)))
    (hstore : ∀ bytes, P (.storeCacheData bytes)) :
    OnlyCalls P (fillCache env handle opened bufferLength readLength) := by
  refine OnlyCalls.bind (onlyCalls_perform.mpr hseek) fun r => ?_
  cases r with
  | fail e => exact OnlyCalls.bind hP.onlyCalls_reportReread fun _ => trivial
  | ok u e =>
      refine OnlyCalls.bind (onlyCalls_perform.mpr hsize) fun r => ?_
      cases r with
      | fail e => exact OnlyCalls.bind hP.onlyCalls_reportReread fun _ => trivial
      | ok fileSize e =>
          refine OnlyCalls.bind (onlyCalls_perform.mpr (halloc _)) fun _ => ?_
          refine OnlyCalls.bind (onlyCalls_perform.mpr (hread _ _)) fun r => ?_
          cases r with
          | fail e => exact OnlyCalls.bind hP.onlyCalls_reportError fun _ => trivial
          | ok bytes e => exact OnlyCalls.bind (onlyCalls_perform.mpr (hstore _)) fun _ => trivial

/-- A flush. -/
theorem onlyCalls_flush (hP : Housekeeping P) {fileName : WString} {info : DokanFileInfo}
    (hflush : P (.win32 (.flushFileBuffers info.context))) :
    OnlyCalls P (mirrorFlushFileBuffers env fileName info) := by
  refine OnlyCalls.bind hP.onlyCalls_filePathOf fun filePath => ?_
  refine OnlyCalls.bind hP.onlyCalls_print fun _ => ?_
  split
  · exact OnlyCalls.bind hP.onlyCalls_print fun _ => trivial
  · refine OnlyCalls.bind (onlyCalls_perform.mpr hflush) fun r => ?_
    cases r with
    | ok u e => trivial
    | fail e =>
        refine OnlyCalls.bind (onlyCalls_perform.mpr hP.getLastError) fun error => ?_
        exact OnlyCalls.bind hP.onlyCalls_print fun _ => trivial

/-- The counting of writes. -/
theorem onlyCalls_countWrite (hcount : P (.writeCount handle))
    (hflush : P (.win32 (.flushFileBuffers handle))) (hset : P (.setWriteCount handle 0))
    (hinc : P (.incWriteCount handle)) : OnlyCalls P (countWrite handle) := by
  refine OnlyCalls.bind (onlyCalls_perform.mpr hcount) fun count => ?_
  split
  · exact OnlyCalls.bind (onlyCalls_perform.mpr hflush) fun _ => onlyCalls_perform.mpr hset
  · exact onlyCalls_perform.mpr hinc

end Housekeeping

end

end SeamlessSmb
