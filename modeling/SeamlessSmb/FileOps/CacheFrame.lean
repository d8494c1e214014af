/-
# `FileOps.CacheFrame` — the callbacks that leave the cache alone

Only two callbacks write to the cache, each to one half of it, and only for `bzvolfile`.  The
requests that change a file do not look at the cache at all: what is kept of the file stays as
it was when the file is written, cut, renamed or deleted through the mount.

**Proved here:** a read and a question for the information of another file write nothing to the
cache (`read_other`, `getFileInformation_other`), and no request that may change a file does
(`request_keeps`).  Content that is kept is not read again (`sat_read_stays`).
-/
import SeamlessSmb.FileOps.KeptFile
import SeamlessSmb.FileOps.Status

namespace SeamlessSmb

open Calls

section

variable {env : Env} {w : World Backing}

/-! ## Requests for other files -/

theorem read_other {fileName : WString} {bufferLength : DWORD} {offset : BitVec 64}
    {info : DokanFileInfo} (hname : fileName ≠ bzvolfile) :
    OnlyCalls (fun c => c.storesCache = false) (mirrorReadFile env fileName bufferLength offset info) :=
  housekeeping_keeps.onlyCalls_read (fun _ => rfl) (fun _ _ _ => rfl) rfl (fun _ _ => rfl)
    fun h => absurd h hname

theorem getFileInformation_other {fileName : WString} {information : ByHandleFileInformation}
    {info : DokanFileInfo} (hname : fileName ≠ bzvolfile) :
    OnlyCalls (fun c => c.storesCache = false)
      (mirrorGetFileInformation env fileName information info) :=
  housekeeping_keeps.onlyCalls_getFileInformation (fun _ => rfl) (fun _ => rfl) (fun _ => rfl)
    (fun _ => rfl) rfl rfl fun h => absurd h hname

/-! ## Requests that change a file -/

theorem keeps_reportStatus {format : String} :
    OnlyCalls (fun c => c.storesCache = false) (reportStatus env format) := by
  refine OnlyCalls.bind (onlyCalls_perform.mpr rfl) fun error => ?_
  exact OnlyCalls.bind (onlyCalls_perform.mpr rfl) fun _ => trivial

theorem keeps_carryOut {c : Win32Call} {success failure : String} :
    OnlyCalls (fun c => c.storesCache = false) (carryOut env c success failure) := by
  refine OnlyCalls.bind (onlyCalls_perform.mpr rfl) fun r => ?_
  split
  · exact OnlyCalls.bind (onlyCalls_perform.mpr rfl) fun _ => trivial
  · exact keeps_reportStatus

theorem keeps_onHandle {format : String} {args : WString → List PrintArg} {fileName : WString}
    {info : DokanFileInfo} {body : HANDLE → Op NTSTATUS}
    (hbody : ∀ handle, OnlyCalls (fun c => c.storesCache = false) (body handle)) :
    OnlyCalls (fun c => c.storesCache = false) (onHandle env format args fileName info body) := by
  refine OnlyCalls.bind housekeeping_keeps.onlyCalls_filePathOf fun path => ?_
  refine OnlyCalls.bind (onlyCalls_perform.mpr rfl) fun _ => ?_
  split
  · exact OnlyCalls.bind (onlyCalls_perform.mpr rfl) fun _ => trivial
  · exact hbody _

theorem keeps_write {fileName : WString} {buffer : List Byte} {numberOfBytesToWrite : DWORD}
    {offset : BitVec 64} {info : DokanFileInfo} :
    OnlyCalls (fun c => c.storesCache = false)
      (mirrorWriteFile env fileName buffer numberOfBytesToWrite offset info) := by
  refine housekeeping_keeps.onlyCalls_write ?_ (fun _ => rfl) (fun _ => rfl) (fun _ => rfl)
    (fun _ _ => rfl) fun _ => Housekeeping.onlyCalls_countWrite rfl rfl rfl rfl
  exact housekeeping_keeps.onlyCalls_reopen housekeeping_keeps.onlyCalls_filePathOf
    housekeeping_keeps.onlyCalls_print fun _ => rfl

theorem keeps_setEndOfFile {fileName : WString} {byteOffset : BitVec 64} {info : DokanFileInfo} :
    OnlyCalls (fun c => c.storesCache = false) (mirrorSetEndOfFile env fileName byteOffset info) := by
  refine keeps_onHandle fun handle => ?_
  exact OnlyCalls.bind (onlyCalls_perform.mpr rfl) fun _ => trivial

theorem keeps_setAllocationSize {fileName : WString} {allocSize : BitVec 64} {info : DokanFileInfo} :
    OnlyCalls (fun c => c.storesCache = false) (mirrorSetAllocationSize env fileName allocSize info) := by
  refine keeps_onHandle fun handle => ?_
  refine OnlyCalls.bind (onlyCalls_perform.mpr rfl) fun r => ?_
  cases r with
  | fail e => exact keeps_reportStatus
  | ok fileSize e =>
      dsimp only
      split
      · refine OnlyCalls.bind (onlyCalls_perform.mpr rfl) fun r => ?_
        cases r with
        | fail e =>
            refine OnlyCalls.bind (onlyCalls_perform.mpr rfl) fun error => ?_
            exact OnlyCalls.bind (onlyCalls_perform.mpr rfl) fun _ => trivial
        | ok u e =>
            refine OnlyCalls.bind (onlyCalls_perform.mpr rfl) fun r => ?_
            cases r with
            | fail e => exact keeps_reportStatus
            | ok u e => trivial
      · trivial

theorem keeps_passCheck {fileName : WString} :
    OnlyCalls (fun c => c.storesCache = false) (passCheck fileName) :=
  OnlyCalls.bind (onlyCalls_perform.mpr rfl) fun _ => trivial

theorem keeps_deleteFile {fileName : WString} {info : DokanFileInfo} :
    OnlyCalls (fun c => c.storesCache = false) (mirrorDeleteFile env fileName info) := by
  refine OnlyCalls.bind housekeeping_keeps.onlyCalls_filePathOf fun path => ?_
  refine OnlyCalls.bind (onlyCalls_perform.mpr rfl) fun _ => ?_
  refine OnlyCalls.bind (Housekeeping.onlyCalls_getFileAttributes rfl) fun dwAttrib => ?_
  split
  · trivial
  · split
    · refine OnlyCalls.bind (onlyCalls_perform.mpr rfl) fun r => ?_
      cases r with
      | ok u e => exact keeps_passCheck
      | fail e =>
          refine OnlyCalls.bind (onlyCalls_perform.mpr rfl) fun error => ?_
          refine OnlyCalls.bind (onlyCalls_perform.mpr rfl) fun _ => ?_
          exact OnlyCalls.bind (onlyCalls_perform.mpr rfl) fun _ => trivial
    · exact keeps_passCheck

theorem keeps_moveFile {fileName newFileName : WString} {replaceIfExisting : Bool}
    {info : DokanFileInfo} :
    OnlyCalls (fun c => c.storesCache = false)
      (mirrorMoveFile env fileName newFileName replaceIfExisting info) := by
  have hnewPath : OnlyCalls (fun c => c.storesCache = false) (newPathOf env.globals newFileName) := by
    unfold newPathOf
    split
    · exact housekeeping_keeps.onlyCalls_filePathOf
    · split
      · trivial
      · exact ⟨rfl, fun r => r.elim⟩
  refine OnlyCalls.bind housekeeping_keeps.onlyCalls_filePathOf fun path => ?_
  refine OnlyCalls.bind hnewPath fun newPath => ?_
  refine OnlyCalls.bind (onlyCalls_perform.mpr rfl) fun _ => ?_
  split
  · exact OnlyCalls.bind (onlyCalls_perform.mpr rfl) fun _ => trivial
  · refine OnlyCalls.bind (onlyCalls_perform.mpr rfl) fun r => ?_
    cases r with
    | fail e => trivial
    | ok u e =>
        refine OnlyCalls.bind (onlyCalls_perform.mpr rfl) fun r => ?_
        cases r with
        | ok u e => exact OnlyCalls.bind (onlyCalls_perform.mpr rfl) fun _ => trivial
        | fail e =>
            refine OnlyCalls.bind (onlyCalls_perform.mpr rfl) fun error => ?_
            exact OnlyCalls.bind (onlyCalls_perform.mpr rfl) fun _ => trivial

theorem keeps_flushFileBuffers {fileName : WString} {info : DokanFileInfo} :
    OnlyCalls (fun c => c.storesCache = false) (mirrorFlushFileBuffers env fileName info) :=
  housekeeping_keeps.onlyCalls_flush rfl

theorem keeps_setFileAttributes {fileName : WString} {fileAttributes : DWORD} :
    OnlyCalls (fun c => c.storesCache = false)
      (mirrorSetFileAttributes env fileName fileAttributes) := by
  refine OnlyCalls.bind housekeeping_keeps.onlyCalls_filePathOf fun path => ?_
  refine OnlyCalls.bind (onlyCalls_perform.mpr rfl) fun _ => ?_
  split
  · exact keeps_carryOut
  · refine OnlyCalls.bind (onlyCalls_perform.mpr rfl) fun _ => ?_
    exact OnlyCalls.bind (onlyCalls_perform.mpr rfl) fun _ => trivial

theorem keeps_deleteDirectory {fileName : WString} {info : DokanFileInfo} :
    OnlyCalls (fun c => c.storesCache = false) (deleteDirectory env fileName info) := by
  refine OnlyCalls.bind housekeeping_keeps.onlyCalls_filePathOf fun path => ?_
  refine OnlyCalls.bind (onlyCalls_perform.mpr rfl) fun _ => ?_
  split
  · trivial
  · split
    · trivial
    · refine OnlyCalls.bind (onlyCalls_perform.mpr rfl) fun r => ?_
      cases r with
      | fail e =>
          refine OnlyCalls.bind (onlyCalls_perform.mpr rfl) fun error => ?_
          exact OnlyCalls.bind (onlyCalls_perform.mpr rfl) fun _ => trivial
      | ok listing e =>
          dsimp only
          unfold checkEntries
          split
          · refine OnlyCalls.bind (onlyCalls_perform.mpr rfl) fun _ => ?_
            exact OnlyCalls.bind (onlyCalls_perform.mpr rfl) fun _ => trivial
          · refine OnlyCalls.bind (onlyCalls_perform.mpr rfl) fun _ => ?_
            split
            · exact OnlyCalls.bind (onlyCalls_perform.mpr rfl) fun _ => trivial
            · exact keeps_passCheck

theorem keeps_deliverSecurity {parts bufferLength unset : DWORD} {current : SecurityDescriptor} {num : Int} :
    OnlyCalls (fun c => c.storesCache = false) (deliverSecurity parts bufferLength unset current num) := by
  refine OnlyCalls.bind (onlyCalls_perform.mpr rfl) fun size => ?_
  dsimp only
  split
  · trivial
  · refine OnlyCalls.bind (onlyCalls_perform.mpr rfl) fun r => ?_
    cases r with
    | ok sd e => exact OnlyCalls.bind (onlyCalls_perform.mpr rfl) fun _ => trivial
    | fail e =>
        refine OnlyCalls.bind (onlyCalls_perform.mpr rfl) fun error => ?_
        refine OnlyCalls.bind (onlyCalls_perform.mpr rfl) fun _ => ?_
        exact OnlyCalls.bind (onlyCalls_perform.mpr rfl) fun _ => trivial

theorem keeps_getFileSecurity {fileName : WString} {parts bufferLength unset : DWORD} :
    OnlyCalls (fun c => c.storesCache = false)
      (mirrorGetFileSecurity env unset fileName parts bufferLength) := by
  refine OnlyCalls.bind housekeeping_keeps.onlyCalls_filePathOf fun path => ?_
  refine OnlyCalls.bind (onlyCalls_perform.mpr rfl) fun _ => ?_
  refine OnlyCalls.bind housekeeping_keeps.onlyCalls_checkFlags fun _ => ?_
  refine OnlyCalls.bind (onlyCalls_perform.mpr rfl) fun f => ?_
  cases f with
  | none => exact OnlyCalls.bind (onlyCalls_perform.mpr rfl) fun sd => keeps_deliverSecurity
  | some f =>
      refine OnlyCalls.bind (onlyCalls_perform.mpr rfl) fun sd => ?_
      exact OnlyCalls.bind (onlyCalls_perform.mpr rfl) fun _ => keeps_deliverSecurity

/-- **The requests that may change a file** write nothing to the cache. -/
theorem request_keeps {q : Request} {info : DokanFileInfo} :
    OnlyCalls (fun c => c.storesCache = false) (q.program env info) := by
  cases q with
  | writeFile fileName buffer numberOfBytesToWrite offset =>
      exact OnlyCalls.bind keeps_write fun _ => trivial
  | flushFileBuffers fileName => exact keeps_flushFileBuffers
  | setEndOfFile fileName byteOffset => exact keeps_setEndOfFile
  | setAllocationSize fileName allocSize => exact keeps_setAllocationSize
  | setFileAttributes fileName fileAttributes => exact keeps_setFileAttributes
  | setFileTime fileName creationTime lastAccessTime lastWriteTime =>
      exact keeps_onHandle fun handle => keeps_carryOut
  | deleteFile fileName => exact keeps_deleteFile
  | deleteDirectory fileName => exact keeps_deleteDirectory
  | moveFile fileName newFileName replaceIfExisting => exact keeps_moveFile
  | lockFile fileName byteOffset length => exact keeps_onHandle fun handle => keeps_carryOut
  | unlockFile fileName byteOffset length => exact keeps_onHandle fun handle => keeps_carryOut
  | getFileSecurity fileName parts bufferLength unset =>
      exact OnlyCalls.bind keeps_getFileSecurity fun _ => trivial

/-! ## What is kept stays -/

/-- Content that is kept is not read again. -/
theorem sat_read_stays {fileName : WString} {bufferLength : DWORD} {offset : BitVec 64}
    {info : DokanFileInfo} (hlength : w.cache.bzvolDataLength ≠ 0) :
    Sat (step env (underPath env)) (mirrorReadFile env fileName bufferLength offset info) w
      fun _ _ w' => w'.cache = w.cache := by
  have hthrough : ∀ filePath,
      Sat (step env (underPath env)) (readThrough env fileName filePath bufferLength offset info) w
        fun _ _ w' => w'.cache = w.cache := by
    intro filePath
    refine sat_kept_bind (housekeeping_keeps.onlyCalls_reopen trivial trivial fun _ => rfl)
      fun _ file w₁ h₁ => ?_
    cases file with
    | error status => exact sat_pure.mpr h₁.cache
    | ok file =>
        refine sat_kept_bind (onlyCalls_perform.mpr rfl) fun _ r w₂ h₂ => ?_
        have hkept₂ := h₁.trans h₂
        cases r with
        | fail e =>
            refine sat_kept_bind housekeeping_keeps.onlyCalls_reportError fun _ _ w₃ h₃ => ?_
            exact sat_pure.mpr (hkept₂.trans h₃).cache
        | ok bytes e =>
            refine sat_perform_bind.mpr fun cache w₃ ⟨hcache, hw₃⟩ => ?_
            have hnot : ¬ (fileName = bzvolfile ∧ cache.bzvolDataLength = 0) := by
              rw [hcache, hkept₂.cache]
              exact fun h => hlength h.2
            dsimp only
            rw [if_neg hnot, hw₃]
            refine sat_bind.mpr (sat_pure.mpr ?_)
            refine sat_kept_bind housekeeping_keeps.onlyCalls_closeOpened fun _ _ w₄ h₄ => ?_
            exact sat_pure.mpr (hkept₂.trans h₄).cache
  have hcached : ∀ count, Sat (step env (underPath env)) (readCached offset count) w
      fun _ _ w' => w'.cache = w.cache :=
    fun count => sat_kept_bind (onlyCalls_perform.mpr rfl) fun _ _ w₁ h₁ => sat_pure.mpr h₁.cache
  rw [mirrorReadFile_eq]
  refine sat_filePathOf_bind fun filePath hpath => ?_
  refine sat_perform_bind.mpr fun cache w₁ ⟨hcache, hw₁⟩ => ?_
  rw [hw₁]
  cases cachedCount fileName bufferLength offset cache with
  | some count => exact hcached count
  | none => exact hthrough filePath

/-- The call writes to the content in the cache. -/
def Call.storesContent : Call → Bool
  | .allocCacheData _ | .storeCacheData _ => true
  | _ => false

theorem step_bzvolDataLength {c : Call} {r : Answer c} (hc : c.storesContent = false)
    (h : step env (underPath env) w c r w') : w'.cache.bzvolDataLength = w.cache.bzvolDataLength := by
  cases hstores : c.storesCache with
  | false => rw [(step_kept hstores h).cache]
  | true =>
      cases c with
      | storeCacheInfo i => rw [h]
      | setNotAvailable => rw [h]
      | allocCacheData size => cases hc
      | storeCacheData bytes => cases hc
      | _ => cases hstores

/-- A question for the information does not touch the content. -/
theorem sat_getFileInformation_stays {fileName : WString} {information : ByHandleFileInformation}
    {info : DokanFileInfo} :
    Sat (step env (underPath env)) (mirrorGetFileInformation env fileName information info) w
      fun _ _ w' => w'.cache.bzvolDataLength = w.cache.bzvolDataLength := by
  have hhouse : Housekeeping fun c => c.storesContent = false := ⟨⟨rfl, fun _ _ => rfl, fun _ => rfl⟩, rfl⟩
  have honly : OnlyCalls (fun c => c.storesContent = false)
      (mirrorGetFileInformation env fileName information info) :=
    hhouse.onlyCalls_getFileInformation (fun _ => rfl) (fun _ => rfl) (fun _ => rfl) (fun _ => rfl) rfl rfl
      fun _ _ => rfl
  refine (honly.sat (fun w : World Backing => w.cache.bzvolDataLength)
    (fun _ _ _ _ => step_bzvolDataLength) w).mono ?_
  exact fun _ _ _ h => h.2

end

end SeamlessSmb
