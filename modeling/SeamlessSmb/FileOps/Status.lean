/-
# `FileOps.Status` — what the returned status says

Twelve callbacks carry a request over to the API and answer with an NTSTATUS.  For each,
some of the calls it makes carry out the request (`Request.carriesOut`); the others prepare,
clean up or print.  The status should be a failure if one of these fails, and
`STATUS_SUCCESS` if they are made and all succeed (`Honest`).

| | |
| :-- | :-- |
| `Request` | a request for one of the twelve, with its arguments |
| `Reports` | the calls succeeded and the status is success, or one did not and it is its error, mapped |
| `Honest` | as the claim on a status is put: nothing is said where no call is made |
| `Leaving` | the steps of a run in which the log line of an error leaves a given one |

**Proved here:** nine of the twelve are honest on every run; `MirrorSetEndOfFile` is so only
without a handle, and `MirrorGetFileSecurity` and `MirrorDeleteFile`, which read the last
error again behind a log line, only if debugging is off or the line leaves a suitable one,
where the error of the former must be a failure itself (`honest_iff`).
-/
import SeamlessSmb.FileOps.ReadWrite
import SeamlessSmb.FileOps.Attributes
import SeamlessSmb.FileOps.Security
import SeamlessSmb.FileOps.Delete
import SeamlessSmb.FileOps.Move

namespace SeamlessSmb

open Calls

/-! ## The requests -/

/-- A request for a callback that returns a status. -/
inductive Request
  | writeFile (fileName : WString) (buffer : List Byte) (numberOfBytesToWrite : DWORD)
      (offset : BitVec 64)
  | flushFileBuffers (fileName : WString)
  | setEndOfFile (fileName : WString) (byteOffset : BitVec 64)
  | setAllocationSize (fileName : WString) (allocSize : BitVec 64)
  | setFileAttributes (fileName : WString) (fileAttributes : DWORD)
  | setFileTime (fileName : WString) (creationTime lastAccessTime lastWriteTime : Option FILETIME)
  | deleteFile (fileName : WString)
  | deleteDirectory (fileName : WString)
  | moveFile (fileName newFileName : WString) (replaceIfExisting : Bool)
  | lockFile (fileName : WString) (byteOffset length : BitVec 64)
  | unlockFile (fileName : WString) (byteOffset length : BitVec 64)
  | getFileSecurity (fileName : WString) (parts bufferLength unset : DWORD)

namespace Request

/-- The callback. -/
def program (env : Env) (info : DokanFileInfo) : Request → Op NTSTATUS
  | .writeFile fileName buffer numberOfBytesToWrite offset => do
      let r ← mirrorWriteFile env fileName buffer numberOfBytesToWrite offset info
      pure r.status
  | .flushFileBuffers fileName => mirrorFlushFileBuffers env fileName info
  | .setEndOfFile fileName byteOffset => mirrorSetEndOfFile env fileName byteOffset info
  | .setAllocationSize fileName allocSize => mirrorSetAllocationSize env fileName allocSize info
  | .setFileAttributes fileName fileAttributes => mirrorSetFileAttributes env fileName fileAttributes
  | .setFileTime fileName creationTime lastAccessTime lastWriteTime =>
      mirrorSetFileTime env fileName creationTime lastAccessTime lastWriteTime info
  | .deleteFile fileName => mirrorDeleteFile env fileName info
  | .deleteDirectory fileName => SeamlessSmb.deleteDirectory env fileName info
  | .moveFile fileName newFileName replaceIfExisting =>
      mirrorMoveFile env fileName newFileName replaceIfExisting info
  | .lockFile fileName byteOffset length => mirrorLockFile env fileName byteOffset length info
  | .unlockFile fileName byteOffset length => mirrorUnlockFile env fileName byteOffset length info
  | .getFileSecurity fileName parts bufferLength unset => do
      let r ← mirrorGetFileSecurity env unset fileName parts bufferLength
      pure r.status

/-- The calls that carry out the request. -/
def carriesOut : Request → Win32Call → Bool
  | .writeFile .., .createFile .. => true
  | .writeFile .., .setFilePointerEx .. => true
  | .writeFile .., .getFileSize _ => true
  | .writeFile .., .writeFile .. => true
  | .flushFileBuffers _, .flushFileBuffers _ => true
  | .setEndOfFile .., .setFileEndOfFileInfo .. => true
  | .setAllocationSize .., .getFileSizeEx _ => true
  | .setAllocationSize .., .setFilePointerEx .. => true
  | .setAllocationSize .., .setEndOfFile _ => true
  | .setFileAttributes .., .setFileAttributes .. => true
  | .setFileTime .., .setFileTime .. => true
  | .deleteFile _, .setFileDispositionInfo .. => true
  | .deleteDirectory _, .findFirstFile _ => true
  | .moveFile .., .setFileRenameInfo .. => true
  | .lockFile .., .lockFile .. => true
  | .unlockFile .., .unlockFile .. => true
  | .getFileSecurity .., .getPrivateObjectSecurity .. => true
  | _, _ => false

def watches (q : Request) : Call → Bool
  | .win32 c => q.carriesOut c
  | _ => false

end Request

/-! ## How the calls come out -/

/-- The call succeeded.  A listing did if it was read to its end and no entry stands in the
way of a deletion. -/
def Win32Call.Succeeded : (c : Win32Call) → Outcome c.Value → Prop
  | .findFirstFile _, .ok listing _ => Listing.Empty listing
  | _, .ok _ _ => True
  | _, .fail _ => False

/-- The call failed.  A listing did if it was cut off with no entry in the way so far. -/
def Win32Call.Failed : (c : Win32Call) → Outcome c.Value → Prop
  | .findFirstFile _, .ok listing _ =>
      (∀ s ∈ listing.first :: listing.rest, ¬ RealEntry s) ∧ listing.final.1 ≠ ERROR_NO_MORE_FILES
  | _, .ok _ _ => False
  | _, .fail _ => True

/-- The call behind an event of a trace. -/
def Succeeded : Event Call Answer → Prop
  | ⟨.win32 c, r⟩ => c.Succeeded r
  | _ => True

def Failed : Event Call Answer → Prop
  | ⟨.win32 c, r⟩ => c.Failed r
  | _ => False

/-- What a status should say of the calls that carried out the request. -/
structure Honest (shown : Trace) (status : NTSTATUS) : Prop where
  failed : (∃ e ∈ shown, Failed e) → Failure status
  succeeded : shown ≠ [] → (∀ e ∈ shown, Succeeded e) → status = STATUS_SUCCESS

/-- The error a call left that failed; of a listing, the one that ended it. -/
def Blames : Event Call Answer → DWORD → Prop
  | ⟨.win32 (.findFirstFile _), .ok listing _⟩, error => error = listing.final
  | ⟨.win32 _, .fail e⟩, error => error = e
  | _, _ => False

/-- What it says in most callbacks. -/
inductive Reports (env : Env) (shown : Trace) (status : NTSTATUS) : Prop
  | success : (∀ e ∈ shown, Succeeded e) → status = STATUS_SUCCESS → Reports env shown status
  | failure : (∃ e ∈ shown, ¬ Succeeded e ∧ ∃ error, Blames e error ∧
      status = env.ntStatusFromWin32 error) → Reports env shown status

theorem Blames.ne_zero {e : Event Call Answer} {error : DWORD} (h : Blames e error) : error ≠ 0 := by
  unfold Blames at h
  split at h
  · next listing _ =>
      rw [h]
      exact listing.final.2
  · next error' =>
      rw [h]
      exact error'.2
  · exact h.elim

/-- The errors of the calls shown are mapped to failures. -/
def FailureMapped (env : Env) (shown : Trace) : Prop :=
  ∀ e ∈ shown, ∀ error, Blames e error → Failure (env.ntStatusFromWin32 error)

/-- So they are where every error is. -/
theorem FailureMapped.of_all {env : Env} (h : ∀ e, e ≠ 0 → Failure (env.ntStatusFromWin32 e))
    (shown : Trace) : FailureMapped env shown :=
  fun _ _ error hblames => h error hblames.ne_zero

theorem Failed.not_succeeded {e : Event Call Answer} (h : Failed e) : ¬ Succeeded e := by
  obtain ⟨c, r⟩ := e
  cases c with
  | win32 c =>
      intro hs
      cases r with
      | fail e =>
          cases c with
          | _ => exact hs
      | ok v e =>
          cases c with
          | findFirstFile pattern => exact h.2 hs.2
          | _ => exact h
  | _ => exact h.elim

theorem blames_fail {c : Win32Call} {e : Win32Error} : Blames ⟨.win32 c, .fail e⟩ e.1 := by
  cases c with
  | _ => exact rfl

theorem not_succeeded_fail {c : Win32Call} {e : Win32Error} : ¬ Succeeded ⟨.win32 c, .fail e⟩ := by
  cases c with
  | _ => exact id

variable {env : Env}

theorem Reports.honest {shown : Trace} {status : NTSTATUS} (h : Reports env shown status)
    (hmapped : FailureMapped env shown) : Honest shown status := by
  cases h with
  | success hall hstatus => exact ⟨fun ⟨e, he, hf⟩ => absurd (hall e he) hf.not_succeeded, fun _ _ => hstatus⟩
  | failure hex =>
      obtain ⟨e, he, hns, error, hblames, hstatus⟩ := hex
      refine ⟨fun _ => ?_, fun _ hall => absurd (hall e he) hns⟩
      rw [hstatus]
      exact hmapped e he error hblames

/-- Where no call is made, any status will do. -/
theorem honest_nil {status : NTSTATUS} : Honest [] status :=
  ⟨fun ⟨_, he, _⟩ => absurd he List.not_mem_nil, fun h => absurd rfl h⟩

theorem Reports.cons {e : Event Call Answer} {shown : Trace} {status : NTSTATUS} (he : Succeeded e)
    (h : Reports env shown status) : Reports env (e :: shown) status := by
  cases h with
  | success hall hstatus =>
      refine .success (fun e' he' => ?_) hstatus
      rcases List.mem_cons.mp he' with rfl | he'
      · exact he
      · exact hall e' he'
  | failure hex =>
      obtain ⟨e', he', hns⟩ := hex
      exact .failure ⟨e', List.mem_cons_of_mem e he', hns⟩

theorem Reports.append {shown shown' : Trace} {status : NTSTATUS} (h : ∀ e ∈ shown, Succeeded e)
    (h' : Reports env shown' status) : Reports env (shown ++ shown') status := by
  induction shown with
  | nil => exact h'
  | cons e shown ih =>
      exact (ih fun e' he' => h e' (List.mem_cons_of_mem e he')).cons (h e List.mem_cons_self)

/-! ## Programs that report -/

section

variable {O α β : Type} {os : O → (c : Win32Call) → Outcome c.Value → O → Prop}
  {w : World O} {q : Request}

/-- Every run of `p` from `w` reports with the status `g` finds in its result. -/
def Reporting (env : Env) (os : O → (c : Win32Call) → Outcome c.Value → O → Prop) (q : Request)
    (g : α → NTSTATUS) (p : Op α) (w : World O) : Prop :=
  Watch (step env os) q.watches p w fun shown a _ => Reports env shown (g a)

/-- Every run of `p` from `w` makes no call that is watched, and returns `error`, mapped. -/
def Failing (env : Env) (os : O → (c : Win32Call) → Outcome c.Value → O → Prop) (q : Request)
    (error : DWORD) (g : α → NTSTATUS) (p : Op α) (w : World O) : Prop :=
  Watch (step env os) q.watches p w fun shown a _ => shown = [] ∧ g a = env.ntStatusFromWin32 error

/-- Every run of `p` from `w` is honest, if the errors are mapped to failures. -/
abbrev Honestly (env : Env) (os : O → (c : Win32Call) → Outcome c.Value → O → Prop) (q : Request)
    (p : Op NTSTATUS) (w : World O) : Prop :=
  Watch (step env os) q.watches p w fun shown status _ => FailureMapped env shown → Honest shown status

theorem Reporting.honest {p : Op NTSTATUS} (h : Reporting env os q id p w) : Honestly env os q p w :=
  Watch.mono h fun _ _ _ => Reports.honest

theorem honestly_pure {status : NTSTATUS} : Honestly env os q (pure status) w :=
  watch_pure.mpr fun _ => honest_nil

variable {g : α → NTSTATUS} {error : DWORD}

theorem reporting_pure {a : α} (h : g a = STATUS_SUCCESS) : Reporting env os q g (pure a) w :=
  watch_pure.mpr (.success (fun _ he => absurd he List.not_mem_nil) h)

/-- A call that is not watched. -/
theorem reporting_call_of_not {c : Call} {f : Answer c → Op α} (hc : q.watches c = false)
    (h : ∀ r w', step env os w c r w' → Reporting env os q g (f r) w') :
    Reporting env os q g (Prog.perform c >>= f) w := (watch_call_of_not hc).mpr h

/-- A part that makes no call that is watched. -/
theorem reporting_bind_of_not {p : Op β} {f : β → Op α}
    (hp : OnlyCalls (fun c => q.watches c = false) p) (h : ∀ b w', Reporting env os q g (f b) w') :
    Reporting env os q g (p >>= f) w := watch_bind.mpr (hp.watch fun b w' => h b w')

/-- **A call that carries out the request.**  What follows a success reports, and what
follows a failure fails. -/
theorem reporting_win32 {c : Win32Call} {f : Outcome c.Value → Op α} (hc : q.carriesOut c = true)
    (hplain : ∀ v e, c.Succeeded (.ok v e))
    (hok : ∀ v e w', c.Allowed env (.ok v e) → w'.lastError = e → Reporting env os q g (f (.ok v e)) w')
    (hfail : ∀ e w', w'.lastError = e.1 → Failing env os q e.1 g (f (.fail e)) w') :
    Reporting env os q g (win32 c >>= f) w := by
  have hwatched : q.watches (.win32 c) = true := hc
  refine (watch_call hwatched).mpr fun r w' ⟨hallowed, o, _, hw'⟩ => ?_
  cases r with
  | ok v e =>
      refine (hok v e w' hallowed (by rw [hw']; rfl)).mono fun shown a _ h => ?_
      exact h.cons (hplain v e)
  | fail e =>
      have herror : w'.lastError = e.1 := by
        rw [hw']
        rfl
      refine (hfail e w' herror).mono fun shown a _ ⟨hshown, hstatus⟩ => ?_
      rw [hshown]
      exact .failure ⟨_, List.mem_singleton_self _, not_succeeded_fail, e.1, blames_fail, hstatus⟩

/-- The last error, read and then mapped after calls that are not watched. -/
theorem failing_lastError {f : DWORD → Op α} (hw : w.lastError = error)
    (h : ∀ w', Failing env os q error g (f error) w') :
    Failing env os q error g (getLastError >>= f) w :=
  (watch_call_of_not rfl).mpr fun e w' ⟨herror, _⟩ => by
    rw [show e = error from herror.trans hw]
    exact h w'

theorem failing_pure {a : α} (h : g a = env.ntStatusFromWin32 error) :
    Failing env os q error g (pure a) w := watch_pure.mpr ⟨rfl, h⟩

theorem failing_bind_of_not {p : Op β} {f : β → Op α}
    (hp : OnlyCalls (fun c => q.watches c = false) p)
    (h : ∀ b w', Failing env os q error g (f b) w') : Failing env os q error g (p >>= f) w :=
  watch_bind.mpr (hp.watch fun b w' => h b w')

/-- A failure passed on in a result. -/
theorem failing_bind {p : Op NTSTATUS} {f : NTSTATUS → Op α} (hp : Failing env os q error id p w)
    (h : ∀ status w', status = env.ntStatusFromWin32 error → Failing env os q error g (f status) w') :
    Failing env os q error g (p >>= f) w := by
  refine watch_bind.mpr (hp.mono fun shown status w' ⟨hshown, hfailure⟩ => ?_)
  rw [hshown]
  exact h status w' hfailure

/-! ## The parts -/

theorem unwatched_print {format : String} {args : List PrintArg} :
    OnlyCalls (fun c => q.watches c = false) (print format args) := onlyCalls_perform.mpr rfl

/-- No request is carried out by a call that reports or closes. -/
theorem housekeeping_watches : Housekeeping fun c => q.watches c = false where
  getLastError := rfl
  print := fun _ _ => rfl
  closeHandle handle := by
    show q.carriesOut (.closeHandle handle) = false
    cases q with
    | _ => rfl
  invalidParameter := rfl

theorem unwatched_filePathOf {fileName : WString} :
    OnlyCalls (fun c => q.watches c = false) (filePathOf env.globals fileName) :=
  housekeeping_watches.onlyCalls_filePathOf

theorem unwatched_closeOpened {handle : HANDLE} {opened : Bool} :
    OnlyCalls (fun c => q.watches c = false) (closeOpened handle opened) :=
  housekeeping_watches.onlyCalls_closeOpened

theorem failing_reportError {format : String} {args : DWORD → List PrintArg} {handle : HANDLE}
    {opened : Bool} (hw : w.lastError = error) :
    Failing env os q error id (reportError env format args handle opened) w :=
  failing_lastError hw fun _ => failing_bind_of_not unwatched_print fun _ _ =>
    failing_bind_of_not unwatched_closeOpened fun _ _ => failing_pure rfl

theorem failing_reportStatus {format : String} (hw : w.lastError = error) :
    Failing env os q error id (reportStatus env format) w :=
  failing_lastError hw fun _ => failing_bind_of_not unwatched_print fun _ _ => failing_pure rfl

/-- A callback on a handle is honest if its body reports. -/
theorem honest_onHandle {format : String} {args : WString → List PrintArg} {fileName : WString}
    {info : DokanFileInfo} {body : HANDLE → Op NTSTATUS}
    (h : ∀ w', Reporting env os q id (body info.context) w') :
    Honestly env os q (onHandle env format args fileName info body) w := by
  refine watch_bind.mpr (unwatched_filePathOf.watch fun path w₁ => ?_)
  refine watch_bind.mpr (unwatched_print.watch fun _ w₂ => ?_)
  split
  · exact watch_bind.mpr (unwatched_print.watch fun _ w₃ => honestly_pure)
  · exact (h w₂).honest

/-- One call, and how it went. -/
theorem reporting_carryOut {c : Win32Call} {success failure : String} (hc : q.carriesOut c = true)
    (hplain : ∀ v e, c.Succeeded (.ok v e)) :
    Reporting env os q id (carryOut env c success failure) w := by
  refine reporting_win32 hc hplain (fun v e w' _ _ => ?_) fun e w' hw' => ?_
  · exact reporting_bind_of_not unwatched_print fun _ _ => reporting_pure rfl
  · exact failing_reportStatus hw'

/-! ## `MirrorWriteFile` -/

variable {fileName : WString} {buffer : List Byte} {numberOfBytesToWrite : DWORD}
  {offset : BitVec 64} {info : DokanFileInfo} {handle : HANDLE} {opened : Bool}

theorem watch_createFile {path : WString} {access share disposition flags : DWORD}
    {sd : Option SecurityDescriptor}
    (hc : q.carriesOut (.createFile path access share sd disposition flags) = true) :
    Watch (step env os) q.watches (createFile path access share sd disposition flags) w
      (fun shown h w' => ∃ r,
        shown = [⟨.win32 (.createFile path access share sd disposition flags), r⟩] ∧
        h = handleOf r ∧ w'.lastError = r.lastError) := by
  have hwatched : q.watches (.win32 (.createFile path access share sd disposition flags)) = true := hc
  refine (watch_call hwatched).mpr fun r w' ⟨_, _, _, hw'⟩ => ?_
  cases r with
  | ok h e => exact watch_pure.mpr ⟨.ok h e, rfl, rfl, by rw [hw']⟩
  | fail e => exact watch_pure.mpr ⟨.fail e, rfl, rfl, by rw [hw']⟩

/-- Opening the file anew ends the callback with a failure, or succeeds. -/
theorem watch_reopen (hq : ∀ path access share,
      q.carriesOut (.createFile path access share none OPEN_EXISTING 0) = true)
    {path : Op WString} {access share : DWORD} {note : Op Unit}
    (hpath : OnlyCalls (fun c => q.watches c = false) path)
    (hnote : OnlyCalls (fun c => q.watches c = false) note) :
    Watch (step env os) q.watches (reopen env path access share note info) w
      (fun shown file _ =>
        match file with
        | .error status => Reports env shown status
        | .ok _ => ∀ e ∈ shown, Succeeded e) := by
  unfold reopen
  split
  · refine watch_bind.mpr (unwatched_print.watch fun _ w₁ => ?_)
    refine watch_bind.mpr (hpath.watch fun filePath w₂ => ?_)
    refine watch_bind.mpr ((watch_createFile (hq _ _ _)).mono fun shown h w₃ ⟨r, hshown, hh, hw₃⟩ => ?_)
    cases r with
    | ok h' e =>
        rw [hh, if_neg (show (handleOf (.ok h' e)) ≠ INVALID_HANDLE_VALUE from h'.2.2), hshown]
        refine watch_bind.mpr (hnote.watch fun _ w₄ => watch_pure.mpr fun e' he' => ?_)
        rw [List.mem_singleton.mp he']
        trivial
    | fail e =>
        rw [hh, if_pos (show (handleOf (.fail e)) = INVALID_HANDLE_VALUE from rfl), hshown]
        refine (watch_call_of_not rfl).mpr fun error w₄ ⟨herror, _⟩ => ?_
        refine watch_bind.mpr (unwatched_print.watch fun _ w₅ => watch_pure.mpr ?_)
        refine .failure ⟨_, List.mem_singleton_self _, not_succeeded_fail, error, ?_, rfl⟩
        rw [herror, hw₃]
        exact blames_fail
  · exact watch_pure.mpr fun e he => absurd he List.not_mem_nil

theorem onlyCalls_countWrite :
    OnlyCalls (fun c => (Request.writeFile fileName buffer numberOfBytesToWrite offset).watches c = false)
      (countWrite handle) := Housekeeping.onlyCalls_countWrite rfl rfl rfl rfl

theorem reporting_writeAtPointer {count : DWORD} :
    Reporting env os (.writeFile fileName buffer numberOfBytesToWrite offset) WriteFileResult.status
      (writeAtPointer env buffer count offset handle opened) w := by
  refine reporting_win32 rfl (fun _ _ => trivial) (fun v e w₁ _ _ => ?_) fun e w₁ hw₁ => ?_
  · refine reporting_bind_of_not onlyCalls_countWrite fun _ w₂ => ?_
    refine reporting_bind_of_not unwatched_print fun _ w₃ => ?_
    exact reporting_bind_of_not unwatched_closeOpened fun _ w₄ => reporting_pure rfl
  · exact failing_bind (failing_reportError hw₁) fun status w₂ hstatus => failing_pure hstatus

theorem reporting_writeAtEnd :
    Reporting env os (.writeFile fileName buffer numberOfBytesToWrite offset) WriteFileResult.status
      (writeAtEnd env buffer numberOfBytesToWrite offset handle opened) w := by
  refine reporting_win32 rfl (fun _ _ => trivial) (fun v e w₁ _ _ => ?_) fun e w₁ hw₁ => ?_
  · exact reporting_writeAtPointer
  · exact failing_bind (failing_reportError hw₁) fun status w₂ hstatus => failing_pure hstatus

theorem reporting_writeAt :
    Reporting env os (.writeFile fileName buffer numberOfBytesToWrite offset) WriteFileResult.status
      (writeAt env buffer numberOfBytesToWrite offset info handle opened) w := by
  refine reporting_win32 rfl (fun _ _ => trivial) (fun fileSize e w₁ hallowed hw₁ => ?_)
    fun e w₁ hw₁ => ?_
  · dsimp only
    split
    · next hsize =>
        -- the size looks like the error value, and no error is left
        refine watch_bind.mpr ((watch_call_of_not rfl).mpr fun error w₂ ⟨herror, _⟩ => ?_)
        refine watch_bind.mpr (unwatched_print.watch fun _ w₃ => ?_)
        refine watch_bind.mpr (unwatched_closeOpened.watch fun _ w₄ => watch_pure.mpr ?_)
        refine watch_pure.mpr (.success (fun _ he => absurd he List.not_mem_nil) ?_)
        show env.ntStatusFromWin32 error = STATUS_SUCCESS
        rw [herror, hw₁, show e = 0 from hallowed hsize]
        exact env.ntStatus_success
    · cases bytesToWrite info.pagingIo offset fileSize numberOfBytesToWrite with
      | none => exact reporting_bind_of_not unwatched_closeOpened fun _ _ => reporting_pure rfl
      | some count =>
          refine reporting_win32 rfl (fun _ _ => trivial) (fun v e w₂ _ _ => ?_) fun e w₂ hw₂ => ?_
          · exact reporting_writeAtPointer
          · exact failing_bind (failing_reportError hw₂) fun status w₃ hstatus => failing_pure hstatus
  · exact failing_bind (failing_reportError hw₁) fun status w₂ hstatus => failing_pure hstatus

theorem reporting_writeFile :
    Reporting env os (.writeFile fileName buffer numberOfBytesToWrite offset) WriteFileResult.status
      (mirrorWriteFile env fileName buffer numberOfBytesToWrite offset info) w := by
  refine reporting_bind_of_not unwatched_print fun _ w₁ => ?_
  refine watch_bind.mpr ((watch_reopen (fun _ _ _ => rfl) unwatched_filePathOf unwatched_print).mono ?_)
  intro shown file w₂ h
  cases file with
  | error status =>
      refine watch_pure.mpr ?_
      rw [List.append_nil]
      exact h
  | ok file =>
      obtain ⟨handle, opened⟩ := file
      have hrest : Reporting env os (.writeFile fileName buffer numberOfBytesToWrite offset)
          WriteFileResult.status
          (if info.writeToEndOfFile = true then
            writeAtEnd env buffer numberOfBytesToWrite offset handle opened
          else writeAt env buffer numberOfBytesToWrite offset info handle opened) w₂ := by
        split
        · exact reporting_writeAtEnd
        · exact reporting_writeAt
      exact hrest.mono fun _ _ _ hreports => hreports.append h

/-! ## The other callbacks -/

theorem honest_writeFile :
    Honestly env os (.writeFile fileName buffer numberOfBytesToWrite offset)
      ((Request.writeFile fileName buffer numberOfBytesToWrite offset).program env info) w := by
  refine watch_bind.mpr (reporting_writeFile.mono fun shown r w₁ h => watch_pure.mpr ?_)
  rw [List.append_nil]
  exact h.honest

theorem honest_flushFileBuffers :
    Honestly env os (.flushFileBuffers fileName) (mirrorFlushFileBuffers env fileName info) w := by
  refine watch_bind.mpr (unwatched_filePathOf.watch fun path w₁ => ?_)
  refine watch_bind.mpr (unwatched_print.watch fun _ w₂ => ?_)
  split
  · exact watch_bind.mpr (unwatched_print.watch fun _ w₃ => honestly_pure)
  · refine Reporting.honest (reporting_win32 rfl (fun _ _ => trivial) (fun v e w₃ _ _ => ?_)
      fun e w₃ hw₃ => ?_)
    · exact reporting_pure rfl
    · exact failing_reportStatus hw₃

theorem honest_setAllocationSize {allocSize : BitVec 64} :
    Honestly env os (.setAllocationSize fileName allocSize)
      (mirrorSetAllocationSize env fileName allocSize info) w := by
  refine honest_onHandle fun w₁ => ?_
  refine reporting_win32 rfl (fun _ _ => trivial) (fun fileSize e w₂ _ _ => ?_) fun e w₂ hw₂ => ?_
  · dsimp only
    split
    · refine reporting_win32 rfl (fun _ _ => trivial) (fun v e w₃ _ _ => ?_) fun e w₃ hw₃ => ?_
      · refine reporting_win32 rfl (fun _ _ => trivial) (fun v e w₄ _ _ => ?_) fun e w₄ hw₄ => ?_
        · exact reporting_pure rfl
        · exact failing_reportStatus hw₄
      · exact failing_lastError hw₃ fun _ => failing_bind_of_not unwatched_print fun _ _ =>
          failing_pure rfl
    · exact reporting_pure rfl
  · exact failing_reportStatus hw₂

theorem honest_setFileAttributes {fileAttributes : DWORD} :
    Honestly env os (.setFileAttributes fileName fileAttributes)
      (mirrorSetFileAttributes env fileName fileAttributes) w := by
  refine watch_bind.mpr (unwatched_filePathOf.watch fun path w₁ => ?_)
  refine watch_bind.mpr (unwatched_print.watch fun _ w₂ => ?_)
  split
  · exact Reporting.honest (reporting_carryOut rfl fun _ _ => trivial)
  · refine watch_bind.mpr (unwatched_print.watch fun _ w₃ => ?_)
    exact watch_bind.mpr (unwatched_print.watch fun _ w₄ => honestly_pure)

theorem honest_setFileTime {creationTime lastAccessTime lastWriteTime : Option FILETIME} :
    Honestly env os (.setFileTime fileName creationTime lastAccessTime lastWriteTime)
      (mirrorSetFileTime env fileName creationTime lastAccessTime lastWriteTime info) w :=
  honest_onHandle fun _ => reporting_carryOut rfl fun _ _ => trivial

theorem honest_lockFile {byteOffset length : BitVec 64} :
    Honestly env os (.lockFile fileName byteOffset length)
      (mirrorLockFile env fileName byteOffset length info) w :=
  honest_onHandle fun _ => reporting_carryOut rfl fun _ _ => trivial

theorem honest_unlockFile {byteOffset length : BitVec 64} :
    Honestly env os (.unlockFile fileName byteOffset length)
      (mirrorUnlockFile env fileName byteOffset length info) w :=
  honest_onHandle fun _ => reporting_carryOut rfl fun _ _ => trivial

theorem honest_moveFile {newFileName : WString} {replaceIfExisting : Bool} :
    Honestly env os (.moveFile fileName newFileName replaceIfExisting)
      (mirrorMoveFile env fileName newFileName replaceIfExisting info) w := by
  have hnewPath : OnlyCalls
      (fun c => (Request.moveFile fileName newFileName replaceIfExisting).watches c = false)
      (newPathOf env.globals newFileName) := by
    unfold newPathOf
    split
    · exact unwatched_filePathOf
    · split
      · trivial
      · exact ⟨rfl, fun r => r.elim⟩
  refine watch_bind.mpr (unwatched_filePathOf.watch fun path w₁ => ?_)
  refine watch_bind.mpr (hnewPath.watch fun newPath w₂ => ?_)
  refine watch_bind.mpr (unwatched_print.watch fun _ w₃ => ?_)
  split
  · exact watch_bind.mpr (unwatched_print.watch fun _ w₄ => honestly_pure)
  · refine (watch_call_of_not rfl).mpr fun renameInfo w₄ _ => ?_
    cases renameInfo with
    | fail e => exact honestly_pure
    | ok u e =>
        refine Reporting.honest (reporting_win32 rfl (fun _ _ => trivial) (fun v e w₅ _ _ => ?_)
          fun e w₅ hw₅ => ?_)
        · exact reporting_call_of_not rfl fun _ _ _ => reporting_pure rfl
        · exact failing_reportStatus hw₅

theorem watch_passCheck {Q : Trace → NTSTATUS → World O → Prop} (h : ∀ w', Q [] STATUS_SUCCESS w') :
    Watch (step env os) q.watches (passCheck fileName) w Q :=
  (watch_call_of_not rfl).mpr fun _ w₁ _ => watch_pure.mpr (h w₁)

/-- A listing is refused, cut off, or empty. -/
theorem honest_checkEntries {listing : Listing} {pattern : WString} {e : DWORD}
    (hclose : q.carriesOut .findClose = false) :
    Watch (step env os) q.watches (checkEntries env fileName listing) w
      fun shown status _ =>
        shown = [] ∧ (FailureMapped env [⟨.win32 (.findFirstFile pattern), .ok listing e⟩] →
          Honest [⟨.win32 (.findFirstFile pattern), .ok listing e⟩] status) := by
  have hwatched : q.watches (.win32 .findClose) = false := hclose
  unfold checkEntries
  cases hfind : (listing.first :: listing.rest).find? fun s => decide (RealEntry s) with
  | some cFileName =>
      have hmem := List.mem_of_find?_eq_some hfind
      have hreal : RealEntry cFileName := by simpa using List.find?_some hfind
      refine (watch_call_of_not hwatched).mpr fun _ w₁ _ => ?_
      refine watch_bind.mpr (unwatched_print.watch fun _ w₂ => watch_pure.mpr ⟨rfl, fun _ => ⟨?_, ?_⟩⟩)
      · rintro ⟨e', he', hfailed⟩
        rw [List.mem_singleton.mp he'] at hfailed
        exact absurd hreal (hfailed.1 cFileName hmem)
      · intro _ hall
        exact absurd hreal ((hall _ (List.mem_singleton_self _)).1 cFileName hmem)
  | none =>
      have hnone : ∀ s ∈ listing.first :: listing.rest, ¬ RealEntry s :=
        fun s hs => by simpa using List.find?_eq_none.mp hfind s hs
      refine (watch_call_of_not hwatched).mpr fun _ w₁ _ => ?_
      split
      · next hfinal =>
          refine watch_bind.mpr (unwatched_print.watch fun _ w₂ =>
            watch_pure.mpr ⟨rfl, fun hmapped => ⟨?_, ?_⟩⟩)
          · exact fun _ => hmapped _ (List.mem_singleton_self _) _ rfl
          · intro _ hall
            exact absurd (hall _ (List.mem_singleton_self _)).2 hfinal
      · next hfinal =>
          refine watch_passCheck fun w₂ => ⟨rfl, fun _ => ⟨?_, fun _ _ => rfl⟩⟩
          rintro ⟨e', he', hfailed⟩
          rw [List.mem_singleton.mp he'] at hfailed
          exact absurd hfailed.2 hfinal

theorem honest_deleteDirectory :
    Honestly env os (.deleteDirectory fileName) (SeamlessSmb.deleteDirectory env fileName info) w := by
  refine watch_bind.mpr (unwatched_filePathOf.watch fun path w₁ => ?_)
  refine watch_bind.mpr (unwatched_print.watch fun _ w₂ => ?_)
  split
  · exact honestly_pure
  · split
    · exact honestly_pure
    · refine (watch_call rfl).mpr fun r w₃ ⟨_, _, _, hw₃⟩ => ?_
      cases r with
      | fail e =>
          refine (watch_call_of_not rfl).mpr fun error w₄ ⟨herror, _⟩ => ?_
          refine watch_bind.mpr (unwatched_print.watch fun _ w₅ => watch_pure.mpr fun hmapped => ?_)
          refine ⟨fun _ => ?_, fun _ hall => (hall _ (List.mem_singleton_self _)).elim⟩
          rw [herror, hw₃]
          exact hmapped _ (List.mem_singleton_self _) _ blames_fail
      | ok listing e =>
          refine (honest_checkEntries (e := e) rfl).mono fun shown status w₄ ⟨hshown, h⟩ => ?_
          rw [hshown]
          exact h

end

/-! ## The log line of an error -/

/-- The line a callback prints of an error that it reads again behind it. -/
def Request.errorLine : Request → Call → Bool
  | .deleteFile _, .print format _ => format = "DeleteFile ERROR %s - %d\n"
  | .getFileSecurity .., .print format _ => format = "GetPrivateObjectSecurity Error %d\n"
  | _, _ => false

section

variable {O α : Type} {env : Env} {os : O → (c : Win32Call) → Outcome c.Value → O → Prop}
  {w w' : World O} {q : Request}

/-- The steps of a run in which that line leaves the last error `left`. -/
def Leaving (env : Env) (os : O → (c : Win32Call) → Outcome c.Value → O → Prop) (q : Request)
    (left : DWORD) (w : World O) (c : Call) (r : Answer c) (w' : World O) : Prop :=
  step env os w c r w' ∧ (q.errorLine c = true → w'.lastError = left)

/-- Such a run is a run. -/
theorem run_of_leaving {left : DWORD} {p : Op α} {tr : Trace} {a : α}
    (h : Run (Leaving env os q left) p w tr a w') : Run (step env os) p w tr a w' := by
  induction h with
  | done => exact .done
  | call hm _ ih => exact .call hm.1 ih

/-- The line is a `print`. -/
theorem errorLine_eq_false {c : Call} (hc : ∀ format args, c ≠ .print format args) :
    q.errorLine c = false := by
  cases c with
  | print format args => exact absurd rfl (hc format args)
  | _ =>
      cases q with
      | _ => rfl

/-- A flag that is printed is no error. -/
theorem unwatched_flags {fileName : WString} {parts bufferLength unset value : DWORD}
    {flags : List (DWORD × String)} :
    OnlyCalls (fun c => (Request.getFileSecurity fileName parts bufferLength unset).errorLine c = false)
      (checkFlags value flags) := by
  induction flags with
  | nil => trivial
  | cons flag flags ih =>
      refine OnlyCalls.bind (OnlyCalls.onlyIf fun _ => onlyCalls_perform.mpr ?_) fun _ => ih
      have hne : "\t" ++ flag.2 ++ "\n" ≠ "GetPrivateObjectSecurity Error %d\n" := fun h => by
        have hhead := congrArg (fun s => s.toList.head?) h
        simp at hhead
      exact decide_eq_false hne

theorem unlogged_filePathOf {fileName : WString} :
    OnlyCalls (fun c => q.errorLine c = false) (filePathOf env.globals fileName) :=
  onlyCalls_filePathOf (errorLine_eq_false fun _ _ => Call.noConfusion)

theorem unlogged_call {β : Type} {c : Call} {f : Answer c → Op β} {Q : Trace → β → World O → Prop}
    (hc : q.errorLine c = false) (h : ∀ r w', Watch (step env os) q.errorLine (f r) w' Q) :
    Watch (step env os) q.errorLine (Prog.perform c >>= f) w Q :=
  (watch_call_of_not hc).mpr fun r w' _ => h r w'

/-- At most one line is printed of an error that is read again. -/
theorem errorLine_once {info : DokanFileInfo} :
    Watch (step env os) q.errorLine (q.program env info) w fun lines _ _ => lines.length ≤ 1 := by
  have hother : ∀ {β : Type} {p : Op β}, (∀ c, q.errorLine c = false) →
      Watch (step env os) q.errorLine p w fun lines _ _ => lines.length ≤ 1 := by
    intro β p hnone
    refine (OnlyCalls.mono (fun c _ => hnone c) (?_ : OnlyCalls (fun _ => True) p)).watch
      fun _ _ => Nat.zero_le 1
    induction p with
    | done a => trivial
    | call c k ih => exact ⟨trivial, ih⟩
  cases q with
  | deleteFile fileName =>
      refine watch_bind.mpr (unlogged_filePathOf.watch fun path w₁ => unlogged_call rfl fun _ w₂ => ?_)
      refine watch_bind.mpr (OnlyCalls.watch (Housekeeping.onlyCalls_getFileAttributes rfl) fun _ w₃ => ?_)
      split
      · exact watch_pure.mpr (Nat.zero_le 1)
      · have hpass : ∀ w', Watch (step env os) (Request.deleteFile fileName).errorLine (passCheck fileName) w'
            fun lines _ _ => lines.length ≤ 1 :=
          fun _ => unlogged_call rfl fun _ _ => watch_pure.mpr (Nat.zero_le 1)
        split
        · refine unlogged_call rfl fun r w₄ => ?_
          cases r with
          | fail e =>
              refine unlogged_call rfl fun _ w₅ => (watch_call rfl).mpr fun _ w₆ _ => ?_
              exact unlogged_call rfl fun _ w₇ => watch_pure.mpr (Nat.le_refl 1)
          | ok u e => exact hpass w₄
        · exact hpass w₃
  | getFileSecurity fileName parts bufferLength unset =>
      have hdeliver : ∀ {unset' : DWORD} {current : SecurityDescriptor} {num : Int} (w' : World O),
          Watch (step env os) (Request.getFileSecurity fileName parts bufferLength unset).errorLine
            (deliverSecurity parts bufferLength unset' current num) w' fun lines _ _ => lines.length ≤ 1 := by
        intro unset' current num w'
        refine unlogged_call rfl fun size w₁ => ?_
        dsimp only
        split
        · exact watch_pure.mpr (Nat.zero_le 1)
        · refine unlogged_call rfl fun r w₂ => ?_
          cases r with
          | fail e =>
              refine unlogged_call rfl fun _ w₃ => (watch_call rfl).mpr fun _ w₄ _ => ?_
              exact unlogged_call rfl fun _ w₅ => watch_pure.mpr (Nat.le_refl 1)
          | ok sd e => exact unlogged_call rfl fun _ w₃ => watch_pure.mpr (Nat.zero_le 1)
      refine watch_bind.mpr (Watch.mono ?_ fun lines _ _ h => watch_pure.mpr (by rwa [List.append_nil]))
      refine watch_bind.mpr (unlogged_filePathOf.watch fun path w₁ => unlogged_call rfl fun _ w₂ => ?_)
      refine watch_bind.mpr (unwatched_flags.watch fun _ w₃ => unlogged_call rfl fun f w₄ => ?_)
      cases f with
      | none => exact unlogged_call rfl fun _ w₅ => hdeliver w₅
      | some p => exact unlogged_call rfl fun _ w₅ => unlogged_call rfl fun _ w₆ => hdeliver w₆
  | _ => exact hother fun _ => rfl

/-- Every run is one in which the line leaves something. -/
theorem exists_leaving {info : DokanFileInfo} {tr : Trace} {status : NTSTATUS}
    (h : Run (step env os) (q.program env info) w tr status w') :
    ∃ left, Run (Leaving env os q left) (q.program env info) w tr status w' :=
  h.exists_leaving World.lastError (errorLine_once tr status w' h)

end

/-! ## The three that read the error late, or not at all -/

section

variable {O : Type} {env : Env} {os : O → (c : Win32Call) → Outcome c.Value → O → Prop}
  {w : World O} {q : Request} {left : DWORD} {fileName : WString} {info : DokanFileInfo}

/-- After one failed call the status has to be a failure, and that is all. -/
theorem honest_fail_iff {c : Win32Call} {e : Win32Error} {status : NTSTATUS} :
    Honest [⟨.win32 c, .fail e⟩] status ↔ Failure status := by
  have hfailed : c.Failed (.fail e) := by
    cases c with
    | _ => trivial
  refine ⟨fun h => h.failed ⟨_, List.mem_singleton_self _, hfailed⟩, fun h => ⟨fun _ => h, ?_⟩⟩
  intro _ hall
  exact absurd (hall ⟨.win32 c, .fail e⟩ (List.mem_singleton_self _)) (Failed.not_succeeded hfailed)

/-- What has to hold for the status to be honest, the log line of the error leaving `left`. -/
def Request.Spared (q : Request) (env : Env) (info : DokanFileInfo) (left : DWORD) (shown : Trace) : Prop :=
  match q with
  | .setEndOfFile .. => info.context = 0 ∨ info.context = INVALID_HANDLE_VALUE
  | .deleteFile _ => (∃ e ∈ shown, Failed e) → env.debugMode = true → left ≠ 0
  | .getFileSecurity .. =>
      ∀ e ∈ shown, ∀ error, Blames e error → Failure (if env.debugMode = true then left else error)
  | _ => True

theorem honest_setEndOfFile_iff {byteOffset : BitVec 64} :
    Watch (step env os) (Request.setEndOfFile fileName byteOffset).watches
      (mirrorSetEndOfFile env fileName byteOffset info) w fun shown status _ =>
        Honest shown status ↔ info.context = 0 ∨ info.context = INVALID_HANDLE_VALUE := by
  refine watch_bind.mpr (unwatched_filePathOf.watch fun path w₁ => ?_)
  refine watch_bind.mpr (unwatched_print.watch fun _ w₂ => ?_)
  split
  · next h =>
      exact watch_bind.mpr (unwatched_print.watch fun _ w₃ => watch_pure.mpr (iff_of_true honest_nil h))
  · next h =>
      refine (watch_call rfl).mpr fun r w₃ _ => watch_pure.mpr (iff_of_false (fun hhonest => ?_) h)
      cases r with
      | fail e => exact absurd (show Failure (0 : NTSTATUS) from honest_fail_iff.mp hhonest) (by decide)
      | ok u e =>
          have hone : (1 : NTSTATUS) = STATUS_SUCCESS :=
            hhonest.succeeded (List.cons_ne_nil _ _) fun e' he' => by
              rw [List.mem_singleton.mp he']
              trivial
          exact absurd hone (by decide)

/-- What a log line leaves: with debugging off, the error. -/
theorem left_of_print {format : String} {args : List PrintArg} {w' : World O}
    (hline : q.errorLine (.print format args) = true)
    (h : Leaving env os q left w (.print format args) () w') :
    w'.lastError = left ∧ (env.debugMode = false → left = w.lastError) := by
  obtain ⟨⟨e, he, rfl⟩, hleft⟩ := h
  have hleft : e = left := hleft hline
  exact ⟨hleft, fun hoff => hleft.symm.trans (he hoff)⟩

theorem honest_deleteFile_iff (hmapped : left ≠ 0 → Failure (env.ntStatusFromWin32 left)) :
    Watch (Leaving env os (.deleteFile fileName) left) (Request.deleteFile fileName).watches
      (mirrorDeleteFile env fileName info) w fun shown status _ =>
        Honest shown status ↔ (Request.deleteFile fileName).Spared env info left shown := by
  have hnil : ∀ {status : NTSTATUS},
      Honest [] status ↔ (Request.deleteFile fileName).Spared env info left [] :=
    iff_of_true honest_nil fun ⟨_, he, _⟩ => absurd he List.not_mem_nil
  refine watch_bind.mpr (unwatched_filePathOf.watch fun path w₁ => ?_)
  refine watch_bind.mpr (unwatched_print.watch fun _ w₂ => ?_)
  have hattr : OnlyCalls (fun c => (Request.deleteFile fileName).watches c = false)
      (getFileAttributes path) := Housekeeping.onlyCalls_getFileAttributes rfl
  refine watch_bind.mpr (hattr.watch fun dwAttrib w₃ => ?_)
  split
  · exact watch_pure.mpr hnil
  · split
    · refine (watch_call rfl).mpr fun r w₄ ⟨⟨_, _, _, hw₄⟩, _⟩ => ?_
      cases r with
      | fail e =>
          refine (watch_call_of_not rfl).mpr fun _ w₅ ⟨⟨_, hw₅⟩, _⟩ => ?_
          refine (watch_call_of_not rfl).mpr fun _ w₆ hprint => ?_
          refine (watch_call_of_not rfl).mpr fun error w₇ ⟨⟨herror, _⟩, _⟩ => watch_pure.mpr ?_
          obtain ⟨hleft, hoff⟩ := left_of_print rfl hprint
          -- the error as the log line left it
          rw [show error = left from herror.trans hleft]
          refine honest_fail_iff.trans ⟨fun h _ _ hzero => ?_, fun h => hmapped ?_⟩
          · rw [hzero, show env.ntStatusFromWin32 0 = STATUS_SUCCESS from env.ntStatus_success] at h
            exact absurd h (by decide)
          · cases hdebug : env.debugMode with
            | true => exact h ⟨_, List.mem_singleton_self _, trivial⟩ hdebug
            | false =>
                rw [hoff hdebug, hw₅, hw₄]
                exact e.2
      | ok u e =>
          refine (watch_call_of_not rfl).mpr fun _ w₅ _ => watch_pure.mpr ?_
          refine iff_of_true ⟨?_, fun _ _ => rfl⟩ ?_
          · rintro ⟨e', he', hfailed⟩
            rw [List.mem_singleton.mp he'] at hfailed
            exact hfailed.elim
          · rintro ⟨e', he', hfailed⟩
            rw [List.mem_singleton.mp he'] at hfailed
            exact hfailed.elim
    · exact (watch_call_of_not rfl).mpr fun _ w₄ _ => watch_pure.mpr hnil

theorem honest_deliverSecurity_iff {parts bufferLength unset unset' : DWORD} {current : SecurityDescriptor}
    {num : Int} :
    Watch (Leaving env os (.getFileSecurity fileName parts bufferLength unset) left)
      (Request.getFileSecurity fileName parts bufferLength unset).watches
      (deliverSecurity parts bufferLength unset' current num) w fun shown r _ =>
        Honest shown r.status ↔
          (Request.getFileSecurity fileName parts bufferLength unset).Spared env info left shown := by
  refine (watch_call_of_not rfl).mpr fun size w₁ _ => ?_
  dsimp only
  split
  · exact watch_pure.mpr (iff_of_true honest_nil fun _ he => absurd he List.not_mem_nil)
  · refine (watch_call rfl).mpr fun r w₂ ⟨⟨_, _, _, hw₂⟩, _⟩ => ?_
    cases r with
    | fail e =>
        refine (watch_call_of_not rfl).mpr fun _ w₃ ⟨⟨_, hw₃⟩, _⟩ => ?_
        refine (watch_call_of_not rfl).mpr fun _ w₄ hprint => ?_
        refine (watch_call_of_not rfl).mpr fun error w₅ ⟨⟨herror, _⟩, _⟩ => watch_pure.mpr ?_
        obtain ⟨hleft, hoff⟩ := left_of_print rfl hprint
        -- the error as the log line left it, and not mapped
        rw [show error = left from herror.trans hleft]
        have hreturned : (if env.debugMode = true then left else e.1) = left := by
          cases hdebug : env.debugMode with
          | true => rfl
          | false =>
              rw [hoff hdebug, hw₃, hw₂]
              rfl
        refine honest_fail_iff.trans ⟨fun h e' he' error' hblames => ?_, fun h => ?_⟩
        · rw [List.mem_singleton.mp he'] at hblames
          rw [show error' = e.1 from hblames, hreturned]
          exact h
        · have hfailure := h _ (List.mem_singleton_self _) e.1 blames_fail
          rw [hreturned] at hfailure
          exact hfailure
    | ok sd e =>
        refine (watch_call_of_not rfl).mpr fun _ w₃ _ => watch_pure.mpr ?_
        refine iff_of_true ⟨?_, fun _ _ => rfl⟩ ?_
        · rintro ⟨e', he', hfailed⟩
          rw [List.mem_singleton.mp he'] at hfailed
          exact hfailed.elim
        · intro e' he' error hblames
          rw [List.mem_singleton.mp he'] at hblames
          exact hblames.elim

theorem honest_getFileSecurity_iff {parts bufferLength unset : DWORD} :
    Watch (Leaving env os (.getFileSecurity fileName parts bufferLength unset) left)
      (Request.getFileSecurity fileName parts bufferLength unset).watches
      ((Request.getFileSecurity fileName parts bufferLength unset).program env info) w fun shown status _ =>
        Honest shown status ↔
          (Request.getFileSecurity fileName parts bufferLength unset).Spared env info left shown := by
  refine watch_bind.mpr (Watch.mono ?_ fun shown r w₁ h => watch_pure.mpr (by rwa [List.append_nil]))
  refine watch_bind.mpr (unwatched_filePathOf.watch fun path w₁ => ?_)
  refine watch_bind.mpr (unwatched_print.watch fun _ w₂ => ?_)
  refine watch_bind.mpr (housekeeping_watches.onlyCalls_checkFlags.watch fun _ w₃ => ?_)
  refine (watch_call_of_not rfl).mpr fun f w₄ _ => ?_
  cases f with
  | none => exact (watch_call_of_not rfl).mpr fun current w₅ _ => honest_deliverSecurity_iff
  | some f =>
      refine (watch_call_of_not rfl).mpr fun current w₅ _ => ?_
      exact (watch_call_of_not rfl).mpr fun _ w₆ _ => honest_deliverSecurity_iff

/-- **Statuses.**  On every run of every callback the status says how the calls that carry
out the request went, exactly if the callback is not `MirrorSetEndOfFile` with a handle, and
the log line of a failure leaves no zero in `MirrorDeleteFile`, and in `MirrorGetFileSecurity`
a code that is negative; with debugging off it leaves the error. -/
theorem honest_iff (env : Env) (os : O → (c : Win32Call) → Outcome c.Value → O → Prop) (q : Request)
    (info : DokanFileInfo) (w w' : World O) (tr : Trace) (status : NTSTATUS) (left : DWORD)
    (h : Run (Leaving env os q left) (q.program env info) w tr status w')
    (hmapped : FailureMapped env (watched q.watches tr))
    (hleft : left ≠ 0 → Failure (env.ntStatusFromWin32 left)) :
    Honest (watched q.watches tr) status ↔ q.Spared env info left (watched q.watches tr) := by
  have hrun := run_of_leaving h
  cases q with
  | writeFile fileName buffer numberOfBytesToWrite offset =>
      exact iff_of_true (honest_writeFile tr status w' hrun hmapped) trivial
  | flushFileBuffers fileName =>
      exact iff_of_true (honest_flushFileBuffers tr status w' hrun hmapped) trivial
  | setEndOfFile fileName byteOffset => exact honest_setEndOfFile_iff tr status w' hrun
  | setAllocationSize fileName allocSize =>
      exact iff_of_true (honest_setAllocationSize tr status w' hrun hmapped) trivial
  | setFileAttributes fileName fileAttributes =>
      exact iff_of_true (honest_setFileAttributes tr status w' hrun hmapped) trivial
  | setFileTime fileName creationTime lastAccessTime lastWriteTime =>
      exact iff_of_true (honest_setFileTime tr status w' hrun hmapped) trivial
  | deleteFile fileName => exact honest_deleteFile_iff hleft tr status w' h
  | deleteDirectory fileName =>
      exact iff_of_true (honest_deleteDirectory tr status w' hrun hmapped) trivial
  | moveFile fileName newFileName replaceIfExisting =>
      exact iff_of_true (honest_moveFile tr status w' hrun hmapped) trivial
  | lockFile fileName byteOffset length =>
      exact iff_of_true (honest_lockFile tr status w' hrun hmapped) trivial
  | unlockFile fileName byteOffset length =>
      exact iff_of_true (honest_unlockFile tr status w' hrun hmapped) trivial
  | getFileSecurity fileName parts bufferLength unset =>
      exact honest_getFileSecurity_iff tr status w' h

end

/-- A deletion that the platform refuses, with debug printing on, and the log line leaving
the error as it is. -/
theorem honest_deleteFile_refused :
    ∃ tr status w', Run (Leaving (.plain true) (fun _ _ _ _ => True) (.deleteFile (wide ['\\', 'a'])) 5)
        ((Request.deleteFile (wide ['\\', 'a'])).program (.plain true) { context := 8 })
        (World.start .none) tr status w' ∧
      Honest (watched (Request.deleteFile (wide ['\\', 'a'])).watches tr) status := by
  have hpath : getFilePath (Env.plain true).globals DOKAN_MAX_PATH (wide ['\\', 'a']) =
      some (wide ['D', ':', '\\', 'a']) := by decide
  let denied : World Unit := { World.start .none with lastError := 5 }
  let tr : Trace :=
    [] ++ ([⟨.print "DeleteFile %s - %d\n" [.str (wide ['D', ':', '\\', 'a']), .num 0], ()⟩] ++
      [⟨.win32 (.getFileAttributes (wide ['D', ':', '\\', 'a'])), .fail ⟨2, by decide⟩⟩,
        ⟨.win32 (.setFileDispositionInfo 8 false), .fail ⟨5, by decide⟩⟩, ⟨.getLastError, 5⟩,
        ⟨.print "DeleteFile ERROR %s - %d\n" [.str (wide ['D', ':', '\\', 'a']), .num 5], ()⟩,
        ⟨.getLastError, 5⟩])
  have hrun : Run (Leaving (.plain true) (fun _ _ _ _ => True) (.deleteFile (wide ['\\', 'a'])) 5)
      ((Request.deleteFile (wide ['\\', 'a'])).program (.plain true) { context := 8 })
      (World.start .none) tr STATUS_ACCESS_DENIED denied := by
    have hfile : Run (Leaving (.plain true) (fun _ _ _ _ => True) (.deleteFile (wide ['\\', 'a'])) 5)
        (filePathOf (Env.plain true).globals (wide ['\\', 'a'])) (World.start Nodes.none) []
        (wide ['D', ':', '\\', 'a']) (World.start .none) := by
      unfold filePathOf
      rw [hpath]
      exact .done
    refine hfile.bind (.bind (.call ⟨⟨0, fun _ => rfl, rfl⟩, fun h => absurd h (by decide)⟩ .done) ?_)
    exact .call ⟨⟨trivial, (), trivial, rfl⟩, Bool.noConfusion⟩
      (.call ⟨⟨trivial, (), trivial, rfl⟩, Bool.noConfusion⟩ (.call ⟨⟨rfl, rfl⟩, Bool.noConfusion⟩
        (.call ⟨⟨5, fun _ => rfl, rfl⟩, fun _ => rfl⟩ (.call ⟨⟨rfl, rfl⟩, Bool.noConfusion⟩ .done))))
  refine ⟨tr, STATUS_ACCESS_DENIED, denied, hrun,
    (honest_iff _ _ _ _ _ _ _ _ 5 hrun (.of_all (fun _ => Env.plain_failure) _) Env.plain_failure).mpr ?_⟩
  exact fun _ _ => by decide

/-- The end of the file is set, and `TRUE` returned. -/
theorem not_honest :
    ¬ ∀ (env : Env) (os : Unit → (c : Win32Call) → Outcome c.Value → Unit → Prop) (q : Request)
        (info : DokanFileInfo) (w w' : World Unit) (tr : Trace) (status : NTSTATUS),
      (∀ e, e ≠ 0 → Failure (env.ntStatusFromWin32 e)) →
      Run (step env os) (q.program env info) w tr status w' → Honest (watched q.watches tr) status := by
  intro hclaim
  have hpath : getFilePath (Env.plain false).globals DOKAN_MAX_PATH (wide ['\\', 'a']) =
      some (wide ['D', ':', '\\', 'a']) := by decide
  have hrun : Run (step (.plain false) fun _ _ _ _ => True)
      ((Request.setEndOfFile (wide ['\\', 'a']) 0).program (.plain false) { context := 8 })
      (World.start .none)
      ([] ++ ([⟨.print "SetEndOfFile %s, %I64d\n" [.str (wide ['D', ':', '\\', 'a']), .int64 0], ()⟩] ++
        [⟨.win32 (.setFileEndOfFileInfo 8 0), .ok () 0⟩])) 1 (World.start .none) :=
    (run_filePathOf hpath).bind (run_print.bind (.call ⟨trivial, (), trivial, rfl⟩ .done))
  have hhonest := hclaim _ _ _ _ _ _ _ _ (fun _ => Env.plain_failure) hrun
  have hhandle := (honest_setEndOfFile_iff _ _ _ hrun).mp hhonest
  exact absurd hhandle (by decide)

end SeamlessSmb
