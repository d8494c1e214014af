/-
# `FileOps.CreateCounts` — the entry a create makes

`MirrorCreateFile` ends with an entry for its handle in `writeCounts`, if the request asks to write.
It has a handle if the file was opened; if the folder could not be made, or the file not opened, it
makes the entry for what is in the variable then.

| | |
| :-- | :-- |
| `CreatePhase` | how far a create is with its handle and the entry |
| `CreatePhase.Allows` | what it may call in each phase |
| `CreatePhase.Holds` | what holds of the handles and the counts |
| `Counted` | what it has made of the counts |

**Proved here:** a create that does not ask to write, or is not refused, makes no entry but the one of
the file it opened, whose handle was not open before (`counted_create`).
-/
import SeamlessSmb.FileOps.CreateCalls
import SeamlessSmb.FileOps.Lifetime
import SeamlessSmb.FileOps.WriteCounts

namespace SeamlessSmb

open Calls

/-! ## The phases of a create -/

/-- How far a create is: it has tried nothing yet; `CreateDirectory` has failed, and the error is not
read yet; it was refused; it has a handle, and an entry for it. -/
inductive CreatePhase
  | looking
  | folder (error : DWORD)
  | refused
  | opened (handle : HANDLE)
  | counted (handle : HANDLE)
  /-- an error was read that was not left -/
  | never

/-- The call closes nothing, makes no file or folder, and is not on the counters. -/
def Call.looks : Call → Prop
  | .win32 (.createFile ..) | .win32 (.createDirectory ..) | .win32 (.closeHandle _) => False
  | c => c.onCounts = false

/-- A create with this disposition is refused: the file, or the folder and the request with it. -/
def CreateRefused (disposition : DWORD) (e : Event Call Answer) : Prop :=
  match e.call, e.answer with
  | .win32 (.createFile ..), .fail _ => True
  | .win32 (.createDirectory ..), r => FolderFails disposition r
  | _, _ => False

namespace CreatePhase

/-- A file or folder was tried, and what came of it is known. -/
def tried : CreatePhase → Bool
  | .refused | .opened _ | .counted _ => true
  | _ => false

/-- What a call makes of the phase. -/
def note (disposition : DWORD) : CreatePhase → Event Call Answer → CreatePhase
  | .looking, e =>
      match e.call, e.answer with
      | .win32 (.createFile ..), .ok h _ => .opened h.1
      | .win32 (.createFile ..), .fail _ => .refused
      | .win32 (.createDirectory ..), .fail error => .folder error.1
      | _, _ => .looking
  | .folder error, e =>
      match e.call, e.answer with
      | .getLastError, x =>
          if x ≠ error then .never
          else if error ≠ ERROR_ALREADY_EXISTS ∨ disposition = CREATE_NEW then .refused
          else .looking
      | _, _ => .folder error
  | .opened h, e =>
      match e.call with
      | .insertWriteCount _ => .counted h
      | _ => .opened h
  | q, _ => q

/-- What a create that asks to write, or does not, does in each phase. -/
inductive Allows (writes : Prop) : CreatePhase → Call → Prop
  | look {c : Call} : c.looks → Allows writes .looking c
  | makeFolder {path : WString} {sd : Option SecurityDescriptor} :
      Allows writes .looking (.win32 (.createDirectory path sd))
  | openFile {path : WString} {access share : DWORD} {sd : Option SecurityDescriptor}
      {disposition flags : DWORD} :
      Allows writes .looking (.win32 (.createFile path access share sd disposition flags))
  | judge {error : DWORD} : Allows writes (.folder error) .getLastError
  | settle {q : CreatePhase} {c : Call} : q.tried = true → c.onCounts = false → Allows writes q c
  | count {h : HANDLE} : Allows writes (.opened h) (.insertWriteCount h)
  | lose {h : HANDLE} : writes → Allows writes .refused (.insertWriteCount h)
  | never {c : Call} : Allows writes .never c

/-- The handles of `T` still are what they were. -/
def StillLive (T U : Handles) : Prop := ∀ h n, T.live h = some n → U.live h = some n

/-- What holds in each phase of a create that started with the handles `T` and the given counts. -/
def Holds (T : Handles) (counts : HANDLE → Option (BitVec 8)) (writes : Prop) (disposition : DWORD) :
    CreatePhase → World Handles → Prop
  | .looking, w => StillLive T w.os ∧ w.writeCounts = counts
  | .folder error, w => StillLive T w.os ∧ w.writeCounts = counts ∧ w.lastError = error ∧
      (writes → ¬ (error ≠ ERROR_ALREADY_EXISTS ∨ disposition = CREATE_NEW))
  | .refused, w => ¬ writes ∧ w.writeCounts = counts
  | .opened h, w => (h ≠ 0 ∧ T.live h = none) ∧ w.writeCounts = counts
  | .counted h, w => (h ≠ 0 ∧ T.live h = none) ∧
      w.writeCounts = Function.update counts h (some ((counts h).getD 0))
  | .never, _ => False

/-- What a create returns in each phase. -/
def Returned (info : DokanFileInfo) (res : CreateResult) : CreatePhase → Prop
  | .looking | .refused => res.info.context = info.context
  | .opened h | .counted h => res.info.context = h
  | .folder _ => False
  | .never => True

theorem note_looks {disposition : DWORD} {e : Event Call Answer} (hc : e.call.looks) :
    note disposition .looking e = .looking := by
  obtain ⟨c, r⟩ := e
  cases c with
  | win32 x =>
    cases x with
    | createFile | createDirectory | closeHandle => exact hc.elim
    | _ => rfl
  | _ => rfl

theorem note_tried {disposition : DWORD} {q : CreatePhase} {e : Event Call Answer} (hq : q.tried = true)
    (hc : e.call.onCounts = false) : note disposition q e = q := by
  obtain ⟨c, r⟩ := e
  cases q with
  | opened h =>
    cases c with
    | insertWriteCount _ => cases hc
    | _ => rfl
  | refused => rfl
  | counted h => rfl
  | _ => cases hq

theorem onCounts_of_looks {c : Call} (hc : c.looks) : c.onCounts = false := by
  cases c with
  | insertWriteCount _ | eraseWriteCount _ | writeCount _ | setWriteCount _ _ | incWriteCount _ => cases hc
  | _ => rfl

variable {env : Env} {w w' : World Handles} {T : Handles} {counts : HANDLE → Option (BitVec 8)}
  {writes : Prop} {disposition : DWORD} {q : CreatePhase}

theorem live_use (T : Handles) (given : Option HANDLE) : (T.use given).live = T.live := by
  cases given with
  | none => rfl
  | some h => rfl

/-- Only closing a handle ends it. -/
theorem step_stillLive {c : Call} {r : Answer c} (hc : c.looks) (h : step env Handles.respond w c r w')
    (hlive : StillLive T w.os) : StillLive T w'.os := by
  obtain ⟨x, rfl⟩ | ⟨hos, -⟩ := step_aside h
  · obtain ⟨-, U, hU, rfl⟩ := h
    have huse : U = w.os.use x.given? → StillLive T U := by
      rintro rfl h n hn
      rw [live_use]
      exact hlive h n hn
    cases x with
    | createFile | createDirectory | closeHandle => exact hc.elim
    | dokanOpenRequestorToken =>
      cases r with
      | fail error => exact huse hU
      | ok token lastError =>
        obtain ⟨hfree, rfl⟩ : w.os.live token = none ∧ U = w.os.opening token false := hU
        intro h n hn
        have hn' := hlive h n hn
        refine Handles.update_eq_some.mpr (.inr ⟨?_, hn'⟩)
        rintro rfl
        rw [hfree] at hn'
        cases hn'
    | getHandleInformation h => exact huse hU.2
    | _ => exact huse hU
  · rw [hos]
    exact hlive

/-- A handle that was opened just now was none of those that were open at the start. -/
theorem live_of_opened {h : HANDLE} (hlive : StillLive T w.os) (hfree : w.os.live h = none) :
    T.live h = none := by
  cases hT : T.live h with
  | none => rfl
  | some n =>
    have hn := hlive h n hT
    rw [hfree] at hn
    cases hn

/-- **A step** of a create, if one that asks to write is not refused. -/
theorem Holds.step {c : Call} {r : Answer c} (hallow : Allows writes q c)
    (hholds : Holds T counts writes disposition q w) (h : step env Handles.respond w c r w')
    (hgranted : writes → ¬ CreateRefused disposition ⟨c, r⟩) :
    Holds T counts writes disposition (note disposition q ⟨c, r⟩) w' := by
  cases hallow with
  | look hc =>
    rw [note_looks hc]
    obtain ⟨hlive, hcounts⟩ := hholds
    exact ⟨step_stillLive hc h hlive, (step_writeCounts (onCounts_of_looks hc) h).trans hcounts⟩
  | makeFolder =>
    obtain ⟨hlive, hcounts⟩ := hholds
    obtain ⟨-, U, rfl, rfl⟩ := h
    have hlive' : StillLive T (w.os.use none) := hlive
    cases r with
    | ok u lastError => exact ⟨hlive', hcounts⟩
    | fail error => exact ⟨hlive', hcounts, rfl, hgranted⟩
  | openFile =>
    obtain ⟨hlive, hcounts⟩ := hholds
    obtain ⟨-, U, hU, rfl⟩ := h
    cases r with
    | fail error => exact ⟨fun hw => hgranted hw trivial, hcounts⟩
    | ok handle lastError => exact ⟨⟨handle.2.1, live_of_opened hlive hU.1⟩, hcounts⟩
  | @judge error =>
    obtain ⟨hlive, hcounts, hlast, hjudged⟩ := hholds
    obtain ⟨hr, hw'⟩ := h
    have hread : r = error := hr.trans hlast
    subst hread
    show Holds T counts writes disposition
      (if r ≠ r then .never else if r ≠ ERROR_ALREADY_EXISTS ∨ disposition = CREATE_NEW then .refused
        else .looking) w'
    rw [if_neg (not_not.mpr rfl), hw']
    split
    · next hfails => exact ⟨fun hw => hjudged hw hfails, hcounts⟩
    · exact ⟨hlive, hcounts⟩
  | settle hq hc =>
    rw [note_tried hq hc]
    have hcounts := step_writeCounts hc h
    cases q with
    | refused => exact ⟨hholds.1, hcounts.trans hholds.2⟩
    | opened handle => exact ⟨hholds.1, hcounts.trans hholds.2⟩
    | counted handle => exact ⟨hholds.1, hcounts.trans hholds.2⟩
    | _ => cases hq
  | count =>
    rw [show w' = _ from h]
    refine ⟨hholds.1, ?_⟩
    rw [← hholds.2]
  | lose hw => exact absurd hw hholds.1
  | never => exact hholds.elim

/-! ### The parts -/

/-- Started in phase `q`, the part keeps to the protocol, and `Q` holds of what it returns and of the
phase. -/
def Tries {α : Type} (writes : Prop) (disposition : DWORD) (p : Op α) (q : CreatePhase)
    (Q : α → CreatePhase → Prop) : Prop :=
  Follows (Allows writes) (note disposition) p q Q

section

variable {α β : Type} {Q : β → CreatePhase → Prop}

theorem tries_looks_bind {p : Op α} {f : α → Op β} (hp : OnlyCalls Call.looks p)
    (hf : ∀ a, Tries writes disposition (f a) .looking Q) :
    Tries writes disposition (p >>= f) .looking Q :=
  follows_onlyCalls_bind hp (fun _ hc => ⟨.look hc, fun _ => note_looks hc⟩) hf

theorem tries_tried_bind {p : Op α} {f : α → Op β} (hq : q.tried = true)
    (hp : OnlyCalls (fun c => c.onCounts = false) p) (hf : ∀ a, Tries writes disposition (f a) q Q) :
    Tries writes disposition (p >>= f) q Q :=
  follows_onlyCalls_bind hp (fun _ hc => ⟨.settle hq hc, fun _ => note_tried hq hc⟩) hf

theorem tries_never {p : Op β} (hQ : ∀ b, Q b .never) : Tries writes disposition p .never Q := by
  induction p with
  | done b => exact hQ b
  | call c k ih => exact ⟨.never, ih⟩

end

variable {info : DokanFileInfo} {l : CreateLocals} {request : CreateRequest}

theorem looks_impersonate {token : HANDLE} : OnlyCalls Call.looks (impersonate env token) :=
  onlyCalls_impersonate rfl fun _ _ => rfl

theorem looks_endImpersonation {token : HANDLE} {close : Bool} (hkept : close = false) :
    OnlyCalls Call.looks (endImpersonation env token close) :=
  onlyCalls_endImpersonation rfl (fun _ => rfl) rfl fun hclose => absurd (hkept.symm.trans hclose)
    Bool.false_ne_true

theorem uncounted_endImpersonation {token : HANDLE} {close : Bool} :
    OnlyCalls (fun c => c.onCounts = false) (endImpersonation env token close) :=
  onlyCalls_endImpersonation rfl (fun _ => rfl) rfl fun _ => rfl

theorem looks_makeNodeIf {b : Prop} [Decidable b] {isDirectory : Bool} :
    OnlyCalls Call.looks (makeNodeIf b request isDirectory) :=
  onlyCalls_makeNodeIf (fun _ => rfl) fun _ _ _ => rfl

/-- The end of a create that has no handle. -/
theorem tries_finish_refused {handle : HANDLE} {res : CreateResult} {Q : CreateResult → CreatePhase → Prop}
    (hQ : Q res .refused) :
    Tries (l.desiredAccess &&& FILE_WRITE_DATA ≠ 0) disposition (finishCreate l handle res) .refused Q := by
  unfold finishCreate Prog.onlyIf
  split
  · next hwrites => exact ⟨.lose hwrites, fun _ => ⟨.settle rfl rfl, fun _ => hQ⟩⟩
  · exact ⟨.settle rfl rfl, fun _ => hQ⟩

/-- The end of one that has. -/
theorem tries_finish_opened {handle : HANDLE} {res : CreateResult} (hres : res.info.context = handle) :
    Tries writes disposition (finishCreate l handle res) (.opened handle) (Returned info) := by
  unfold finishCreate Prog.onlyIf
  split
  · exact ⟨.count, fun _ => ⟨.settle rfl rfl, fun _ => hres⟩⟩
  · exact ⟨.settle rfl rfl, fun _ => hres⟩

theorem tries_createFile {path : WString} {access share d flags : DWORD} {sd : Option SecurityDescriptor} :
    Tries writes disposition (createFile path access share sd d flags) .looking (fun handle q =>
      handle = INVALID_HANDLE_VALUE ∧ q = .refused ∨
        (handle ≠ INVALID_HANDLE_VALUE ∧ handle ≠ 0) ∧ q = .opened handle) := by
  refine follows_call.mpr ⟨.openFile, ?_⟩
  intro r
  cases r with
  | fail error => exact .inl ⟨rfl, rfl⟩
  | ok handle lastError => exact .inr ⟨⟨handle.2.2, handle.2.1⟩, rfl⟩

/-- The first half of the directory branch: the folder is there, or the request is refused. -/
theorem tries_createFolder :
    Tries writes l.creationDisposition (createFolder env request l) .looking (fun made q =>
      made.1 = STATUS_SUCCESS ∧ q = .looking ∨ made.1 ≠ STATUS_SUCCESS ∧ q = .refused ∨ q = .never) := by
  unfold createFolder
  split
  · refine tries_looks_bind looks_impersonate fun _ => tries_looks_bind looks_makeNodeIf fun made => ?_
    -- the token is kept for the opening of the folder
    have hthere : Tries writes l.creationDisposition (do
        endImpersonation env l.userTokenHandle (decide (STATUS_SUCCESS ≠ STATUS_SUCCESS))
        pure (STATUS_SUCCESS, made.2)) .looking (fun made q => made.1 = STATUS_SUCCESS ∧ q = .looking ∨
          made.1 ≠ STATUS_SUCCESS ∧ q = .refused ∨ q = .never) :=
      tries_looks_bind (looks_endImpersonation rfl) fun _ => follows_pure.mpr (.inl ⟨rfl, rfl⟩)
    refine follows_call.mpr ⟨.makeFolder, ?_⟩
    intro r
    cases r with
    | ok u lastError => exact tries_looks_bind (onlyCalls_addIf fun _ => rfl) fun _ => hthere
    | fail error =>
      refine follows_call.mpr ⟨.judge, ?_⟩
      intro (x : DWORD)
      show Tries writes l.creationDisposition _ (if x ≠ error.1 then .never
        else if error.1 ≠ ERROR_ALREADY_EXISTS ∨ l.creationDisposition = CREATE_NEW then .refused
          else .looking) _
      by_cases hx : x = error.1
      · subst hx
        rw [if_neg (not_not.mpr rfl)]
        split
        · have hfailure : env.ntStatusFromWin32 error.1 ≠ STATUS_SUCCESS := env.ntStatus_error _ error.2
          refine tries_tried_bind rfl (onlyCalls_perform.mpr rfl) fun _ => follows_bind (follows_pure.mpr ?_)
          refine tries_tried_bind rfl uncounted_endImpersonation fun _ => follows_pure.mpr ?_
          exact .inr (.inl ⟨hfailure, rfl⟩)
        · exact hthere
      · rw [if_pos hx]
        exact tries_never fun _ => .inr (.inr rfl)
  · exact .inl ⟨rfl, rfl⟩

/-- The second half. -/
theorem tries_openFolder {sd : Option SecurityDescriptor} :
    Tries (l.desiredAccess &&& FILE_WRITE_DATA ≠ 0) l.creationDisposition
      (openFolder env request info l sd) .looking (Returned info) := by
  unfold openFolder
  split
  · exact rfl
  · refine tries_looks_bind looks_impersonate fun _ => follows_bind (tries_createFile.mono ?_)
    rintro handle q (⟨hinvalid, rfl⟩ | ⟨hvalid, rfl⟩)
    · refine tries_tried_bind rfl uncounted_endImpersonation fun _ => ?_
      rw [if_pos hinvalid]
      refine tries_tried_bind rfl (onlyCalls_perform.mpr rfl) fun error => ?_
      exact tries_tried_bind rfl (onlyCalls_perform.mpr rfl) fun _ => tries_finish_refused rfl
    · refine tries_tried_bind rfl uncounted_endImpersonation fun _ => ?_
      rw [if_neg hvalid.1]
      dsimp only
      split
      · exact rfl
      · exact tries_finish_opened rfl

theorem tries_directoryBranch :
    Tries (l.desiredAccess &&& FILE_WRITE_DATA ≠ 0) l.creationDisposition
      (directoryBranch env request info l) .looking (Returned info) := by
  refine follows_bind (tries_createFolder.mono ?_)
  rintro ⟨status, sd⟩ q (⟨hstatus, rfl⟩ | ⟨hstatus, rfl⟩ | rfl)
  · dsimp only
    rw [if_pos hstatus]
    exact tries_openFolder
  · dsimp only
    rw [if_neg hstatus]
    exact tries_finish_refused rfl
  · exact tries_never fun _ => trivial

theorem tries_fileBranch :
    Tries (l.desiredAccess &&& FILE_WRITE_DATA ≠ 0) l.creationDisposition
      (fileBranch env request info l) .looking (Returned info) := by
  unfold fileBranch
  split
  · exact rfl
  · refine tries_looks_bind looks_impersonate fun _ => tries_looks_bind looks_makeNodeIf fun made => ?_
    refine follows_bind (tries_createFile.mono ?_)
    rintro handle q (⟨hinvalid, rfl⟩ | ⟨hvalid, rfl⟩)
    · refine tries_tried_bind rfl uncounted_endImpersonation fun _ => ?_
      refine tries_tried_bind rfl (OnlyCalls.onlyIf fun _ => onlyCalls_addIf fun _ => rfl) fun _ => ?_
      rw [if_pos (.inl hinvalid)]
      refine tries_tried_bind rfl (onlyCalls_perform.mpr rfl) fun error => ?_
      exact tries_tried_bind rfl (onlyCalls_perform.mpr rfl) fun _ => tries_finish_refused rfl
    · refine tries_tried_bind rfl uncounted_endImpersonation fun _ => ?_
      refine tries_tried_bind rfl (OnlyCalls.onlyIf fun _ => onlyCalls_addIf fun _ => rfl) fun _ => ?_
      rw [if_neg (not_or.mpr hvalid)]
      have hopened := onlyCalls_openedFile (P := fun c => c.onCounts = false) (l := l)
        (fun _ _ => rfl) rfl fun _ _ => rfl
      exact tries_tried_bind rfl hopened fun _ => tries_finish_opened rfl

/-- **A create** keeps to the protocol. -/
theorem tries_create :
    Tries (passedAccess request.desiredAccess &&& FILE_WRITE_DATA ≠ 0)
      (userFlags env request).creationDisposition
      (mirrorCreateFile env request info) .looking (Returned info) := by
  refine tries_looks_bind (onlyCalls_filePathOf (P := Call.looks) rfl) fun filePath => ?_
  refine tries_looks_bind (onlyCalls_createPrelude (fun _ _ => rfl) (fun _ _ => rfl) fun _ => rfl)
    fun processName => ?_
  refine tries_looks_bind (Housekeeping.onlyCalls_getFileAttributes rfl) fun fileAttr => ?_
  split
  · exact tries_looks_bind (onlyCalls_perform.mpr rfl) fun _ => rfl
  · refine tries_looks_bind (onlyCalls_openToken (fun _ _ => rfl) rfl) fun token => ?_
    have hreturned : ∀ {info' : DokanFileInfo} {l : CreateLocals}, info'.context = info.context →
        l.desiredAccess = passedAccess request.desiredAccess →
        l.creationDisposition = (userFlags env request).creationDisposition →
        Tries (passedAccess request.desiredAccess &&& FILE_WRITE_DATA ≠ 0)
          (userFlags env request).creationDisposition
          (if info'.isDirectory = true then directoryBranch env request info' l
            else fileBranch env request info' l) .looking (Returned info) := by
      intro info' l hcontext haccess hdisposition
      have hsame : Returned info' = Returned info := by
        funext res q
        cases q with
        | looking | refused => exact congrArg (res.info.context = ·) hcontext
        | _ => rfl
      rw [← haccess, ← hdisposition, ← hsame]
      split
      · exact tries_directoryBranch
      · exact tries_fileBranch
    refine hreturned ?_ rfl rfl
    split
    · rfl
    · rfl

end CreatePhase

/-! ## The counts it leaves -/

/-- What a create that left `context` has made of the counts: nothing, or an entry for the handle it
opened, which was not open before. -/
inductive Counted (T : Handles) (counts : HANDLE → Option (BitVec 8)) (context₀ : HANDLE) :
    HANDLE → (HANDLE → Option (BitVec 8)) → Prop
  | unopened : Counted T counts context₀ context₀ counts
  | opened {h : HANDLE} : h ≠ 0 ∧ T.live h = none → Counted T counts context₀ h counts
  | counted {h : HANDLE} : h ≠ 0 ∧ T.live h = none →
      Counted T counts context₀ h (Function.update counts h (some ((counts h).getD 0)))

theorem Counted.inv {T : Handles} {counts counts' : HANDLE → Option (BitVec 8)} {context₀ context : HANDLE}
    (h : Counted T counts context₀ context counts') :
    context = context₀ ∧ counts' = counts ∨
      (context ≠ 0 ∧ T.live context = none) ∧
        (counts' = counts ∨ counts' = Function.update counts context (some ((counts context).getD 0))) := by
  cases h with
  | unopened => exact .inl ⟨rfl, rfl⟩
  | opened hfree => exact .inr ⟨hfree, .inl rfl⟩
  | counted hfree => exact .inr ⟨hfree, .inr rfl⟩

/-- **A create**, if it does not ask to write or is not refused. -/
theorem counted_create {env : Env} {request : CreateRequest} {info : DokanFileInfo} {w w' : World Handles}
    {tr : Trace} {res : CreateResult}
    (h : Run (step env Handles.respond) (mirrorCreateFile env request info) w tr res w')
    (hgranted : ∀ e ∈ tr, passedAccess request.desiredAccess &&& FILE_WRITE_DATA ≠ 0 →
      ¬ CreateRefused (userFlags env request).creationDisposition e) :
    Counted w.os w.writeCounts info.context res.info.context w'.writeCounts := by
  obtain ⟨q, hreturned, hholds⟩ := CreatePhase.tries_create.run
    (J := CreatePhase.Holds w.os w.writeCounts (passedAccess request.desiredAccess &&& FILE_WRITE_DATA ≠ 0)
      (userFlags env request).creationDisposition)
    (fun _ _ _ _ _ hallow hholds hstep hgranted => hholds.step hallow hstep hgranted)
    ⟨fun _ _ hn => hn, rfl⟩ h hgranted
  cases q with
  | looking =>
    rw [hholds.2, show res.info.context = info.context from hreturned]
    exact .unopened
  | refused =>
    rw [hholds.2, show res.info.context = info.context from hreturned]
    exact .unopened
  | opened handle =>
    rw [hholds.2, show res.info.context = handle from hreturned]
    exact .opened hholds.1
  | counted handle =>
    rw [hholds.2, show res.info.context = handle from hreturned]
    exact .counted hholds.1
  | folder error => exact hreturned.elim
  | never => exact hholds.elim

end SeamlessSmb
