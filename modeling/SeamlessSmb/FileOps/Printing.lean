/-
# `FileOps.Printing` — one callback, with debugging on and off

Printing may do anything to the last error.  A callback that reads the error before it prints
comes to the same with debugging on as with debugging off; most are written that way.

Two plays of a program under one script are followed side by side, with the same printed, but the
last error left alone in the first.  Printing taints the last error; what takes the taint away is a
call of the platform that fails, or one of the few whose success sets the error too.

| | |
| :-- | :-- |
| `t.Like b t'` | the turns differ in the last error at most, and only if `b` |
| `Alike s env printed b p Q` | from such turns `p` comes to the same; `Q` sees to what, and the taint |
| `Indifferent s env printed b p` | the same, without `Q` |

`Alike` has the rules of a triple.  Its rule for `getLastError` wants no taint; the one place
where a tainted error is read, to be restored afterwards, is `alike_endImpersonation`.

**Proved here:** what printing makes of the last error has no influence on twenty of the twenty-four
callbacks.
-/
import SeamlessSmb.FileOps.Script
import SeamlessSmb.FileOps.Attributes
import SeamlessSmb.FileOps.Create
import SeamlessSmb.FileOps.Delete
import SeamlessSmb.FileOps.Information
import SeamlessSmb.FileOps.Lifetime
import SeamlessSmb.FileOps.Move
import SeamlessSmb.FileOps.ReadWrite
import SeamlessSmb.FileOps.Security
import SeamlessSmb.FileOps.Volume

namespace SeamlessSmb

open Calls

/-! ## Two plays at once -/

/-- Two turns that differ in the last error at most, and not even there unless `b`. -/
def Turn.Like (b : Bool) (t t' : Turn) : Prop :=
  ∃ e, (b = false → e = t.world.lastError) ∧ t' = { t with world := t.leave e }

theorem Turn.Like.refl {b : Bool} {t : Turn} : t.Like b t := ⟨t.world.lastError, fun _ => rfl, rfl⟩

theorem Turn.Like.taint {b : Bool} {t t' : Turn} (h : t.Like b t') : t.Like true t' := by
  obtain ⟨e, -, ht'⟩ := h
  exact ⟨e, nofun, ht'⟩

/-- The call neither reads nor restores the last error, and does not leave the program. -/
def Call.plain : Call → Bool
  | .getLastError | .setLastError _ | .win32 _ => false
  | _ => true

/-- The call prints, or may. -/
def Call.prints : Call → Bool
  | .print _ _ | .printSD (some _) _ | .printOwner _ | .getDescriptor _ | .setDescriptor _ _ _
  | .createDefaultSelfRelativeSD => true
  | _ => false

section

variable {s : Script} {env : Env} {printed : Printing} {b : Bool} {α β : Type}

/-- From like turns a plain call gives the same answer, and leaves like turns. -/
theorem resolve_like {t t' : Turn} {c : Call} (h : t.Like b t') (hc : c.plain = true) :
    Option.Rel (fun x y => y.1 = x.1 ∧ x.2.Like (b || c.prints) y.2) (s.resolve env printed.hushed t c)
      (s.resolve env printed t' c) := by
  obtain ⟨e, he, rfl⟩ := h
  have hprints : ∀ {x y : DWORD}, (b || true) = false → x = y := fun h => by
    rw [Bool.or_true] at h
    cases h
  have hown : (b || false) = false → e = t.world.lastError := fun h => he (by rwa [Bool.or_false] at h)
  cases c with
  | getLastError | setLastError _ | win32 _ => cases hc
  | invalidParameter => exact .none
  | printSD sd num =>
      cases sd with
      | none => exact .some ⟨rfl, _, hown, rfl⟩
      | some sd =>
          cases hfaults : printed.on && env.nullDacl sd with
          | true =>
              have hhushed : (printed.hushed.on && env.nullDacl sd) = true := hfaults
              rw [resolve_faults hhushed, resolve_faults hfaults]
              exact .none
          | false =>
              have hhushed : (printed.hushed.on && env.nullDacl sd) = false := hfaults
              rw [resolve_printSD hhushed, resolve_printSD hfaults]
              exact .some ⟨rfl, _, hprints, rfl⟩
  | print _ _ | printOwner _ | getDescriptor _ | setDescriptor _ _ _ | createDefaultSelfRelativeSD =>
      exact .some ⟨rfl, _, hprints, rfl⟩
  | makeShared node => exact .some ⟨rfl, _, fun h => congrArg (s.left t.calls) (hown h), rfl⟩
  | findFileNode _ | addFileNode _ | rename _ _ | deleteFileNode _ | lockData _ | unlockData _
  | insertWriteCount _ | eraseWriteCount _ | writeCount _ | setWriteCount _ _ | incWriteCount _
  | readCache | copyCacheData _ _ | allocCacheData _ | storeCacheData _ | storeCacheInfo _
  | setNotAvailable => exact .some ⟨rfl, _, hown, rfl⟩

/-- What the printing does, `p` comes to the same from turns that are like.  `Q` sees what it
comes to, and whether the last errors may differ then. -/
def Alike (s : Script) (env : Env) (printed : Printing) (b : Bool) (p : Op α) (Q : Bool → α → Prop) :
    Prop :=
  ∀ ⦃t t'⦄, t.Like b t' → Twins (s.resolve env printed.hushed) (s.resolve env printed) p p t t'
    fun _ a u a' u' => a' = a ∧ ∃ b', u.Like b' u' ∧ Q b' a

variable {p : Op α} {P Q : Bool → α → Prop}

theorem Alike.mono (h : Alike s env printed b p P) (hPQ : ∀ b' a, P b' a → Q b' a) :
    Alike s env printed b p Q := by
  intro t t' ht
  refine (h ht).mono fun _ a u a' u' ⟨ha, b', hu, hP⟩ => ?_
  exact ⟨ha, b', hu, hPQ b' a hP⟩

theorem alike_pure {a : α} (h : Q b a) : Alike s env printed b (pure a) Q :=
  fun _ _ ht => twins_pure ⟨rfl, b, ht, h⟩

theorem alike_bind {f : α → Op β} {Q : Bool → β → Prop} (hp : Alike s env printed b p P)
    (hf : ∀ b' a, P b' a → Alike s env printed b' (f a) Q) : Alike s env printed b (p >>= f) Q := by
  intro t t' ht
  refine twins_bind ((hp ht).mono fun tr a u a' u' ⟨ha, b', hu, hP⟩ => ?_)
  rw [ha]
  exact hf b' a hP hu

/-- A plain call. -/
theorem alike_call {c : Call} {f : Answer c → Op β} {Q : Bool → β → Prop} (hc : c.plain = true)
    (hf : ∀ r, Alike s env printed (b || c.prints) (f r) Q) :
    Alike s env printed b (Prog.perform c >>= f) Q := by
  intro t t' ht
  refine twins_related (resolve_like ht hc) fun x y ⟨hanswer, hlike⟩ => ?_
  rw [hanswer]
  exact hf x.1 hlike

/-- The last error is read while it is the same. -/
theorem alike_getLastError {f : DWORD → Op β} {Q : Bool → β → Prop}
    (hf : ∀ e, Alike s env printed false (f e) Q) :
    Alike s env printed false (getLastError >>= f) Q := by
  intro t t' ht
  obtain ⟨e, he, rfl⟩ := ht
  rw [he rfl]
  exact twins_call rfl rfl (hf _ Turn.Like.refl)

/-- The last error a success leaves. -/
def Script.okError (s : Script) (k : ℕ) (c : Win32Call) (v : c.Value) (lastError e : DWORD) : DWORD :=
  if s.keeps k = true ∧ c.sets v = false then lastError else e

theorem resolve_ok {t : Turn} {c : Win32Call} {v : c.Value} {e : DWORD}
    (h : s.outcome t.calls c = .ok v e) :
    s.resolve env printed t (.win32 c) =
      some (.ok v (s.okError t.calls c v t.world.lastError e),
        t.next (t.leave (s.okError t.calls c v t.world.lastError e))) := by
  simp only [Script.resolve, Script.answer, h]
  rfl

theorem resolve_fail {t : Turn} {c : Win32Call} {e : Win32Error} (h : s.outcome t.calls c = .fail e) :
    s.resolve env printed t (.win32 c) = some (.fail e, t.next (t.leave e)) := by
  simp only [Script.resolve, Script.answer, h]
  rfl

variable (env printed) in
/-- A success is one on both sides, and may leave the last error alone. -/
theorem resolve_ok_like {t t' : Turn} {c : Win32Call} {v : c.Value} {e : DWORD} (ht : t.Like b t')
    (h : s.outcome t.calls c = .ok v e) :
    ∃ e₁ e₂ u u', s.resolve env printed.hushed t (.win32 c) = some (.ok v e₁, u) ∧
      s.resolve env printed t' (.win32 c) = some (.ok v e₂, u') ∧ u.Like (b && !c.sets v) u' := by
  obtain ⟨e', he, rfl⟩ := ht
  refine ⟨_, _, _, _, resolve_ok h, resolve_ok h, s.okError t.calls c v e' e, fun hb => ?_, rfl⟩
  show s.okError t.calls c v e' e = s.okError t.calls c v t.world.lastError e
  unfold Script.okError
  cases hsets : c.sets v with
  | true => rw [if_neg fun h => Bool.noConfusion h.2, if_neg fun h => Bool.noConfusion h.2]
  | false =>
      rw [hsets, Bool.not_false, Bool.and_true] at hb
      rw [he hb]

variable (env printed) in
/-- A failure is one on both sides, with the same error. -/
theorem resolve_fail_like {t t' : Turn} {c : Win32Call} {e : Win32Error} (ht : t.Like b t')
    (h : s.outcome t.calls c = .fail e) :
    ∃ u u', s.resolve env printed.hushed t (.win32 c) = some (.fail e, u) ∧
      s.resolve env printed t' (.win32 c) = some (.fail e, u') ∧ u.Like false u' := by
  obtain ⟨e', he, rfl⟩ := ht
  exact ⟨_, _, resolve_fail h, resolve_fail h, .refl⟩

/-- A call of the platform. -/
theorem alike_win32 {c : Win32Call} {f : Outcome c.Value → Op β} {Q : Bool → β → Prop}
    (hf : ∀ v e e', f (.ok v e) = f (.ok v e'))
    (hok : ∀ v e, Alike s env printed (b && !c.sets v) (f (.ok v e)) Q)
    (hfail : ∀ e, Alike s env printed false (f (.fail e)) Q) :
    Alike s env printed b (win32 c >>= f) Q := by
  intro t t' ht
  cases houtcome : s.outcome t.calls c with
  | fail e =>
      obtain ⟨u, u', hu, hu', hlike⟩ := resolve_fail_like env printed ht houtcome
      exact twins_perform hu hu' (hfail e hlike)
  | ok v e =>
      obtain ⟨e₁, e₂, u, u', hu, hu', hlike⟩ := resolve_ok_like env printed ht houtcome
      refine twins_perform hu hu' ?_
      rw [hf v e₂ e₁]
      exact hok v e₁ hlike

theorem alike_win32_any {c : Win32Call} {f : Outcome c.Value → Op β} {Q : Bool → β → Prop}
    (hf : ∀ v e e', f (.ok v e) = f (.ok v e')) (hrest : ∀ b' r, Alike s env printed b' (f r) Q) :
    Alike s env printed b (win32 c >>= f) Q :=
  alike_win32 hf (fun v e => hrest _ (.ok v e)) fun e => hrest _ (.fail e)

/-- A printing that comes to nothing else. -/
abbrev Indifferent (s : Script) (env : Env) (printed : Printing) (b : Bool) (p : Op α) : Prop :=
  Alike s env printed b p fun _ _ => True

/-! ## The parts of the callbacks -/

theorem alike_seq {f : α → Op β} {Q : Bool → β → Prop} (hp : Indifferent s env printed b p)
    (hf : ∀ b' a, Alike s env printed b' (f a) Q) : Alike s env printed b (p >>= f) Q :=
  alike_bind hp fun b' a _ => hf b' a

theorem alike_onlyIf {c : Prop} [Decidable c] {p : Op Unit} {Q : Bool → Unit → Prop}
    (hp : Alike s env printed b p Q) (hQ : Q b ()) : Alike s env printed b (Prog.onlyIf c p) Q := by
  unfold Prog.onlyIf
  split
  · exact hp
  · exact alike_pure hQ

theorem alike_print {format : String} {args : List PrintArg} :
    Indifferent s env printed b (print format args) :=
  alike_call rfl fun _ => alike_pure trivial

theorem alike_printIf {c : Prop} [Decidable c] {format : String} {args : List PrintArg} :
    Indifferent s env printed b (Prog.onlyIf c (print format args)) := alike_onlyIf alike_print trivial

theorem alike_filePathOf {g : Globals} {fileName : WString} :
    Indifferent s env printed b (filePathOf g fileName) := by
  unfold filePathOf
  cases getFilePath g DOKAN_MAX_PATH fileName with
  | some path => exact alike_pure trivial
  | none => exact fun t t' _ => twins_refused rfl rfl

theorem alike_checkFlags {value : DWORD} {flags : List (DWORD × String)} :
    Indifferent s env printed b (checkFlags value flags) := by
  induction flags generalizing b with
  | nil => exact alike_pure trivial
  | cons flag flags ih => exact alike_seq alike_printIf fun _ _ => ih

/-- A call of the platform whose outcome changes nothing. -/
theorem alike_ignore {c : Win32Call} {p : Op β} {Q : Bool → β → Prop}
    (hp : ∀ b', Alike s env printed b' p Q) :
    Alike s env printed b (win32 c >>= fun _ => p) Q :=
  alike_win32_any (fun _ _ _ => rfl) fun b' _ => hp b'

theorem alike_closeHandle {handle : HANDLE} : Indifferent s env printed b (closeHandle handle) :=
  alike_ignore fun _ => alike_pure trivial

theorem alike_closeOpened {handle : HANDLE} {opened : Bool} :
    Indifferent s env printed b (closeOpened handle opened) :=
  alike_onlyIf alike_closeHandle trivial

theorem alike_getFileAttributes {path : WString} :
    Indifferent s env printed b (getFileAttributes path) :=
  alike_win32 (fun _ _ _ => rfl) (fun _ _ => alike_pure trivial) fun _ => alike_pure trivial

/-- After a handle that is none the last error is the same, and for the dispositions that open
or create after any. -/
theorem alike_createFile {path : WString} {access share disposition flags : DWORD}
    {sd : Option SecurityDescriptor} :
    Alike s env printed b (createFile path access share sd disposition flags) fun b' handle =>
      handle = INVALID_HANDLE_VALUE ∨ handle = 0 ∨ disposition = CREATE_ALWAYS ∨
        disposition = OPEN_ALWAYS → b' = false := by
  refine alike_win32 (fun _ _ _ => rfl) (fun v e => alike_pure ?_) fun e => alike_pure fun _ => rfl
  rintro (h | h | h)
  · exact absurd h v.2.2
  · exact absurd h v.2.1
  · have hsets : Win32Call.sets (.createFile path access share sd disposition flags) v = true :=
      decide_eq_true h
    rw [hsets, Bool.not_true, Bool.and_false]

/-- A read error, printed and mapped. -/
theorem alike_report {format : String} {args : DWORD → List PrintArg} {f : DWORD → Op β}
    {Q : Bool → β → Prop} (hf : ∀ b' e, Alike s env printed b' (f e) Q) :
    Alike s env printed false
      (getLastError >>= fun e => print format (args e) >>= fun _ => f e) Q :=
  alike_getLastError fun e => alike_seq alike_print fun _ _ => hf _ e

theorem alike_reportStatus {format : String} :
    Indifferent s env printed false (reportStatus env format) :=
  alike_report fun _ _ => alike_pure trivial

theorem alike_reportError {format : String} {args : DWORD → List PrintArg} {handle : HANDLE}
    {opened : Bool} : Indifferent s env printed false (reportError env format args handle opened) :=
  alike_report fun _ _ => alike_seq alike_closeOpened fun _ _ => alike_pure trivial

theorem alike_reopen {path : Op WString} {access share : DWORD} {note : Op Unit} {info : DokanFileInfo}
    (hpath : ∀ b', Indifferent s env printed b' path) (hnote : ∀ b', Indifferent s env printed b' note) :
    Indifferent s env printed b (reopen env path access share note info) := by
  unfold reopen
  split
  · refine alike_seq alike_print fun _ _ => alike_seq (hpath _) fun _ filePath => ?_
    refine alike_bind alike_createFile fun b' handle hlast => ?_
    split
    · next hnone =>
        rw [hlast (.inl hnone)]
        exact alike_report fun _ _ => alike_pure trivial
    · exact alike_seq (hnote _) fun _ _ => alike_pure trivial
  · exact alike_pure trivial

theorem alike_onHandle {format : String} {args : WString → List PrintArg} {fileName : WString}
    {info : DokanFileInfo} {body : HANDLE → Op NTSTATUS}
    (hbody : ∀ b' handle, Indifferent s env printed b' (body handle)) :
    Indifferent s env printed b (onHandle env format args fileName info body) := by
  refine alike_seq alike_filePathOf fun _ filePath => alike_seq alike_print fun _ _ => ?_
  split
  · exact alike_seq alike_print fun _ _ => alike_pure trivial
  · exact hbody _ _

theorem alike_carryOut {c : Win32Call} {success failure : String} :
    Indifferent s env printed b (carryOut env c success failure) :=
  alike_win32 (fun _ _ _ => rfl) (fun _ _ => alike_seq alike_print fun _ _ => alike_pure trivial)
    fun _ => alike_reportStatus

/-- The end of an impersonation leaves the last error as it finds it. -/
theorem alike_endImpersonation {token : HANDLE} {close : Bool} :
    Alike s env printed b (endImpersonation env token close) fun b' _ => b = false → b' = false := by
  refine alike_onlyIf (fun t t' ⟨e, he, ht'⟩ => ?_) id
  subst ht'
  have hclose : Indifferent s env printed b (Prog.onlyIf (close = true) (closeHandle token)) :=
    alike_onlyIf alike_closeHandle trivial
  have hrevert : ∀ b', Indifferent s env printed b' (win32 .revertToSelf >>= fun _ => pure ()) :=
    fun _ => alike_ignore fun _ => alike_pure trivial
  have hread : (t.next t.world).Like b (Turn.next { t with world := t.leave e } (t.leave e)) :=
    ⟨e, he, rfl⟩
  refine twins_perform rfl rfl (twins_bind ((hclose hread).mono fun _ _ u _ u' ⟨_, _, hu, _⟩ => ?_))
  -- each side restores what it has read
  show Twins _ _ ((win32 .revertToSelf >>= fun _ => pure ()) >>= fun _ => setLastError t.world.lastError)
    ((win32 .revertToSelf >>= fun _ => pure ()) >>= fun _ => setLastError e) _ _ _
  refine twins_bind ((hrevert _ hu).mono fun _ _ v _ v' ⟨_, _, ⟨_, _, hv'⟩, _⟩ => ?_)
  subst hv'
  exact twins_call rfl rfl (twins_pure ⟨rfl, b, ⟨e, he, rfl⟩, id⟩)

/-! ## The callbacks printing has no influence on -/

section

variable {fileName : WString} {info : DokanFileInfo}

theorem alike_flushFileBuffers :
    Indifferent s env printed b (mirrorFlushFileBuffers env fileName info) := by
  refine alike_seq alike_filePathOf fun _ filePath => alike_seq alike_print fun _ _ => ?_
  split
  · exact alike_seq alike_print fun _ _ => alike_pure trivial
  · exact alike_win32 (fun _ _ _ => rfl) (fun _ _ => alike_pure trivial)
      fun _ => alike_report fun _ _ => alike_pure trivial

theorem alike_setEndOfFile {byteOffset : BitVec 64} :
    Indifferent s env printed b (mirrorSetEndOfFile env fileName byteOffset info) :=
  alike_onHandle fun _ _ =>
    alike_win32 (fun _ _ _ => rfl) (fun _ _ => alike_pure trivial) fun _ => alike_pure trivial

theorem alike_setAllocationSize {allocSize : BitVec 64} :
    Indifferent s env printed b (mirrorSetAllocationSize env fileName allocSize info) := by
  refine alike_onHandle fun _ handle => ?_
  refine alike_win32 (fun _ _ _ => rfl) (fun fileSize _ => ?_) fun _ => alike_reportStatus
  dsimp only
  split
  · refine alike_win32 (fun _ _ _ => rfl) (fun _ _ => ?_) fun _ => alike_report fun _ _ => alike_pure trivial
    exact alike_win32 (fun _ _ _ => rfl) (fun _ _ => alike_pure trivial) fun _ => alike_reportStatus
  · exact alike_pure trivial

theorem alike_setFileAttributes {fileAttributes : DWORD} :
    Indifferent s env printed b (mirrorSetFileAttributes env fileName fileAttributes) := by
  refine alike_seq alike_filePathOf fun _ filePath => alike_seq alike_print fun _ _ => ?_
  split
  · exact alike_carryOut
  · exact alike_seq alike_print fun _ _ => alike_seq alike_print fun _ _ => alike_pure trivial

theorem alike_setFileTime {creationTime lastAccessTime lastWriteTime : Option FILETIME} :
    Indifferent s env printed b
      (mirrorSetFileTime env fileName creationTime lastAccessTime lastWriteTime info) :=
  alike_onHandle fun _ _ => alike_carryOut

theorem alike_lockFile {byteOffset length : BitVec 64} :
    Indifferent s env printed b (mirrorLockFile env fileName byteOffset length info) :=
  alike_onHandle fun _ _ => alike_carryOut

theorem alike_unlockFile {byteOffset length : BitVec 64} :
    Indifferent s env printed b (mirrorUnlockFile env fileName byteOffset length info) :=
  alike_onHandle fun _ _ => alike_carryOut

theorem alike_passCheck : Indifferent s env printed b (passCheck fileName) :=
  alike_call rfl fun _ => alike_pure trivial

theorem alike_deleteDirectory : Indifferent s env printed b (deleteDirectory env fileName info) := by
  refine alike_seq alike_filePathOf fun _ filePath => alike_seq alike_print fun _ _ => ?_
  split
  · exact alike_pure trivial
  split
  · exact alike_pure trivial
  refine alike_win32 (fun _ _ _ => rfl) (fun listing _ => ?_) fun _ =>
    alike_report fun _ _ => alike_pure trivial
  show Indifferent s env printed _ (checkEntries env fileName listing)
  unfold checkEntries
  split
  · exact alike_ignore fun _ => alike_seq alike_print fun _ _ => alike_pure trivial
  · refine alike_ignore fun _ => ?_
    split
    · exact alike_seq alike_print fun _ _ => alike_pure trivial
    · exact alike_passCheck

theorem alike_cleanup : Indifferent s env printed b (mirrorCleanup env fileName info) := by
  refine alike_seq alike_filePathOf fun _ filePath => alike_seq ?_ fun _ closed => alike_seq ?_ fun _ _ => ?_
  · unfold closeContext
    split
    · refine alike_seq alike_print fun _ _ => alike_call rfl fun _ => ?_
      exact alike_seq alike_closeHandle fun _ _ => alike_pure trivial
    · exact alike_seq alike_print fun _ _ => alike_pure trivial
  · unfold deleteOnClose
    split
    · refine alike_seq alike_print fun _ _ => ?_
      split
      · refine alike_seq alike_print fun _ _ => ?_
        exact alike_win32 (fun _ _ _ => rfl) (fun _ _ => alike_print) fun _ =>
          alike_getLastError fun _ => alike_print
      · refine alike_seq alike_print fun _ _ => ?_
        exact alike_win32 (fun _ _ _ => rfl) (fun _ _ => alike_print) fun _ =>
          alike_getLastError fun _ => alike_print
    · exact alike_pure trivial
  · exact alike_pure trivial

theorem alike_closeFile : Indifferent s env printed b (mirrorCloseFile env fileName info) := by
  refine alike_seq alike_filePathOf fun _ filePath => ?_
  split
  · refine alike_win32 (fun _ _ _ => rfl) (fun _ _ => ?_) fun _ => ?_
    · refine alike_seq alike_print fun _ _ => alike_seq alike_print fun _ _ => ?_
      exact alike_seq alike_closeHandle fun _ _ => alike_pure trivial
    · exact alike_getLastError fun _ => alike_pure trivial
  · exact alike_pure trivial

theorem alike_newPathOf {g : Globals} {newFileName : WString} :
    Indifferent s env printed b (newPathOf g newFileName) := by
  unfold newPathOf
  split
  · exact alike_filePathOf
  · cases wcsncpyS DOKAN_MAX_PATH newFileName newFileName.length with
    | some path => exact alike_pure trivial
    | none => exact fun t t' _ => twins_refused rfl rfl

theorem alike_moveFile {newFileName : WString} {replaceIfExisting : Bool} :
    Indifferent s env printed b (mirrorMoveFile env fileName newFileName replaceIfExisting info) := by
  refine alike_seq alike_filePathOf fun _ filePath => alike_seq alike_newPathOf fun _ newFilePath => ?_
  refine alike_seq alike_print fun _ _ => ?_
  split
  · exact alike_seq alike_print fun _ _ => alike_pure trivial
  · refine alike_win32 (fun _ _ _ => rfl) (fun _ _ => ?_) fun _ => alike_pure trivial
    exact alike_win32 (fun _ _ _ => rfl) (fun _ _ => alike_call rfl fun _ => alike_pure trivial)
      fun _ => alike_report fun _ _ => alike_pure trivial

theorem alike_countWrite {handle : HANDLE} : Indifferent s env printed b (countWrite handle) := by
  refine alike_call rfl fun count => ?_
  split
  · exact alike_ignore fun _ => alike_call (f := pure) rfl fun _ => alike_pure trivial
  · exact alike_call (f := pure) rfl fun _ => alike_pure trivial

theorem alike_writeAtPointer {buffer : List Byte} {count : DWORD} {offset : BitVec 64} {handle : HANDLE}
    {opened : Bool} : Indifferent s env printed b (writeAtPointer env buffer count offset handle opened) := by
  refine alike_win32 (fun _ _ _ => rfl) (fun written _ => ?_) fun _ => ?_
  · refine alike_seq alike_countWrite fun _ _ => alike_seq alike_print fun _ _ => ?_
    exact alike_seq alike_closeOpened fun _ _ => alike_pure trivial
  · exact alike_seq alike_reportError fun _ _ => alike_pure trivial

/-- A size that looks like the error value is read as an error, and the last error was set then. -/
theorem alike_writeAt {buffer : List Byte} {count : DWORD} {offset : BitVec 64} {handle : HANDLE}
    {opened : Bool} :
    Indifferent s env printed b (writeAt env buffer count offset info handle opened) := by
  refine alike_win32 (fun _ _ _ => rfl) (fun fileSize _ => ?_) fun _ => ?_
  · dsimp only
    split
    · next hsize =>
        have hsets : Win32Call.sets (.getFileSize handle) fileSize = true := decide_eq_true hsize
        rw [hsets, Bool.not_true, Bool.and_false]
        exact alike_seq alike_reportError fun _ _ => alike_pure trivial
    · split
      · exact alike_seq alike_closeOpened fun _ _ => alike_pure trivial
      · exact alike_win32 (fun _ _ _ => rfl) (fun _ _ => alike_writeAtPointer)
          fun _ => alike_seq alike_reportError fun _ _ => alike_pure trivial
  · exact alike_seq alike_reportError fun _ _ => alike_pure trivial

theorem alike_writeFile {buffer : List Byte} {count : DWORD} {offset : BitVec 64} :
    Indifferent s env printed b (mirrorWriteFile env fileName buffer count offset info) := by
  refine alike_seq alike_print fun _ _ => ?_
  refine alike_seq (alike_reopen (fun _ => alike_filePathOf) fun _ => alike_print) fun _ file => ?_
  cases file with
  | error status => exact alike_pure trivial
  | ok file =>
      dsimp only
      split
      · exact alike_win32 (fun _ _ _ => rfl) (fun _ _ => alike_writeAtPointer)
          fun _ => alike_seq alike_reportError fun _ _ => alike_pure trivial
      · exact alike_writeAt

theorem alike_findInformation {filePath : WString} {information : ByHandleFileInformation}
    {handle : HANDLE} {opened : Bool} :
    Indifferent s env printed b (findInformation env fileName filePath information handle opened) := by
  refine alike_win32 (fun _ _ _ => rfl) (fun found _ => alike_seq alike_print fun _ _ => alike_pure trivial)
    fun _ => alike_report fun _ error => ?_
  split
  · refine alike_seq alike_print fun _ _ => ?_
    exact alike_seq alike_getFileAttributes fun _ _ => alike_pure trivial
  · refine alike_win32 (fun _ _ _ => rfl) (fun find _ => ?_) fun _ => ?_
    · exact alike_seq alike_print fun _ _ => alike_ignore fun _ => alike_pure trivial
    · exact alike_seq alike_reportError fun _ _ => alike_pure trivial

theorem alike_getFileInformation {information : ByHandleFileInformation} :
    Indifferent s env printed b (mirrorGetFileInformation env fileName information info) := by
  refine alike_call rfl fun cache => ?_
  split
  · exact alike_pure trivial
  refine alike_seq alike_filePathOf fun _ filePath => alike_seq alike_print fun _ _ => ?_
  refine alike_seq (alike_reopen (fun _ => alike_pure trivial) fun _ => alike_pure trivial) fun _ file => ?_
  cases file with
  | error status => exact alike_pure trivial
  | ok file =>
      refine alike_seq alike_findInformation fun _ found => ?_
      cases found with
      | error status => exact alike_pure trivial
      | ok found =>
          refine alike_seq alike_print fun _ _ => alike_seq alike_print fun _ _ => ?_
          refine alike_seq alike_checkFlags fun _ _ => alike_call rfl fun cache => ?_
          refine alike_seq (alike_onlyIf (alike_call (f := pure) rfl fun _ => alike_pure trivial) trivial)
            fun _ _ => ?_
          exact alike_seq alike_closeOpened fun _ _ => alike_pure trivial

theorem alike_findFiles : Indifferent s env printed b (mirrorFindFiles env fileName) := by
  refine alike_seq alike_filePathOf fun _ filePath => alike_seq alike_print fun _ _ => ?_
  split
  · exact alike_pure trivial
  · refine alike_win32 (fun _ _ _ => rfl) (fun listing _ => alike_ignore fun _ => ?_) fun _ => ?_
    · split
      · exact alike_seq alike_print fun _ _ => alike_pure trivial
      · exact alike_seq alike_print fun _ _ => alike_pure trivial
    · exact alike_seq alike_reportStatus fun _ _ => alike_pure trivial

theorem alike_findStreams {accepts : Nat → Bool} :
    Indifferent s env printed b (mirrorFindStreams env fileName accepts) := by
  refine alike_seq alike_filePathOf fun _ filePath => alike_seq alike_print fun _ _ => ?_
  refine alike_win32 (fun _ _ _ => rfl) (fun listing _ => alike_ignore fun _ => ?_) fun _ => ?_
  · split
    · exact alike_seq alike_print fun _ _ => alike_pure trivial
    · split
      · exact alike_seq alike_print fun _ _ => alike_pure trivial
      · exact alike_seq alike_print fun _ _ => alike_pure trivial
  · exact alike_seq alike_reportStatus fun _ _ => alike_pure trivial

/-! `MirrorCreateFile`. -/

theorem alike_impersonate {token : HANDLE} : Indifferent s env printed b (impersonate env token) :=
  alike_onlyIf (alike_win32_any (fun _ _ _ => rfl) fun _ _ => alike_printIf) trivial

theorem alike_makeNodeIf {c : Prop} [Decidable c] {q : CreateRequest} {isDirectory : Bool} :
    Indifferent s env printed b (makeNodeIf c q isDirectory) := by
  unfold makeNodeIf
  split
  · refine alike_seq (alike_call rfl fun f => ?_) fun _ _ => alike_pure trivial
    exact alike_call rfl fun _ => alike_pure trivial
  · exact alike_pure trivial

theorem alike_addIf {f : Option Ptr} :
    Alike s env printed b (addIf f) fun b' _ => b = false → b' = false := by
  cases f with
  | some f =>
      refine alike_call rfl fun _ => alike_pure fun hb => ?_
      rw [hb]
      rfl
  | none => exact alike_pure id

theorem alike_finishCreate {l : CreateLocals} {handle : HANDLE} {result : CreateResult} :
    Indifferent s env printed b (finishCreate l handle result) := by
  refine alike_seq (alike_onlyIf (alike_call (f := pure) rfl fun _ => alike_pure trivial) trivial)
    fun _ _ => ?_
  exact alike_seq alike_print fun _ _ => alike_pure trivial

theorem alike_createFolder {q : CreateRequest} {l : CreateLocals} :
    Indifferent s env printed b (createFolder env q l) := by
  unfold createFolder
  split
  · refine alike_seq alike_impersonate fun _ _ => alike_seq alike_makeNodeIf fun _ made => ?_
    have hend : ∀ b' status, Indifferent s env printed b'
        (endImpersonation env l.userTokenHandle (status ≠ STATUS_SUCCESS) >>= fun _ =>
          pure (status, made.2)) := fun b' status =>
      alike_bind alike_endImpersonation fun _ _ _ => alike_pure trivial
    refine alike_win32 (fun _ _ _ => rfl) (fun _ _ => ?_) fun _ => alike_getLastError fun error => ?_
    · exact alike_bind alike_addIf fun _ _ _ => hend _ STATUS_SUCCESS
    · split
      · exact alike_seq alike_print fun _ _ => hend _ (env.ntStatusFromWin32 error)
      · exact hend _ STATUS_SUCCESS
  · exact alike_pure trivial

theorem alike_openFolder {q : CreateRequest} {l : CreateLocals} {sd : Option SecurityDescriptor} :
    Indifferent s env printed b (openFolder env q info l sd) := by
  unfold openFolder
  split
  · exact alike_pure trivial
  · refine alike_seq alike_impersonate fun _ _ => alike_bind alike_createFile fun _ handle hlast => ?_
    refine alike_bind alike_endImpersonation fun _ _ hend => ?_
    split
    · next hnone =>
        rw [hend (hlast (.inl hnone))]
        exact alike_report fun _ _ => alike_finishCreate
    · dsimp only
      split
      · exact alike_pure trivial
      · exact alike_finishCreate

theorem alike_openedFile {l : CreateLocals}
    (hb : l.creationDisposition = CREATE_ALWAYS ∨ l.creationDisposition = OPEN_ALWAYS → b = false) :
    Indifferent s env printed b (openedFile l) := by
  have hkept : Alike s env printed b (Prog.onlyIf
      (l.fileAttr ≠ INVALID_FILE_ATTRIBUTES ∧ l.creationDisposition = TRUNCATE_EXISTING) do
        let _ ← win32 (.setFileAttributes l.filePath (l.fileAttributesAndFlags ||| l.fileAttr))
        pure ()) fun b' _ => l.creationDisposition = CREATE_ALWAYS ∨ l.creationDisposition = OPEN_ALWAYS →
          b' = false := by
    unfold Prog.onlyIf
    split
    · next htruncate =>
        -- a file is not truncated for a disposition that creates or opens
        refine alike_ignore fun _ => alike_pure fun hdisposition => ?_
        rw [htruncate.2] at hdisposition
        exact absurd hdisposition (by decide)
    · exact alike_pure hb
  refine alike_bind hkept fun b' _ hb' => ?_
  split
  · next hdisposition =>
      rw [hb' hdisposition.symm]
      refine alike_getLastError fun error => ?_
      split
      · exact alike_seq alike_print fun _ _ => alike_pure trivial
      · exact alike_pure trivial
  · exact alike_pure trivial

theorem alike_fileBranch {q : CreateRequest} {l : CreateLocals} :
    Indifferent s env printed b (fileBranch env q info l) := by
  unfold fileBranch
  split
  · exact alike_pure trivial
  · refine alike_seq alike_impersonate fun _ _ => alike_seq alike_makeNodeIf fun _ made => ?_
    refine alike_bind alike_createFile fun _ handle hlast => ?_
    refine alike_bind alike_endImpersonation fun _ _ hend => ?_
    refine alike_bind (alike_onlyIf alike_addIf id) fun _ _ hadd => ?_
    split
    · next hnone =>
        rw [hadd (hend (hlast (hnone.elim .inl fun h => .inr (.inl h))))]
        exact alike_report fun _ _ => alike_finishCreate
    · refine alike_seq (alike_openedFile fun hdisposition => ?_) fun _ _ => alike_finishCreate
      exact hadd (hend (hlast (.inr (.inr hdisposition))))

theorem alike_createPrelude {q : CreateRequest} {filePath : WString} :
    Indifferent s env printed b (createPrelude q info filePath) := by
  refine alike_seq alike_print fun _ _ => ?_
  refine alike_win32_any (fun _ _ _ => rfl) fun _ r => ?_
  refine alike_seq alike_print fun _ _ => alike_call rfl fun _ => alike_seq alike_print fun _ _ => ?_
  refine alike_seq alike_checkFlags fun _ _ => alike_seq alike_print fun _ _ => ?_
  exact alike_seq alike_checkFlags fun _ _ => alike_pure trivial

theorem alike_openToken {q : CreateRequest} {processName : WString} {flags : UserFlags} :
    Indifferent s env printed b (openToken env q processName flags) := by
  refine alike_seq alike_print fun _ _ => alike_seq alike_checkFlags fun _ _ => ?_
  refine alike_seq alike_print fun _ _ => ?_
  split
  · refine alike_win32_any (fun _ _ _ => rfl) fun _ r => ?_
    exact alike_seq alike_printIf fun _ _ => alike_pure trivial
  · exact alike_pure trivial

theorem alike_directoryBranch {q : CreateRequest} {l : CreateLocals} :
    Indifferent s env printed b (directoryBranch env q info l) := by
  refine alike_seq alike_createFolder fun _ made => ?_
  show Indifferent s env printed _ (if made.1 = STATUS_SUCCESS then _ else _)
  split
  · exact alike_openFolder
  · exact alike_finishCreate

theorem alike_createFileOperation {q : CreateRequest} :
    Indifferent s env printed b (mirrorCreateFile env q info) := by
  have hbranch : ∀ b' info l, Indifferent s env printed b'
      (if info.isDirectory = true then directoryBranch env q info l else fileBranch env q info l) := by
    intro b' info l
    split
    · exact alike_directoryBranch
    · exact alike_fileBranch
  refine alike_seq alike_filePathOf fun _ filePath => alike_seq alike_createPrelude fun _ processName => ?_
  refine alike_seq alike_getFileAttributes fun _ fileAttr => ?_
  split
  · exact alike_seq alike_print fun _ _ => alike_pure trivial
  · exact alike_seq alike_openToken fun _ token => hbranch _ _ _

end

theorem alike_dokanGetDiskFreeSpace : Indifferent s env printed b (mirrorDokanGetDiskFreeSpace env) :=
  alike_win32 (fun _ _ _ => rfl) (fun _ _ => alike_pure trivial)
    fun _ => alike_report fun _ _ => alike_pure trivial

theorem alike_copyInto {size : Option DWORD} {src : WString} :
    Indifferent s env printed b (copyInto size src) := by
  unfold copyInto
  cases wcscpyS (size.getD 0).toNat src with
  | some dest => exact alike_pure trivial
  | none => exact fun t t' _ => twins_refused rfl rfl

/-- A last error that is only printed may differ. -/
theorem alike_printLastError {format : String} {args : DWORD → List PrintArg} {p : Op β}
    {Q : Bool → β → Prop} (hp : Alike s env printed true p Q) :
    Alike s env printed b (getLastError >>= fun e => print format (args e) >>= fun _ => p) Q := by
  rintro t t' ⟨e, he, rfl⟩
  exact twins_perform rfl rfl (twins_perform rfl rfl (hp ⟨_, nofun, rfl⟩))

theorem alike_queryVolume : Indifferent s env printed b (queryVolume env) := by
  refine alike_call rfl fun cache => ?_
  split
  · exact alike_pure trivial
  · exact alike_win32 (fun _ _ _ => rfl) (fun _ _ => alike_pure trivial) fun _ => alike_pure trivial

theorem alike_noteRefusal : Indifferent s env printed b noteRefusal := by
  refine alike_call rfl fun cache => alike_onlyIf (alike_printLastError ?_) trivial
  exact alike_call (f := pure) rfl fun _ => alike_pure trivial

theorem alike_getVolumeInformation {q : VolumeRequest} :
    Indifferent s env printed b (mirrorGetVolumeInformation env q) := by
  refine alike_seq alike_copyInto fun _ volumeName => alike_seq alike_queryVolume fun _ features => ?_
  cases features with
  | some features =>
      refine alike_seq alike_printIf fun _ _ => alike_seq alike_printIf fun _ _ => ?_
      exact alike_seq alike_printIf fun _ _ => alike_pure trivial
  | none =>
      exact alike_seq alike_noteRefusal fun _ _ => alike_seq alike_copyInto fun _ _ => alike_pure trivial

theorem alike_mounted : Indifferent s env printed b mirrorMounted :=
  alike_seq alike_print fun _ _ => alike_pure trivial

theorem alike_unmounted : Indifferent s env printed b mirrorUnmounted :=
  alike_seq alike_print fun _ _ => alike_pure trivial

end

end SeamlessSmb
