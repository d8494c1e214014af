/-
# `FileOps.KeptFile` — the callbacks and the file they keep

`MirrorReadFile` and `MirrorGetFileInformation` keep what they find out about `bzvolfile`,
and give it out from then on.  Here the platform under them is one file: what is found under
the path of `bzvolfile`, and the handles that are open on it.  A call that succeeds on such a
handle delivers what the file is.  What other handles deliver is left open.

| | |
| :-- | :-- |
| `Backing` | the file under its path, and the handles open on it |
| `Holds` | what is kept is the file that is there |
| `Readable`, `Askable` | requests the code is up to |
| `ReadsBack`, `Tells` | an answer that is right |

**Proved here:** while the cache holds the file, a request the code is up to is answered from
the file, and the cache is left as it was or with the file in it (`sat_read`,
`sat_getFileInformation`).
-/
import Mathlib.Logic.Function.Basic
import SeamlessSmb.FileOps.Information

namespace SeamlessSmb

open Calls

/-! ## The file and its handles -/

/-- A file: what is in it, and what it looks like. -/
structure FileData where
  content : List Byte
  information : ByHandleFileInformation

/-- A file, and the handles open on it. -/
structure OpenedFile where
  data : FileData
  handles : HANDLE → Bool

/-- What is found under the path of `bzvolfile`: no file after a deletion.  A handle that is
not open on the file may be one of a file that was there before.  `healthy` is whether reading
at the pointer is sure to succeed. -/
structure Backing where
  file : Option OpenedFile
  healthy : Bool
  pointer : HANDLE → Nat

/-- The path of `bzvolfile`. -/
def IsPath (env : Env) (path : WString) : Prop :=
  getFilePath env.globals DOKAN_MAX_PATH bzvolfile = some path

instance (env : Env) (path : WString) : Decidable (IsPath env path) := inferInstanceAs (Decidable (_ = _))

/-- The directory entry of a file. -/
def findData (information : ByHandleFileInformation) : FindData where
  fileAttributes := information.fileAttributes
  creationTime := information.creationTime
  lastAccessTime := information.lastAccessTime
  lastWriteTime := information.lastWriteTime
  fileSize := information.fileSize

namespace Backing

def data (b : Backing) : Option FileData := b.file.map (·.data)

/-- The handle is open on the file. -/
def On (b : Backing) (h : HANDLE) (d : FileData) : Prop :=
  ∃ f, b.file = some f ∧ f.handles h = true ∧ f.data = d

/-- What a call that succeeds may deliver, and when one may fail. -/
def Allows (env : Env) (b : Backing) : (c : Win32Call) → Outcome c.Value → Prop
  | .createFile path .., .ok _ _ => IsPath env path → b.file.isSome = true
  | .getFileSizeEx h, .ok size _ => ∀ d, b.On h d → size = BitVec.ofNat 64 d.content.length
  | .readFile h length (some offset), .ok bytes _ =>
      ∀ d, b.On h d → bytes = (d.content.drop offset.toNat).take length.toNat
  | .readFile h length none, .ok bytes _ =>
      ∀ d, b.On h d → bytes = (d.content.drop (b.pointer h)).take length.toNat
  | .readFile h _ none, .fail _ => ∀ d, b.On h d → b.healthy = false
  | .getFileInformationByHandle h, .ok information _ => ∀ d, b.On h d → information = d.information
  | .findFirstFileData path, .ok find _ =>
      IsPath env path → ∃ d, b.data = some d ∧ find = findData d.information
  | _, _ => True

/-- A handle is opened on the file, or is not one on it any more. -/
def setHandle (b : Backing) (h : HANDLE) (isOpen : Bool) : Option OpenedFile :=
  b.file.map fun f => { f with handles := Function.update f.handles h isOpen }

/-- What a call leaves. -/
def after (env : Env) (b : Backing) : (c : Win32Call) → Outcome c.Value → Backing
  | .createFile path .., .ok h _ =>
      { b with
        file := b.setHandle h.1 (decide (IsPath env path))
        pointer := Function.update b.pointer h.1 0 }
  | .closeHandle h, _ => { b with file := b.setHandle h false }
  | .setFilePointer h, .ok _ _ => { b with pointer := Function.update b.pointer h 0 }
  | .readFile h _ overlapped, .ok bytes _ =>
      { b with
        pointer := Function.update b.pointer h
          ((overlapped.map (·.toNat)).getD (b.pointer h) + bytes.length) }
  | _, _ => b

theorem data_setHandle {b : Backing} {h : HANDLE} {isOpen : Bool} :
    (b.setHandle h isOpen).map (·.data) = b.data := by
  unfold setHandle data
  rw [Option.map_map]
  rfl

end Backing

/-- The platform with the file under its path. -/
def underPath (env : Env) (b : Backing) (c : Win32Call) (r : Outcome c.Value) (b' : Backing) : Prop :=
  b.Allows env c r ∧ b' = b.after env c r

/-! ## What a call leaves alone -/

/-- Neither the cache nor the file is another. -/
structure Kept (w w' : World Backing) : Prop where
  cache : w'.cache = w.cache
  data : w'.os.data = w.os.data
  healthy : w'.os.healthy = w.os.healthy

theorem Kept.refl (w : World Backing) : Kept w w := ⟨rfl, rfl, rfl⟩

theorem Kept.trans {w w' w'' : World Backing} (h : Kept w w') (h' : Kept w' w'') : Kept w w'' :=
  ⟨h'.cache.trans h.cache, h'.data.trans h.data, h'.healthy.trans h.healthy⟩

section

variable {env : Env} {w w' : World Backing}

theorem after_kept {b : Backing} {c : Win32Call} {r : Outcome c.Value} :
    (b.after env c r).data = b.data ∧ (b.after env c r).healthy = b.healthy := by
  unfold Backing.after
  split
  · exact ⟨Backing.data_setHandle, rfl⟩
  · exact ⟨Backing.data_setHandle, rfl⟩
  · exact ⟨rfl, rfl⟩
  · exact ⟨rfl, rfl⟩
  · exact ⟨rfl, rfl⟩

theorem step_kept {c : Call} {r : Answer c} (hc : c.storesCache = false)
    (h : step env (underPath env) w c r w') : Kept w w' := by
  cases step_aside h with
  | inl hwin =>
      obtain ⟨x, rfl⟩ := hwin
      obtain ⟨-, b, ⟨-, rfl⟩, rfl⟩ := h
      exact ⟨rfl, after_kept.1, after_kept.2⟩
  | inr haside => exact ⟨haside.2 hc, by rw [haside.1], by rw [haside.1]⟩

/-- A program that writes nothing to the cache. -/
theorem sat_kept {α : Type} {p : Op α} (hp : OnlyCalls (fun c => c.storesCache = false) p) :
    Sat (step env (underPath env)) p w fun _ _ w' => Kept w w' := by
  refine (OnlyCalls.sat (fun w : World Backing => (w.cache, w.os.data, w.os.healthy)) ?_ hp w).mono ?_
  · intro w c r w' hc h
    have hkept := step_kept hc h
    rw [hkept.cache, hkept.data, hkept.healthy]
  · intro _ _ w' ⟨_, h⟩
    simp only [Prod.mk.injEq] at h
    exact ⟨h.1, h.2.1, h.2.2⟩

theorem sat_kept_bind {α β : Type} {p : Op α} {f : α → Op β} {Q : Trace → β → World Backing → Prop}
    (hp : OnlyCalls (fun c => c.storesCache = false) p)
    (hf : ∀ tr a w', Kept w w' → Sat (step env (underPath env)) (f a) w' fun tr' => Q (tr ++ tr')) :
    Sat (step env (underPath env)) (p >>= f) w Q :=
  sat_bind.mpr ((sat_kept hp).mono fun tr a w' h => hf tr a w' h)

end

/-! ## What is kept, and what is asked -/

/-- What `MirrorGetFileInformation` shows of a file: all there is to know, or its directory
entry in the structure of the caller. -/
def Shown (d : FileData) (information : ByHandleFileInformation) : Prop :=
  information = hideArchive d.information ∨
    ∃ i, information = hideArchive ((findData d.information).into i)

/-- What is kept is the file that is there. -/
structure Holds (cache : Cache) (data : Option FileData) : Prop where
  content : cache.bzvolDataLength ≠ 0 → ∃ d, data = some d ∧ cache.bzvolData = d.content ∧
    cache.bzvolDataLength.toNat = d.content.length
  information : cache.bzvolInfoSet = true → ∃ d, data = some d ∧ Shown d cache.bzvolInfo

/-- The request brings no handle, or one that is open on the file. -/
def HasHandle (b : Backing) (info : DokanFileInfo) : Prop :=
  (info.context = 0 ∨ info.context = INVALID_HANDLE_VALUE) ∨ ∃ d, b.On info.context d

/-- A read the code is up to.  One that goes to the file brings a good handle; where it fills the
cache, the file can be read at the pointer, and its length can be kept.  One that is answered from
the cache does not start before the file, and asks for bytes behind its end only with a buffer
that could hold all of it. -/
structure Readable (w : World Backing) (bufferLength : DWORD) (offset : BitVec 64)
    (info : DokanFileInfo) : Prop where
  handle : w.cache.bzvolDataLength = 0 ∨ w.cache.bzvolDataLength.toNat < offset.toInt →
    HasHandle w.os info
  healthy : w.cache.bzvolDataLength = 0 → w.os.healthy = true
  small : w.cache.bzvolDataLength = 0 → ∀ d, w.os.data = some d → d.content.length < 0x100000000
  forward : w.cache.bzvolDataLength ≠ 0 → 0 ≤ offset.toInt
  inside : w.cache.bzvolDataLength ≠ 0 → w.cache.bzvolDataLength.toNat ≤ bufferLength.toNat ∨
    offset.toNat + bufferLength.toNat ≤ w.cache.bzvolDataLength.toNat ∨
    w.cache.bzvolDataLength.toNat < offset.toNat

/-- A question for the information the code is up to. -/
def Askable (w : World Backing) (info : DokanFileInfo) : Prop :=
  w.cache.bzvolInfoSet = false → HasHandle w.os info

/-- It makes no difference which error the thread brings. -/
theorem Readable.onThread {w : World Backing} {bufferLength : DWORD} {offset : BitVec 64}
    {info : DokanFileInfo} (h : Readable w bufferLength offset info) (e : DWORD) :
    Readable { w with lastError := e } bufferLength offset info :=
  ⟨h.handle, h.healthy, h.small, h.forward, h.inside⟩

/-- The answer to a read, if it is one, is the file. -/
def ReadsBack (data : Option FileData) (bufferLength : DWORD) (offset : BitVec 64) (r : ReadFileResult) :
    Prop :=
  r.status = STATUS_SUCCESS → ∃ d, data = some d ∧
    r.buffer = (d.content.drop offset.toNat).take bufferLength.toNat ∧
    r.readLength = some (BitVec.ofNat 32 r.buffer.length)

/-- The answer to a question for the information, if it is one, is that of the file. -/
def Tells (data : Option FileData) (r : FileInformationResult) : Prop :=
  r.status = STATUS_SUCCESS → ∃ d, data = some d ∧ Shown d r.information

theorem ReadsBack.of_error {data : Option FileData} {bufferLength : DWORD} {offset : BitVec 64}
    {r : ReadFileResult} (h : r.status ≠ STATUS_SUCCESS) : ReadsBack data bufferLength offset r :=
  fun hsuccess => absurd hsuccess h

theorem Tells.of_error {data : Option FileData} {r : FileInformationResult}
    (h : r.status ≠ STATUS_SUCCESS) : Tells data r := fun hsuccess => absurd hsuccess h

theorem Backing.On.data {b : Backing} {h : HANDLE} {d : FileData} (hon : b.On h d) : b.data = some d := by
  obtain ⟨f, hfile, -, rfl⟩ := hon
  unfold Backing.data
  rw [hfile]
  rfl

/-! ## The parts of the callbacks -/

section

variable {env : Env} {w w' : World Backing}

/-- The calls that report and close write nothing to the cache. -/
theorem housekeeping_keeps : Housekeeping fun c => c.storesCache = false where
  getLastError := rfl
  print := fun _ _ => rfl
  closeHandle := fun _ => rfl
  invalidParameter := rfl

/-- A call to the platform: what it may answer, and what it leaves. -/
theorem sat_win32_bind {β : Type} {c : Win32Call} {f : Outcome c.Value → Op β}
    {Q : β → World Backing → Prop}
    (h : ∀ r w', w.os.Allows env c r →
      w' = { w with lastError := r.lastError, os := w.os.after env c r } → Kept w w' →
      Sat (step env (underPath env)) (f r) w' fun _ => Q) :
    Sat (step env (underPath env)) (win32 c >>= f) w fun _ => Q := by
  refine sat_perform_bind.mpr fun r w' hstep => ?_
  have hkept : Kept w w' := step_kept (c := .win32 c) rfl hstep
  obtain ⟨-, b, ⟨hallows, rfl⟩, hw'⟩ := hstep
  exact h r w' hallows hw' hkept

/-- What follows a call that failed reports an error. -/
theorem sat_reports {format : String} {args : DWORD → List PrintArg} {handle : HANDLE} {opened : Bool}
    (hw : w.lastError ≠ 0) :
    Sat (step env (underPath env)) (reportError env format args handle opened) w fun _ status w' =>
      status ≠ STATUS_SUCCESS ∧ Kept w w' := by
  refine sat_perform_bind.mpr fun e w₁ ⟨he, hw₁⟩ => ?_
  refine sat_kept_bind (onlyCalls_perform.mpr rfl) fun _ _ w₂ h₂ => ?_
  refine sat_kept_bind housekeeping_keeps.onlyCalls_closeOpened fun _ _ w₃ h₃ => sat_pure.mpr ?_
  rw [he]
  rw [hw₁] at h₂
  exact ⟨env.ntStatus_error _ hw, h₂.trans h₃⟩

theorem sat_createFile_bind {β : Type} {path : WString} {access share disposition flags : DWORD}
    {sd : Option SecurityDescriptor} {f : HANDLE → Op β} {Q : β → World Backing → Prop}
    (h : ∀ r w', w.os.Allows env (.createFile path access share sd disposition flags) r →
      w' = { w with
        lastError := r.lastError
        os := w.os.after env (.createFile path access share sd disposition flags) r } → Kept w w' →
      Sat (step env (underPath env)) (f (handleOf r)) w' fun _ => Q) :
    Sat (step env (underPath env)) (createFile path access share sd disposition flags >>= f) w
      fun _ => Q := by
  refine sat_bind.mpr (sat_win32_bind fun r w' hallows hw' hkept => ?_)
  cases r with
  | ok a e => exact sat_pure.mpr (h _ w' hallows hw' hkept)
  | fail e => exact sat_pure.mpr (h _ w' hallows hw' hkept)

/-- A request goes on with a handle open on the file, or reports an error. -/
theorem sat_reopen_bind {β : Type} {filePath : WString} {info : DokanFileInfo}
    {f : Except NTSTATUS (HANDLE × Bool) → Op β} {Q : β → World Backing → Prop}
    (hpath : IsPath env filePath) (hhandle : HasHandle w.os info)
    (herror : ∀ status w', status ≠ STATUS_SUCCESS → Kept w w' →
      Sat (step env (underPath env)) (f (.error status)) w' fun _ => Q)
    (hopen : ∀ h opened d w', w'.os.On h d → Kept w w' →
      Sat (step env (underPath env)) (f (.ok (h, opened))) w' fun _ => Q) :
    Sat (step env (underPath env)) (reopen env (pure filePath) GENERIC_READ FILE_SHARE_READ (pure ()) info
      >>= f) w fun _ => Q := by
  unfold reopen
  split
  · refine sat_bind.mpr (sat_kept_bind (onlyCalls_perform.mpr rfl) fun _ _ w₁ h₁ => ?_)
    show Sat _ (createFile filePath GENERIC_READ FILE_SHARE_READ none OPEN_EXISTING 0 >>= _) w₁ _
    refine sat_createFile_bind fun r w₂ hallows hw₂ h₂ => ?_
    have hkept := h₁.trans h₂
    cases r with
    | fail e =>
        refine sat_perform_bind.mpr fun error w₃ ⟨he, hw₃⟩ => ?_
        refine sat_kept_bind (onlyCalls_perform.mpr rfl) fun _ _ w₄ h₄ => sat_pure.mpr ?_
        rw [hw₃] at h₄
        refine herror _ w₄ (env.ntStatus_error _ ?_) (hkept.trans h₄)
        rw [he, hw₂]
        exact e.2
    | ok h e =>
        rw [if_neg (show handleOf (.ok h e) ≠ INVALID_HANDLE_VALUE from h.2.2)]
        obtain ⟨file, hfile⟩ := Option.isSome_iff_exists.mp (hallows hpath)
        refine sat_pure.mpr (hopen h.1 true file.data w₂ ?_ hkept)
        refine ⟨{ file with handles := Function.update file.handles h.1 true }, ?_,
          Function.update_self .., rfl⟩
        rw [hw₂]
        show w₁.os.setHandle h.1 (decide (IsPath env filePath)) = _
        unfold Backing.setHandle
        rw [hfile, decide_eq_true hpath]
        rfl
  · next hcontext =>
      obtain ⟨d, hd⟩ := hhandle.resolve_left hcontext
      exact hopen _ _ d w hd (Kept.refl w)

/-- The cache after it was filled from the beginning of a file. -/
def filled (cache : Cache) (d : FileData) : Cache :=
  { cache with bzvolDataLength := BitVec.ofNat 32 d.content.length, bzvolData := d.content }

theorem Holds.filled {cache : Cache} {data : Option FileData} {d : FileData} (h : Holds cache data)
    (hdata : data = some d) (hsmall : d.content.length < 0x100000000) : Holds (filled cache d) data where
  content := fun _ => ⟨d, hdata, rfl, by
    show (BitVec.ofNat 32 d.content.length).toNat = d.content.length
    rw [BitVec.toNat_ofNat]
    omega⟩
  information := h.information

/-- What the two stores leave of the cache. -/
theorem filled_of_stored {cache : Cache} {d : FileData} {memory : List Byte}
    (hmemory : memory.length = d.content.length) :
    { cache with
      bzvolDataLength := (BitVec.ofNat 64 d.content.length).setWidth 32
      bzvolData := d.content ++ memory.drop d.content.length } = filled cache d := by
  rw [BitVec.setWidth_ofNat_of_le (by decide), List.drop_of_length_le (Nat.le_of_eq hmemory),
    List.append_nil]
  rfl

/-- The filling leaves the cache as it was, or filled. -/
theorem sat_fillCache {handle : HANDLE} {opened : Bool} {bufferLength readLength : DWORD} {d : FileData}
    (hon : w.os.On handle d) (hhealthy : w.os.healthy = true) (hsmall : d.content.length < 0x100000000) :
    Sat (step env (underPath env)) (fillCache env handle opened bufferLength readLength) w fun _ _ w' =>
      w'.os.data = w.os.data ∧ (w'.cache = w.cache ∨ w'.cache = filled w.cache d) := by
  refine sat_win32_bind fun r w₁ _ hw₁ hkept₁ => ?_
  cases r with
  | fail e =>
      refine sat_kept_bind housekeeping_keeps.onlyCalls_reportReread fun _ _ w₂ h₂ => sat_pure.mpr ?_
      exact ⟨(hkept₁.trans h₂).data, .inl (hkept₁.trans h₂).cache⟩
  | ok u e =>
      have hon₁ : w₁.os.On handle d := by
        rw [hw₁]
        exact hon
      refine sat_win32_bind fun r w₂ hallows₂ hw₂ h₂ => ?_
      have hkept₂ := hkept₁.trans h₂
      cases r with
      | fail e =>
          refine sat_kept_bind housekeeping_keeps.onlyCalls_reportReread fun _ _ w₃ h₃ => sat_pure.mpr ?_
          exact ⟨(hkept₂.trans h₃).data, .inl (hkept₂.trans h₃).cache⟩
      | ok size e =>
          have hsize : size = BitVec.ofNat 64 d.content.length := hallows₂ d hon₁
          have hlength : (BitVec.ofNat 64 d.content.length).toNat = d.content.length := by
            rw [BitVec.toNat_ofNat]
            omega
          rw [hsize]
          refine sat_perform_bind.mpr fun _ w₃ hw₃ => ?_
          obtain ⟨memory, hmemory, hw₃⟩ := hw₃
          have hon₃ : w₃.os.On handle d := by
            rw [hw₃, hw₂]
            exact hon₁
          refine sat_win32_bind fun r w₄ hallows₄ hw₄ _ => ?_
          cases r with
          | fail e =>
              have hsick : w₃.os.healthy = false := hallows₄ d hon₃
              have hwell : w₃.os.healthy = true := by
                rw [hw₃]
                exact hkept₂.healthy.trans hhealthy
              exact absurd (hwell.symm.trans hsick) Bool.noConfusion
          | ok bytes e =>
              have hpointer : w₃.os.pointer handle = 0 := by
                rw [hw₃, hw₂, hw₁]
                exact Function.update_self ..
              have hbytes : bytes = d.content := by
                have hread := hallows₄ d hon₃
                rw [hpointer, List.drop_zero, BitVec.toNat_setWidth, hlength] at hread
                rw [hread]
                exact List.take_of_length_le (by omega)
              refine sat_perform_bind.mpr fun _ w₅ hw₅ => sat_pure.mpr ?_
              rw [hw₅, hw₄, hw₃, hbytes, ← hkept₂.cache]
              exact ⟨hkept₂.data, .inr (filled_of_stored (hmemory.trans hlength))⟩

/-- What a read leaves: the cache holds the file still, the content is kept or was not there, and
the answer is the file. -/
structure ReadLeaves (w w' : World Backing) (bufferLength : DWORD) (offset : BitVec 64)
    (r : ReadFileResult) : Prop where
  data : w'.os.data = w.os.data
  cache : w'.cache = w.cache ∨
    w.cache.bzvolDataLength = 0 ∧ ∃ d, w.os.data = some d ∧ d.content.length < 0x100000000 ∧
      w'.cache = filled w.cache d
  answer : ReadsBack w.os.data bufferLength offset r

theorem Kept.readLeaves {w w' : World Backing} {bufferLength : DWORD} {offset : BitVec 64}
    {r : ReadFileResult} (h : Kept w w') (hanswer : ReadsBack w.os.data bufferLength offset r) :
    ReadLeaves w w' bufferLength offset r := ⟨h.data, .inl h.cache, hanswer⟩

/-- A read that goes to the file. -/
theorem sat_readThrough {filePath : WString} {bufferLength : DWORD} {offset : BitVec 64}
    {info : DokanFileInfo} (hpath : IsPath env filePath) (hq : Readable w bufferLength offset info)
    (hhandle : HasHandle w.os info) :
    Sat (step env (underPath env)) (readThrough env bzvolfile filePath bufferLength offset info) w
      fun _ r w' => ReadLeaves w w' bufferLength offset r := by
  refine sat_reopen_bind hpath hhandle (fun status w₁ hstatus h₁ => ?_) fun h opened d w₁ hon h₁ => ?_
  · exact sat_pure.mpr (h₁.readLeaves (ReadsBack.of_error hstatus))
  · have hdata : w.os.data = some d := h₁.data.symm.trans hon.data
    refine sat_win32_bind fun r w₂ hallows₂ hw₂ h₂ => ?_
    have hkept₂ := h₁.trans h₂
    cases r with
    | fail e =>
        refine sat_bind.mpr ((sat_reports (by rw [hw₂]; exact e.2)).mono fun _ status w₃ h₃ => ?_)
        exact sat_pure.mpr ((hkept₂.trans h₃.2).readLeaves (ReadsBack.of_error h₃.1))
    | ok bytes e =>
        have hbytes : bytes = (d.content.drop offset.toNat).take bufferLength.toNat := hallows₂ d hon
        have hanswer : ∀ status, ReadsBack w.os.data bufferLength offset
            { status := status, buffer := bytes, readLength := some (BitVec.ofNat 32 bytes.length) } :=
          fun status _ => ⟨d, hdata, hbytes, rfl⟩
        refine sat_perform_bind.mpr fun cache w₃ ⟨hcache, hw₃⟩ => ?_
        rw [← hw₃] at hcache hkept₂ hw₂
        have hon₃ : w₃.os.On h d := by
          rw [hw₂]
          exact hon
        dsimp only
        split
        · next hfill =>
            have hempty : w.cache.bzvolDataLength = 0 := by
              rw [← hkept₂.cache, ← hcache]
              exact hfill.2
            have hsmall := hq.small hempty d hdata
            have hhealthy : w₃.os.healthy = true := hkept₂.healthy.trans (hq.healthy hempty)
            refine sat_bind.mpr ((sat_fillCache hon₃ hhealthy hsmall).mono ?_)
            intro _ early w₄ ⟨hdata₄, hcache₄⟩
            rw [hkept₂.cache] at hcache₄
            have hcache₄' : w₄.cache = w.cache ∨ w.cache.bzvolDataLength = 0 ∧
                ∃ d, w.os.data = some d ∧ d.content.length < 0x100000000 ∧ w₄.cache = filled w.cache d :=
              hcache₄.imp id fun hfilled => ⟨hempty, d, hdata, hsmall, hfilled⟩
            cases early with
            | some status => exact sat_pure.mpr ⟨hdata₄.trans hkept₂.data, hcache₄', hanswer _⟩
            | none =>
                refine sat_kept_bind housekeeping_keeps.onlyCalls_closeOpened fun _ _ w₅ h₅ => sat_pure.mpr ?_
                refine ⟨h₅.data.trans (hdata₄.trans hkept₂.data), ?_, hanswer _⟩
                rw [h₅.cache]
                exact hcache₄'
        · refine sat_bind.mpr (sat_pure.mpr ?_)
          refine sat_kept_bind housekeeping_keeps.onlyCalls_closeOpened fun _ _ w₄ h₄ => sat_pure.mpr ?_
          exact (hkept₂.trans h₄).readLeaves (hanswer _)

/-- A copy out of the memory of the cache that ends where the memory does, or before. -/
theorem sat_readCached {offset count : BitVec 64}
    (hinside : offset.toNat + count.toNat ≤ w.cache.bzvolData.length) :
    Sat (step env (underPath env)) (readCached offset count) w fun _ r w' => w' = w ∧
      r.buffer = (w.cache.bzvolData.drop offset.toNat).take count.toNat ∧
      r.readLength = some (BitVec.ofNat 32 r.buffer.length) := by
  refine sat_perform_bind.mpr fun bytes w₁ ⟨⟨hlength, behind, hbytes⟩, hw₁⟩ => sat_pure.mpr ⟨hw₁, ?_, ?_⟩
  · show bytes = _
    rw [hbytes, List.drop_append_of_le_length (by omega), List.take_append_of_le_length]
    rw [List.length_drop]
    omega
  · show some (count.setWidth 32) = some (BitVec.ofNat 32 bytes.length)
    rw [hlength]
    rfl

theorem toInt_of_forward {offset : BitVec 64} (h : 0 ≤ offset.toInt) : offset.toInt = offset.toNat := by
  rw [BitVec.toInt_eq_toNat_cond] at h ⊢
  split at h
  · next hlt => rw [if_pos hlt]
  · omega

/-- **A read** returns the file, and leaves the cache as it was or filled with the file. -/
theorem sat_read {bufferLength : DWORD} {offset : BitVec 64} {info : DokanFileInfo}
    (hholds : Holds w.cache w.os.data) (hq : Readable w bufferLength offset info) :
    Sat (step env (underPath env)) (mirrorReadFile env bzvolfile bufferLength offset info) w
      fun _ r w' => ReadLeaves w w' bufferLength offset r := by
  rw [mirrorReadFile_eq]
  refine sat_filePathOf_bind fun filePath hpath => ?_
  refine sat_perform_bind.mpr fun cache w₁ ⟨hcache, hw₁⟩ => ?_
  rw [hw₁, hcache]
  have hcached : ∀ {count : BitVec 64}, w.cache.bzvolDataLength ≠ 0 →
      (∀ d, d.content.length = w.cache.bzvolDataLength.toNat → w.os.data = some d →
        offset.toNat + count.toNat ≤ d.content.length ∧
          (d.content.drop offset.toNat).take count.toNat =
            (d.content.drop offset.toNat).take bufferLength.toNat) →
      Sat (step env (underPath env)) (readCached offset count) w
        fun _ r w' => ReadLeaves w w' bufferLength offset r := by
    intro count hlength hcount
    obtain ⟨d, hdata, hcontent, hlen⟩ := hholds.content hlength
    obtain ⟨hinside, htake⟩ := hcount d hlen.symm hdata
    refine (sat_readCached (by rw [hcontent]; exact hinside)).mono fun _ r w₂ ⟨hw₂, hbuffer, hread⟩ => ?_
    rw [hw₂]
    refine ⟨rfl, .inl rfl, fun _ => ⟨d, hdata, ?_, hread⟩⟩
    rw [hbuffer, hcontent]
    exact htake
  cases hcount : cachedCount bzvolfile bufferLength offset w.cache with
  | some count =>
      obtain ⟨⟨-, hkept, hwithin⟩, hcount⟩ := Option.ite_none_right_eq_some.mp hcount
      have hcount := Option.some.inj hcount
      have hforward := toInt_of_forward (hq.forward hkept)
      refine hcached hkept fun d hlen hdata => ?_
      by_cases hwhole : w.cache.bzvolDataLength ≤ bufferLength
      · have hle : offset.toNat ≤ w.cache.bzvolDataLength.toNat := by omega
        have hrest : count.toNat = d.content.length - offset.toNat := by
          rw [← hcount, if_pos hwhole]
          bv_omega
        have hbuffer : w.cache.bzvolDataLength.toNat ≤ bufferLength.toNat := hwhole
        have hdrop := List.length_drop (i := offset.toNat) (l := d.content)
        rw [hrest, List.take_of_length_le (by omega), List.take_of_length_le (by omega)]
        exact ⟨by omega, rfl⟩
      · have hbuffer : bufferLength.toNat < w.cache.bzvolDataLength.toNat := BitVec.not_le.mp hwhole
        have hinside := hq.inside hkept
        rw [← hcount, if_neg hwhole, BitVec.toNat_setWidth, Nat.mod_eq_of_lt (by omega)]
        exact ⟨by omega, rfl⟩
  | none =>
      refine sat_readThrough hpath hq (hq.handle ?_)
      by_contra hkept
      obtain ⟨hlength, hbehind⟩ := not_or.mp hkept
      have hsome : cachedCount bzvolfile bufferLength offset w.cache = some _ :=
        if_pos ⟨rfl, hlength, Int.not_lt.mp hbehind⟩
      rw [hsome] at hcount
      cases hcount

/-- What the callback finds out about the file. -/
def Found (d : FileData) : Except NTSTATUS ByHandleFileInformation → Prop
  | .error status => status ≠ STATUS_SUCCESS
  | .ok information => information = d.information ∨ ∃ i, information = (findData d.information).into i

theorem sat_findInformation {filePath : WString} {information : ByHandleFileInformation} {handle : HANDLE}
    {opened : Bool} {d : FileData} (hpath : IsPath env filePath) (hon : w.os.On handle d) :
    Sat (step env (underPath env)) (findInformation env bzvolfile filePath information handle opened) w
      fun _ found w' => Kept w w' ∧ Found d found := by
  refine sat_win32_bind fun r w₁ hallows₁ hw₁ hkept₁ => ?_
  cases r with
  | ok found e =>
      have hfound : found = d.information := hallows₁ d hon
      refine sat_kept_bind (onlyCalls_perform.mpr rfl) fun _ _ w₂ h₂ => sat_pure.mpr ?_
      exact ⟨hkept₁.trans h₂, .inl hfound⟩
  | fail e =>
      refine sat_kept_bind (onlyCalls_perform.mpr rfl) fun _ error w₂ h₂ => ?_
      refine sat_kept_bind (onlyCalls_perform.mpr rfl) fun _ _ w₃ h₃ => ?_
      have hkept₃ := (hkept₁.trans h₂).trans h₃
      rw [if_neg (by decide)]
      refine sat_win32_bind fun r w₄ hallows₄ hw₄ h₄ => ?_
      have hkept₄ := hkept₃.trans h₄
      cases r with
      | fail e =>
          refine sat_bind.mpr ((sat_reports (by rw [hw₄]; exact e.2)).mono fun _ status w₅ h₅ => ?_)
          exact sat_pure.mpr ⟨hkept₄.trans h₅.2, h₅.1⟩
      | ok find e =>
          obtain ⟨d', hd', hfind⟩ := hallows₄ hpath
          have hsame : d' = d := by
            rw [hkept₃.data, hon.data] at hd'
            exact (Option.some.inj hd').symm
          refine sat_kept_bind (onlyCalls_perform.mpr rfl) fun _ _ w₅ h₅ => ?_
          refine sat_kept_bind (onlyCalls_perform.mpr rfl) fun _ _ w₆ h₆ => sat_pure.mpr ?_
          refine ⟨(hkept₄.trans h₅).trans h₆, .inr ⟨information, ?_⟩⟩
          rw [hfind, hsame]

theorem Found.shown {d : FileData} {information : ByHandleFileInformation} (h : Found d (.ok information)) :
    Shown d (hideArchive information) := by
  cases h with
  | inl hall => exact .inl (congrArg hideArchive hall)
  | inr hentry =>
      obtain ⟨i, hi⟩ := hentry
      exact .inr ⟨i, congrArg hideArchive hi⟩

/-- What a question for the information leaves. -/
structure InformationLeaves (w w' : World Backing) (r : FileInformationResult) : Prop where
  data : w'.os.data = w.os.data
  cache : w'.cache = w.cache ∨
    w.cache.bzvolInfoSet = false ∧ ∃ d i, w.os.data = some d ∧ Shown d i ∧
      w'.cache = { w.cache with bzvolInfo := i, bzvolInfoSet := true }
  answer : Tells w.os.data r

theorem Kept.informationLeaves {w w' : World Backing} {r : FileInformationResult} (h : Kept w w')
    (hanswer : Tells w.os.data r) : InformationLeaves w w' r := ⟨h.data, .inl h.cache, hanswer⟩

/-- **A question for the information** is answered with that of the file, and leaves the cache as
it was or with the information in it. -/
theorem sat_getFileInformation {information : ByHandleFileInformation} {info : DokanFileInfo}
    (hholds : Holds w.cache w.os.data) (hq : Askable w info) :
    Sat (step env (underPath env)) (mirrorGetFileInformation env bzvolfile information info) w
      fun _ r w' => InformationLeaves w w' r := by
  refine sat_perform_bind.mpr fun cache w₁ h₁ => ?_
  rw [h₁.2, h₁.1]
  split
  · next hset =>
      obtain ⟨d, hdata, hshown⟩ := hholds.information hset.2
      exact sat_pure.mpr ⟨rfl, .inl rfl, fun _ => ⟨d, hdata, hshown⟩⟩
  · next hunset =>
    have hhandle : HasHandle w.os info := by
      refine hq (Bool.eq_false_iff.mpr fun hset => hunset ⟨rfl, hset⟩)
    refine sat_filePathOf_bind fun filePath hpath => ?_
    refine sat_perform_bind.mpr fun _ w₂ h₂ => ?_
    have hkept₂ := step_kept (c := .print _ _) rfl h₂
    have hhandle₂ : HasHandle w₂.os info := by
      obtain ⟨e, -, hw₂⟩ := h₂
      rw [hw₂]
      exact hhandle
    refine sat_reopen_bind hpath hhandle₂ (fun status w₃ hstatus h₃ => ?_) fun h opened d w₃ hon h₃ => ?_
    · exact sat_pure.mpr ((hkept₂.trans h₃).informationLeaves (Tells.of_error hstatus))
    · have hkept₃ := hkept₂.trans h₃
      have hdata : w.os.data = some d := hkept₃.data.symm.trans hon.data
      refine sat_bind.mpr ((sat_findInformation hpath hon).mono fun _ found w₄ hfind => ?_)
      obtain ⟨h₄, hfound⟩ := hfind
      cases found with
      | error status =>
          exact sat_pure.mpr ((hkept₃.trans h₄).informationLeaves (Tells.of_error hfound))
      | ok found =>
          refine sat_kept_bind (onlyCalls_perform.mpr rfl) fun _ _ w₅ h₅ => ?_
          refine sat_kept_bind (onlyCalls_perform.mpr rfl) fun _ _ w₆ h₆ => ?_
          refine sat_kept_bind housekeeping_keeps.onlyCalls_checkFlags fun _ _ w₇ h₇ => ?_
          refine sat_perform_bind.mpr fun cache w₈ h₈ => ?_
          obtain ⟨hcache₈, hw₈⟩ := h₈
          have hkept₈ : Kept w w₈ := by
            rw [hw₈]
            exact (((hkept₃.trans h₄).trans h₅).trans h₆).trans h₇
          rw [hcache₈, ← hw₈]
          have hanswer : Tells w.os.data ⟨STATUS_SUCCESS, hideArchive found⟩ :=
            fun _ => ⟨d, hdata, hfound.shown⟩
          unfold Prog.onlyIf
          split
          · next hstore =>
              refine sat_perform_bind.mpr fun _ w₉ hw₉ => ?_
              refine sat_kept_bind housekeeping_keeps.onlyCalls_closeOpened fun _ _ w' h' => sat_pure.mpr ?_
              have hdata₉ : w₉.os.data = w₈.os.data := by rw [hw₉]
              refine ⟨h'.data.trans (hdata₉.trans hkept₈.data), .inr ⟨?_, d, _, hdata, hfound.shown, ?_⟩,
                hanswer⟩
              · rw [← hkept₈.cache]
                exact hstore.2
              · rw [h'.cache, hw₉, hkept₈.cache]
          · refine sat_kept_bind trivial fun _ _ w₉ h₉ => ?_
            refine sat_kept_bind housekeeping_keeps.onlyCalls_closeOpened fun _ _ w' h' => sat_pure.mpr ?_
            exact ((hkept₈.trans h₉).trans h').informationLeaves hanswer

end

end SeamlessSmb
