/-
# `FileOps.SharedHandle` — reads and writes on one handle, from several threads

Dokan calls back on several threads, and every request on a file brings the same
`Context` handle.  The handle has one file pointer.  `MirrorWriteFile` asks for the size,
moves the pointer and then writes at it; between these calls another thread may move the
pointer, or change the file.

| | |
| :-- | :-- |
| `OpenFile` | the bytes of the file and the pointer of the handle |
| `WriteCall.place` | where an undisturbed write writes, and what |
| `WriteCall.Wrote` | what a write does to the bytes, for the result it returns |
| `Serializable` | the run ends as the writes one at a time do, and they wrote at their offsets |

**Proved here:** a write that runs alone does what `Wrote` says (`sat_write`), and any
number of calls in any order are serializable as long as every write finds the pointer and
the size it acted on still as they were (`serializable_of_undisturbed`).
-/
import SeamlessSmb.Lib.Threads
import SeamlessSmb.FileOps.ReadWrite

namespace SeamlessSmb

open Calls History

/-! ## The file behind a handle -/

/-- The bytes of the file and the pointer of its handle. -/
structure OpenFile where
  content : List Byte := []
  pointer : Nat := 0

/-- The size of the file, as the API reports it. -/
def fileSize (content : List Byte) : BitVec 64 := BitVec.ofNat 64 content.length

/-- `data` written at `pos`.  A hole before it is filled with zeros. -/
def splice (content : List Byte) (pos : Nat) (data : List Byte) : List Byte :=
  if data = [] then content
  else content.take pos ++ List.replicate (pos - content.length) 0 ++ data ++
    content.drop (pos + data.length)

theorem splice_nil {content : List Byte} {pos : Nat} : splice content pos [] = content := if_pos rfl

theorem length_splice {content data : List Byte} {pos : Nat} :
    (splice content pos data).length ≤ max content.length (pos + data.length) := by
  unfold splice
  split
  · exact Nat.le_max_left ..
  · simp only [List.length_append, List.length_take, List.length_replicate, List.length_drop]
    omega

/-- What was written is read back. -/
theorem take_drop_splice {content data : List Byte} {pos : Nat} :
    ((splice content pos data).drop pos).take data.length = data := by
  unfold splice
  split
  · next h => simp [h]
  · have hlength : (content.take pos ++ List.replicate (pos - content.length) (0 : Byte)).length = pos := by
      simp only [List.length_append, List.length_take, List.length_replicate]
      omega
    rw [List.append_assoc, List.drop_left' hlength, List.take_left' rfl]

/-- What a write leaves alone. -/
theorem getElem?_splice {content data : List Byte} {pos j : Nat} (hj : j < content.length)
    (hout : j < pos ∨ pos + data.length ≤ j) : (splice content pos data)[j]? = content[j]? := by
  unfold splice
  split
  · rfl
  · have hlength : (content.take pos ++ List.replicate (pos - content.length) (0 : Byte)).length = pos := by
      simp only [List.length_append, List.length_take, List.length_replicate]
      omega
    cases hout with
    | inl hlt =>
        rw [List.append_assoc, List.append_assoc, List.getElem?_append_left, List.getElem?_take_of_lt hlt]
        rw [List.length_take]
        omega
    | inr hge =>
        rw [List.getElem?_append_right, List.getElem?_drop]
        · congr 1
          rw [List.length_append, hlength]
          omega
        · rw [List.length_append, hlength]
          exact hge

/-- The handle a call is on. -/
def Win32Call.handle? : Win32Call → Option HANDLE
  | .setFilePointer h | .setFilePointerEx h _ _ | .getFileSize h | .getFileSizeEx h | .readFile h _ _
  | .writeFile h _ => some h
  | _ => none

namespace OpenFile

/-- What a call that succeeds may deliver. -/
def Allows (f : OpenFile) : (c : Win32Call) → Outcome c.Value → Prop
  | .setFilePointerEx _ distanceToMove .FILE_BEGIN, .ok _ _ => 0 ≤ distanceToMove.toInt
  | .getFileSize _, .ok size _ => size = fileSize f.content
  | .getFileSizeEx _, .ok size _ => size = fileSize f.content
  | .readFile _ length (some offset), .ok bytes _ =>
      bytes = (f.content.drop offset.toNat).take length.toNat
  | .readFile _ length none, .ok bytes _ => bytes = (f.content.drop f.pointer).take length.toNat
  | .writeFile _ data, .ok numberOfBytesWritten _ =>
      numberOfBytesWritten = BitVec.ofNat 32 data.length
  | _, _ => True

/-- What a call leaves.  One that fails changes nothing. -/
def after (f : OpenFile) : (c : Win32Call) → Outcome c.Value → OpenFile
  | .setFilePointer _, .ok _ _ => { f with pointer := 0 }
  | .setFilePointerEx _ distanceToMove .FILE_BEGIN, .ok _ _ => { f with pointer := distanceToMove.toNat }
  | .setFilePointerEx _ _ .FILE_END, .ok _ _ => { f with pointer := f.content.length }
  | .readFile _ _ (some offset), .ok bytes _ => { f with pointer := offset.toNat + bytes.length }
  | .readFile _ _ none, .ok bytes _ => { f with pointer := f.pointer + bytes.length }
  | .writeFile _ data, .ok _ _ =>
      { content := splice f.content f.pointer data, pointer := f.pointer + data.length }
  | _, _ => f

end OpenFile

/-- The platform with one file open on `handle`. -/
def fileOn (handle : HANDLE) (f : OpenFile) (c : Win32Call) (r : Outcome c.Value) (f' : OpenFile) :
    Prop :=
  if c.handle? = some handle then f.Allows c r ∧ f' = f.after c r else f' = f

/-! ## The calls -/

/-- A request to `MirrorWriteFile`. -/
structure WriteCall where
  fileName : WString
  buffer : List Byte
  numberOfBytesToWrite : DWORD
  offset : BitVec 64
  info : DokanFileInfo := {}

/-- A request to `MirrorReadFile`. -/
structure ReadCall where
  fileName : WString
  bufferLength : DWORD
  offset : BitVec 64
  info : DokanFileInfo := {}

def WriteCall.program (env : Env) (handle : HANDLE) (q : WriteCall) : Op WriteFileResult :=
  mirrorWriteFile env q.fileName q.buffer q.numberOfBytesToWrite q.offset { q.info with context := handle }

def ReadCall.program (env : Env) (handle : HANDLE) (q : ReadCall) : Op ReadFileResult :=
  mirrorReadFile env q.fileName q.bufferLength q.offset { q.info with context := handle }

namespace WriteCall

/-- The bytes of the request. -/
def bytes (q : WriteCall) : List Byte := q.buffer.take q.numberOfBytesToWrite.toNat

/-- The size is one `GetFileSize` can report. -/
def Sized (content : List Byte) : Prop := (fileSize content).setWidth 32 ≠ INVALID_FILE_SIZE

instance (content : List Byte) : Decidable (Sized content) := inferInstanceAs (Decidable (_ ≠ _))

/-- The file pointer can be set to the offset. -/
def Seekable (q : WriteCall) : Prop := 0 ≤ q.offset.toInt

/-- How many bytes a write at an offset writes into the file as it is. -/
def count? (q : WriteCall) (content : List Byte) : Option DWORD :=
  bytesToWrite q.info.pagingIo q.offset (fileSize content) q.numberOfBytesToWrite

/-- Where a write that nobody disturbs writes, and what. -/
def place (q : WriteCall) (content : List Byte) : Option (Nat × List Byte) :=
  if q.info.writeToEndOfFile = true then some (content.length, q.bytes)
  else if Sized content then
    (q.count? content).map fun count => (q.offset.toNat, q.buffer.take count.toNat)
  else none

theorem place_end {q : WriteCall} {content : List Byte} (h : q.info.writeToEndOfFile = true) :
    q.place content = some (content.length, q.bytes) := if_pos h

theorem place_at {q : WriteCall} {content : List Byte} {count : DWORD}
    (hplain : q.info.writeToEndOfFile = false) (hsized : Sized content)
    (hcount : q.count? content = some count) :
    q.place content = some (q.offset.toNat, q.buffer.take count.toNat) := by
  unfold place
  rw [hplain, if_neg Bool.false_ne_true, if_pos hsized, hcount]
  rfl

/-- What a write does to the bytes of the file, for the result it returns. -/
inductive Wrote (env : Env) (q : WriteCall) : WriteFileResult → List Byte → List Byte → Prop
  | put {content data : List Byte} {pos : Nat} : (q.info.writeToEndOfFile = false → q.Seekable) →
      q.place content = some (pos, data) →
      Wrote env q ⟨STATUS_SUCCESS, some (BitVec.ofNat 32 data.length)⟩ content (splice content pos data)
  | dropped {content : List Byte} : q.info.writeToEndOfFile = false → Sized content →
      q.count? content = none → Wrote env q ⟨STATUS_SUCCESS, some 0⟩ content content
  | failed {content : List Byte} {n : Option DWORD} (e : Win32Error) :
      Wrote env q ⟨env.ntStatusFromWin32 e, n⟩ content content

/-- The bytes reported as written were put at the offset of the request: all of them, or as
many as a paged write may. -/
def Puts (q : WriteCall) (r : WriteFileResult) (content content' : List Byte) : Prop :=
  ∃ data, data <+: q.bytes ∧ (q.info.pagingIo = false → data = q.bytes) ∧
    r.numberOfBytesWritten = some (BitVec.ofNat 32 data.length) ∧
    content' = splice content q.offset.toNat data

end WriteCall

theorem bytesToWrite_le {pagingIo : Bool} {offset size : BitVec 64} {n count : DWORD}
    (h : bytesToWrite pagingIo offset size n = some count) :
    count.toNat ≤ n.toNat ∧ (pagingIo = false → count = n) := by
  unfold bytesToWrite at h
  split at h
  · next hpaging =>
      refine ⟨?_, fun hnot => absurd hpaging (by rw [hnot]; exact Bool.false_ne_true)⟩
      split at h
      · cases h
      · next hoffset =>
          split at h
          · next hover =>
              cases h
              bv_omega
          · cases h
            exact Nat.le_refl _
  · cases h
    exact ⟨Nat.le_refl _, fun _ => rfl⟩

/-- A write that reports success has put its bytes at its offset. -/
theorem WriteCall.Wrote.puts {env : Env} {q : WriteCall} {r : WriteFileResult}
    {content content' : List Byte} (h : q.Wrote env r content content')
    (hstatus : r.status = STATUS_SUCCESS) (hplain : q.info.writeToEndOfFile = false) :
    q.Puts r content content' := by
  cases h with
  | @put _ data pos _ hplace =>
      unfold WriteCall.place at hplace
      rw [hplain, if_neg Bool.false_ne_true] at hplace
      split at hplace
      · obtain ⟨count, hcount, heq⟩ := Option.map_eq_some_iff.mp hplace
        cases heq
        have hle := bytesToWrite_le hcount
        refine ⟨_, List.take_prefix_take_left hle.1, fun hpaging => ?_, rfl, rfl⟩
        rw [hle.2 hpaging]
        rfl
      · cases hplace
  | dropped _ _ hnone =>
      refine ⟨[], List.nil_prefix, fun hpaging => ?_, rfl, splice_nil.symm⟩
      simp [WriteCall.count?, bytesToWrite, hpaging] at hnone
  | failed e => exact absurd hstatus (env.ntStatus_error e e.2)

/-- The bytes put are the bytes read at the offset. -/
theorem WriteCall.Puts.read_back {q : WriteCall} {r : WriteFileResult} {content content' : List Byte}
    (h : q.Puts r content content') (hpaging : q.info.pagingIo = false) :
    (content'.drop q.offset.toNat).take q.bytes.length = q.bytes := by
  obtain ⟨data, -, hall, -, rfl⟩ := h
  rw [← hall hpaging]
  exact take_drop_splice

/-- The rest of the file is as it was. -/
theorem WriteCall.Puts.frame {q : WriteCall} {r : WriteFileResult} {content content' : List Byte} {j : Nat}
    (h : q.Puts r content content') (hj : j < content.length)
    (hout : j < q.offset.toNat ∨ q.offset.toNat + q.bytes.length ≤ j) : content'[j]? = content[j]? := by
  obtain ⟨data, hprefix, -, -, rfl⟩ := h
  refine getElem?_splice hj ?_
  cases hout with
  | inl hlt => exact .inl hlt
  | inr hge =>
      have hlength := hprefix.length_le
      exact .inr (by omega)

/-- A file grows to the end of the write at most. -/
theorem WriteCall.Wrote.length_le {env : Env} {q : WriteCall} {r : WriteFileResult}
    {content content' : List Byte} (h : q.Wrote env r content content')
    (hplain : q.info.writeToEndOfFile = false) :
    content'.length ≤ max content.length (q.offset.toNat + q.buffer.length) := by
  cases h with
  | @put _ data pos _ hplace =>
      unfold WriteCall.place at hplace
      rw [hplain, if_neg Bool.false_ne_true] at hplace
      split at hplace
      · obtain ⟨count, -, heq⟩ := Option.map_eq_some_iff.mp hplace
        cases heq
        have htake := List.length_take_le' count.toNat q.buffer
        have hsplice : (splice content q.offset.toNat (q.buffer.take count.toNat)).length ≤ _ :=
          length_splice
        omega
      · cases hplace
  | dropped => exact Nat.le_max_left ..
  | failed e => exact Nat.le_max_left ..

/-! ## Calls that leave the bytes alone -/

/-- The call does not write to the file. -/
def Call.keepsContent : Call → Bool
  | .win32 (.writeFile ..) => false
  | _ => true

theorem fileOn_content {handle : HANDLE} {f f' : OpenFile} {c : Win32Call} {r : Outcome c.Value}
    (hc : Call.keepsContent (.win32 c) = true) (h : fileOn handle f c r f') :
    f'.content = f.content := by
  unfold fileOn at h
  split at h
  · rw [h.2]
    unfold OpenFile.after
    split
    all_goals first
      | rfl
      | cases hc
  · rw [h]

theorem step_content {env : Env} {handle : HANDLE} {w w' : World OpenFile} {c : Call} {r : Answer c}
    (hc : c.keepsContent = true) (h : step env (fileOn handle) w c r w') :
    w'.os.content = w.os.content := by
  cases step_aside h with
  | inl hwin =>
      obtain ⟨x, rfl⟩ := hwin
      obtain ⟨-, f, hf, rfl⟩ := h
      exact fileOn_content hc hf
  | inr haside => rw [haside.1]

/-- What the threads of a mount share; each has a last error of its own. -/
def fileMachine (env : Env) (handle : HANDLE) : Machine Call Answer DWORD (World OpenFile) where
  answers := step env (fileOn handle)
  install error w := { w with lastError := error }
  save := World.lastError

theorem fileMachine_content {env : Env} {handle : HANDLE} (error : DWORD) (w : World OpenFile) (c : Call)
    (r : Answer c) (w' : World OpenFile) (hc : c.keepsContent = true)
    (h : (fileMachine env handle).answers ((fileMachine env handle).install error w) c r w') :
    w'.os.content = w.os.content := step_content (w := { w with lastError := error }) hc h

/-! ## A write takes effect in one call -/

section

variable {env : Env} {handle : HANDLE} {error : DWORD} {q : WriteCall}

/-- Nobody has come between the write and the calls before it: it writes where it would write
now, and what it would write now; and a size is one that can be told from an error. -/
def WriteCall.Undisturbed (q : WriteCall) (w : World OpenFile) : (c : Call) → Answer c → Prop
  | .win32 (.writeFile _ data), .ok _ _ => q.place w.os.content = some (w.os.pointer, data)
  | .win32 (.getFileSize _), .ok _ _ => WriteCall.Sized w.os.content
  | _, _ => True

/-- The triple of a write. -/
def TakesEffect (env : Env) (handle : HANDLE) (q : WriteCall) (p : Op WriteFileResult) (error : DWORD) :
    Prop :=
  (fileMachine env handle).Atomic (fun c => c.keepsContent = true) (fun w => w.os.content) q.Undisturbed
    (q.Wrote env) p error

/-- The error is still the one the call left. -/
theorem ensures_reportError {format : String} {args : DWORD → List PrintArg}
    {f : NTSTATUS → WriteFileResult} :
    (fileMachine env handle).Ensures (fun c => c.keepsContent = true)
      (reportError env format args handle false >>= fun status => pure (f status)) error
      fun r _ => r = f (env.ntStatusFromWin32 error) := by
  refine Machine.ensures_call.mpr ⟨rfl, fun e w w' h => ?_⟩
  refine Machine.ensures_call.mpr ⟨rfl, fun _ _ _ _ => ?_⟩
  rw [show e = error from h.1]
  exact Machine.ensures_pure.mpr rfl

theorem keepsContent_countWrite :
    OnlyCalls (fun c => c.keepsContent = true) (countWrite handle) :=
  Housekeeping.onlyCalls_countWrite rfl rfl rfl rfl

theorem takesEffect_writeAtPointer {count : DWORD}
    (hseek : q.info.writeToEndOfFile = false → q.Seekable) :
    TakesEffect env handle q (writeAtPointer env q.buffer count q.offset handle false) error := by
  refine Machine.atomic_call.mpr fun r w w' h hcond => .inr ?_
  obtain ⟨-, f, hf, rfl⟩ := h
  obtain ⟨hallows, rfl⟩ := (if_pos rfl).mp hf
  cases r with
  | fail e => exact ⟨_, .failed e, ensures_reportError⟩
  | ok n lastError =>
      refine ⟨⟨STATUS_SUCCESS, some n⟩, ?_, ?_⟩
      · rw [show n = _ from hallows]
        exact .put hseek hcond
      · refine Machine.ensures_bind (Machine.ensures_of_onlyCalls keepsContent_countWrite fun _ _ => ?_)
        refine Machine.ensures_call.mpr ⟨rfl, fun _ _ _ _ => ?_⟩
        exact Machine.ensures_pure.mpr rfl

/-- A call that fails where the write has not written yet. -/
theorem takesEffect_failed {e : Win32Error} {content : List Byte} {p : Op WriteFileResult}
    {n : Option DWORD}
    (h : (fileMachine env handle).Ensures (fun c => c.keepsContent = true) p e.1 fun r _ =>
      r = ⟨env.ntStatusFromWin32 e, n⟩) :
    ∃ r, q.Wrote env r content content ∧
      (fileMachine env handle).Ensures (fun c => c.keepsContent = true) p e.1 fun r' _ => r' = r :=
  ⟨_, .failed e, h⟩

theorem takesEffect_writeAtEnd (hend : q.info.writeToEndOfFile = true) :
    TakesEffect env handle q
      (writeAtEnd env q.buffer q.numberOfBytesToWrite q.offset handle false) error := by
  refine Machine.atomic_call.mpr fun r w w' h _ => ?_
  have hsame := fileMachine_content (c := .win32 (.setFilePointerEx handle 0 .FILE_END)) error w _ _ rfl h
  obtain ⟨-, f, hf, rfl⟩ := h
  cases r with
  | fail e =>
      refine .inr ?_
      rw [hsame]
      exact takesEffect_failed ensures_reportError
  | ok u lastError =>
      refine .inl ⟨hsame, takesEffect_writeAtPointer fun hplain => ?_⟩
      exact Bool.noConfusion (hplain.symm.trans hend)

theorem takesEffect_writeAt (hplain : q.info.writeToEndOfFile = false) :
    TakesEffect env handle q
      (writeAt env q.buffer q.numberOfBytesToWrite q.offset { q.info with context := handle } handle false)
      error := by
  refine Machine.atomic_call.mpr fun r w w' h hcond => ?_
  have hsame := fileMachine_content (c := .win32 (.getFileSize handle)) error w _ _ rfl h
  obtain ⟨-, f, hf, rfl⟩ := h
  obtain ⟨hallows, rfl⟩ := (if_pos rfl).mp hf
  cases r with
  | fail e => exact .inr (takesEffect_failed ensures_reportError)
  | ok size lastError =>
      have hsize : size = fileSize w.os.content := hallows
      subst hsize
      have hsized : WriteCall.Sized w.os.content := hcond
      dsimp only
      rw [if_neg hsized]
      split
      · next hnone =>
          exact .inr ⟨_, .dropped hplain hsized hnone, Machine.ensures_pure.mpr rfl⟩
      · next count hcount =>
          refine .inl ⟨rfl, Machine.atomic_call.mpr fun r w₁ w₂ h₁ _ => ?_⟩
          have hsame₁ := fileMachine_content (c := .win32 (.setFilePointerEx handle q.offset .FILE_BEGIN))
            _ w₁ _ _ rfl h₁
          obtain ⟨-, f₁, hf₁, rfl⟩ := h₁
          cases r with
          | fail e =>
              refine .inr ?_
              rw [hsame₁]
              exact takesEffect_failed ensures_reportError
          | ok u lastError =>
              have hallows₁ := ((if_pos rfl).mp hf₁).1
              exact .inl ⟨hsame₁, takesEffect_writeAtPointer fun _ => hallows₁⟩

/-- **A write takes effect in one call**, the one to `WriteFile` or the one it stops at. -/
theorem takesEffect_write (hopen : handle ≠ 0 ∧ handle ≠ INVALID_HANDLE_VALUE) :
    TakesEffect env handle q (q.program env handle) error := by
  refine Machine.atomic_bind fileMachine_content (Machine.ensures_call.mpr ⟨rfl, fun _ _ _ _ => ?_⟩)
  unfold reopen
  rw [if_neg (not_or.mpr hopen)]
  cases hend : q.info.writeToEndOfFile with
  | true => exact takesEffect_writeAtEnd hend
  | false => exact takesEffect_writeAt hend

end

/-! ## A write alone -/

section

variable {env : Env} {handle : HANDLE} {q : WriteCall} {w : World OpenFile}

/-- The size reads as the error value: the write does nothing and reports no error. -/
def WriteCall.Unsized (env : Env) (q : WriteCall) (r : WriteFileResult) (content content' : List Byte) :
    Prop :=
  q.info.writeToEndOfFile = false ∧ ¬ WriteCall.Sized content ∧
    r = ⟨env.ntStatusFromWin32 0, none⟩ ∧ content' = content

theorem sat_keepsContent {α : Type} {p : Op α} (hp : OnlyCalls (fun c => c.keepsContent = true) p) :
    Sat (step env (fileOn handle)) p w fun _ _ w' => w'.os.content = w.os.content :=
  (hp.sat (fun w : World OpenFile => w.os.content) (fun _ _ _ _ hc h => step_content hc h) w).mono
    fun _ _ _ h => h.2

theorem sat_reportError {format : String} {args : DWORD → List PrintArg}
    {f : NTSTATUS → WriteFileResult} :
    Sat (step env (fileOn handle))
      (reportError env format args handle false >>= fun status => pure (f status)) w fun _ r w' =>
        r = f (env.ntStatusFromWin32 w.lastError) ∧ w'.os.content = w.os.content := by
  refine sat_perform_bind.mpr fun e w₁ ⟨he, hw₁⟩ => ?_
  refine sat_perform_bind.mpr fun _ w₂ ⟨_, _, hw₂⟩ => sat_pure.mpr ?_
  rw [he, hw₂, hw₁]
  exact ⟨rfl, rfl⟩

theorem sat_writeAtPointer {count : DWORD} (hseek : q.info.writeToEndOfFile = false → q.Seekable)
    (hplace : q.place w.os.content = some (w.os.pointer, q.buffer.take count.toNat)) :
    Sat (step env (fileOn handle)) (writeAtPointer env q.buffer count q.offset handle false) w
      fun _ r w' => q.Wrote env r w.os.content w'.os.content := by
  refine sat_perform_bind.mpr fun r w₁ h => ?_
  obtain ⟨-, f, hf, rfl⟩ := h
  obtain ⟨hallows, rfl⟩ := (if_pos rfl).mp hf
  cases r with
  | fail e =>
      refine sat_reportError.mono fun _ r w₂ h => ?_
      rw [h.1, h.2]
      exact .failed e
  | ok n lastError =>
      have hn : n = BitVec.ofNat 32 (q.buffer.take count.toNat).length := hallows
      refine sat_bind.mpr ((sat_keepsContent keepsContent_countWrite).mono fun _ _ w₂ h₂ => ?_)
      refine sat_perform_bind.mpr fun _ w₃ h₃ => sat_pure.mpr ?_
      rw [step_content rfl h₃, h₂, hn]
      exact .put hseek hplace

theorem sat_writeAtEnd (hend : q.info.writeToEndOfFile = true) :
    Sat (step env (fileOn handle))
      (writeAtEnd env q.buffer q.numberOfBytesToWrite q.offset handle false) w
      fun _ r w' => q.Wrote env r w.os.content w'.os.content := by
  refine sat_perform_bind.mpr fun r w₁ h => ?_
  obtain ⟨-, f, hf, rfl⟩ := h
  obtain ⟨-, rfl⟩ := (if_pos rfl).mp hf
  cases r with
  | fail e =>
      refine sat_reportError.mono fun _ r w₂ h => ?_
      rw [h.1, h.2]
      exact .failed e
  | ok u lastError =>
      refine sat_writeAtPointer (fun hplain => ?_) (WriteCall.place_end hend)
      exact Bool.noConfusion (hplain.symm.trans hend)

theorem sat_writeAt (hplain : q.info.writeToEndOfFile = false) :
    Sat (step env (fileOn handle))
      (writeAt env q.buffer q.numberOfBytesToWrite q.offset { q.info with context := handle } handle false)
      w fun _ r w' =>
        q.Wrote env r w.os.content w'.os.content ∨ q.Unsized env r w.os.content w'.os.content := by
  refine sat_perform_bind.mpr fun r w₁ h => ?_
  obtain ⟨hallowed, f, hf, rfl⟩ := h
  obtain ⟨hallows, rfl⟩ := (if_pos rfl).mp hf
  cases r with
  | fail e =>
      refine sat_reportError.mono fun _ r w₂ h => ?_
      rw [h.1, h.2]
      exact .inl (.failed e)
  | ok size lastError =>
      have hsize : size = fileSize w.os.content := hallows
      subst hsize
      dsimp only
      split
      · next hunsized =>
          -- no error is set, and none is what the write reports
          have hnone : lastError = 0 := hallowed hunsized
          subst hnone
          refine sat_reportError.mono fun _ r w₂ h => .inr ?_
          exact ⟨hplain, not_not.mpr hunsized, h.1, h.2⟩
      · next hsized =>
          split
          · next hnone => exact sat_pure.mpr (.inl (.dropped hplain hsized hnone))
          · next count hcount =>
              refine sat_perform_bind.mpr fun r w₂ h => ?_
              obtain ⟨-, f, hf, rfl⟩ := h
              obtain ⟨hseek, rfl⟩ := (if_pos rfl).mp hf
              cases r with
              | fail e =>
                  refine sat_reportError.mono fun _ r w₃ h => ?_
                  rw [h.1, h.2]
                  exact .inl (.failed e)
              | ok u lastError =>
                  refine (sat_writeAtPointer (fun _ => hseek) ?_).mono fun _ _ _ h => .inl h
                  exact WriteCall.place_at hplain hsized hcount

/-- **A write alone** puts its bytes in their place, or reports why it did not; but for a size
that reads as the error value. -/
theorem sat_write (hopen : handle ≠ 0 ∧ handle ≠ INVALID_HANDLE_VALUE) :
    Sat (step env (fileOn handle)) (q.program env handle) w fun _ r w' =>
      q.Wrote env r w.os.content w'.os.content ∨ q.Unsized env r w.os.content w'.os.content := by
  refine sat_perform_bind.mpr fun _ w₁ h₁ => ?_
  have hsame : w₁.os.content = w.os.content := step_content rfl h₁
  unfold reopen
  rw [if_neg (not_or.mpr hopen), ← hsame]
  cases hend : q.info.writeToEndOfFile with
  | true => exact (sat_writeAtEnd hend).mono fun _ _ _ h => .inl h
  | false => exact sat_writeAt hend

/-! ## Every effect is that of a write alone -/

theorem fileOn_ok {f : OpenFile} {c : Win32Call} {r : Outcome c.Value} (hc : c.handle? = some handle)
    (hr : f.Allows c r) : fileOn handle f c r (f.after c r) := by
  unfold fileOn
  rw [if_pos hc]
  exact ⟨hr, rfl⟩

theorem fileOn_other {f : OpenFile} {c : Win32Call} {r : Outcome c.Value}
    (hc : c.handle? ≠ some handle) : fileOn handle f c r f := by
  unfold fileOn
  rw [if_neg hc]

/-- The writes can be counted, whatever the file does. -/
theorem exists_run_countWrite :
    ∃ tr w', Run (step env (fileOn handle)) (countWrite handle) w tr () w' := by
  have htotal : ∀ (w : World OpenFile) (c : Call), (c = .writeCount handle ∨
      c = .win32 (.flushFileBuffers handle) ∨ c = .setWriteCount handle 0 ∨ c = .incWriteCount handle) →
      ∃ r w', step env (fileOn handle) w c r w' := by
    rintro w c (rfl | rfl | rfl | rfl)
    · exact ⟨_, _, rfl, rfl⟩
    · exact ⟨.ok () 0, _, trivial, w.os, fileOn_other (Option.some_ne_none handle).symm, rfl⟩
    · exact ⟨(), _, rfl⟩
    · exact ⟨(), _, rfl⟩
  have honly : OnlyCalls (fun c => c = .writeCount handle ∨ c = .win32 (.flushFileBuffers handle) ∨
      c = .setWriteCount handle 0 ∨ c = .incWriteCount handle) (countWrite handle) :=
    Housekeeping.onlyCalls_countWrite (.inl rfl) (.inr (.inl rfl)) (.inr (.inr (.inl rfl)))
      (.inr (.inr (.inr rfl)))
  obtain ⟨tr, a, w', hrun⟩ := honly.exists_run htotal w
  exact ⟨tr, w', hrun⟩

/-- The end of a write that was written. -/
theorem exists_run_writeAtPointer {count : DWORD} :
    ∃ tr w', Run (step env (fileOn handle))
        (writeAtPointer env q.buffer count q.offset handle false) w tr
        ⟨STATUS_SUCCESS, some (BitVec.ofNat 32 (q.buffer.take count.toNat).length)⟩ w' ∧
      w'.os.content = splice w.os.content w.os.pointer (q.buffer.take count.toNat) := by
  let written : World OpenFile :=
    { w with
      lastError := 0
      os :=
        { content := splice w.os.content w.os.pointer (q.buffer.take count.toNat)
          pointer := w.os.pointer + (q.buffer.take count.toNat).length } }
  have hwrite : step env (fileOn handle) w (.win32 (.writeFile handle (q.buffer.take count.toNat)))
      (.ok (BitVec.ofNat 32 (q.buffer.take count.toNat).length) 0) written :=
    ⟨trivial, _, fileOn_ok rfl rfl, rfl⟩
  obtain ⟨tr, w', hrun⟩ : ∃ tr w', Run (step env (fileOn handle)) (countWrite handle) written tr () w' :=
    exists_run_countWrite
  refine ⟨_, w', .call hwrite (hrun.bind (run_print.bind .done)), ?_⟩
  exact sat_keepsContent keepsContent_countWrite tr () w' hrun

theorem run_reportError {format : String} {args : DWORD → List PrintArg}
    {f : NTSTATUS → WriteFileResult} :
    ∃ tr, Run (step env (fileOn handle))
      (reportError env format args handle false >>= fun status => pure (f status)) w tr
      (f (env.ntStatusFromWin32 w.lastError)) w :=
  ⟨_, .call ⟨rfl, rfl⟩ (run_print.bind .done)⟩

theorem run_program_end {tr : Trace} {r : WriteFileResult} {w' : World OpenFile}
    (hopen : handle ≠ 0 ∧ handle ≠ INVALID_HANDLE_VALUE) (hend : q.info.writeToEndOfFile = true)
    (h : Run (step env (fileOn handle))
      (writeAtEnd env q.buffer q.numberOfBytesToWrite q.offset handle false) w tr r w') :
    ∃ tr', Run (step env (fileOn handle)) (q.program env handle) w tr' r w' := by
  refine ⟨_ ++ tr, run_print.bind ?_⟩
  unfold reopen
  rw [if_neg (not_or.mpr hopen)]
  exact Run.ite_pos hend h

theorem run_program_at {tr : Trace} {r : WriteFileResult} {w' : World OpenFile}
    (hopen : handle ≠ 0 ∧ handle ≠ INVALID_HANDLE_VALUE) (hplain : q.info.writeToEndOfFile = false)
    (h : Run (step env (fileOn handle)) (writeAt env q.buffer q.numberOfBytesToWrite q.offset
      { q.info with context := handle } handle false) w tr r w') :
    ∃ tr', Run (step env (fileOn handle)) (q.program env handle) w tr' r w' := by
  refine ⟨_ ++ tr, run_print.bind ?_⟩
  unfold reopen
  rw [if_neg (not_or.mpr hopen)]
  exact Run.ite_neg (fun hend => absurd (hplain.symm.trans hend) Bool.false_ne_true) h

theorem run_fileOn {α : Type} {c : Win32Call} {f : Outcome c.Value → Op α} {tr : Trace} {a : α}
    {w' : World OpenFile} (r : Outcome c.Value) (hc : c.handle? = some handle)
    (hallowed : c.Allowed env r) (hr : w.os.Allows c r)
    (h : Run (step env (fileOn handle)) (f r)
      { w with lastError := r.lastError, os := w.os.after c r } tr a w') :
    Run (step env (fileOn handle)) (win32 c >>= f) w (⟨.win32 c, r⟩ :: tr) a w' :=
  .call ⟨hallowed, _, fileOn_ok hc hr, rfl⟩ h

theorem exists_run_writeAtEnd (hend : q.info.writeToEndOfFile = true) {r : WriteFileResult}
    {content' : List Byte} (h : q.Wrote env r w.os.content content') :
    ∃ tr r' w', Run (step env (fileOn handle))
        (writeAtEnd env q.buffer q.numberOfBytesToWrite q.offset handle false) w tr r' w' ∧
      r'.status = r.status ∧ w'.os.content = content' := by
  cases h with
  | put _ hplace =>
      rw [WriteCall.place_end hend] at hplace
      cases hplace
      obtain ⟨tr, w', hrun, hcontent⟩ := exists_run_writeAtPointer (q := q)
        (w := { w with lastError := 0, os := { w.os with pointer := w.os.content.length } })
      exact ⟨_, _, w', run_fileOn (.ok () 0) rfl trivial trivial hrun, rfl, hcontent⟩
  | dropped hplain => exact Bool.noConfusion (hplain.symm.trans hend)
  | failed e =>
      obtain ⟨tr, hrun⟩ := run_reportError (f := fun status => { status := status })
      exact ⟨_, _, _, run_fileOn (.fail e) rfl trivial trivial hrun, rfl, rfl⟩

theorem exists_run_writeAt (hplain : q.info.writeToEndOfFile = false) {r : WriteFileResult}
    {content' : List Byte} (h : q.Wrote env r w.os.content content') :
    ∃ tr r' w', Run (step env (fileOn handle)) (writeAt env q.buffer q.numberOfBytesToWrite q.offset
        { q.info with context := handle } handle false) w tr r' w' ∧
      r'.status = r.status ∧ w'.os.content = content' := by
  cases h with
  | put hseek hplace =>
      unfold WriteCall.place at hplace
      rw [hplain, if_neg Bool.false_ne_true] at hplace
      split at hplace
      · next hsized =>
          obtain ⟨count, hcount, heq⟩ := Option.map_eq_some_iff.mp hplace
          cases heq
          have hlow : (fileSize w.os.content).setWidth 32 ≠ INVALID_FILE_SIZE := hsized
          obtain ⟨tr, w', hrun, hcontent⟩ := exists_run_writeAtPointer (q := q)
            (w := { w with lastError := 0, os := { w.os with pointer := q.offset.toNat } })
          refine ⟨_ :: ⟨.win32 (.setFilePointerEx handle q.offset .FILE_BEGIN), .ok () 0⟩ :: tr, _, w',
            run_fileOn (c := .getFileSize handle) (.ok (fileSize w.os.content) 0) rfl
              (fun h => absurd h hlow) rfl (Run.ite_neg hlow ?_), rfl, hcontent⟩
          have hcount' : bytesToWrite q.info.pagingIo q.offset (fileSize w.os.content)
            q.numberOfBytesToWrite = some count := hcount
          rw [hcount']
          exact run_fileOn (c := .setFilePointerEx handle q.offset .FILE_BEGIN) (.ok () 0) rfl trivial
            (hseek hplain) hrun
      · cases hplace
  | dropped _ hsized hnone =>
      have hlow : (fileSize w.os.content).setWidth 32 ≠ INVALID_FILE_SIZE := hsized
      refine ⟨[_], ⟨STATUS_SUCCESS, some 0⟩, { w with lastError := 0 },
        run_fileOn (c := .getFileSize handle) (.ok (fileSize w.os.content) 0) rfl
          (fun h => absurd h hlow) rfl (Run.ite_neg hlow ?_), rfl, rfl⟩
      have hnone' : bytesToWrite q.info.pagingIo q.offset (fileSize w.os.content)
        q.numberOfBytesToWrite = none := hnone
      rw [hnone']
      exact .done
  | failed e =>
      obtain ⟨tr, hrun⟩ := run_reportError (f := fun status => { status := status })
      exact ⟨_, _, _, run_fileOn (.fail e) rfl trivial trivial hrun, rfl, rfl⟩

/-- **What `Wrote` allows a write alone can do**, with the same status. -/
theorem WriteCall.Wrote.exists_run {r : WriteFileResult} {content' : List Byte}
    (hopen : handle ≠ 0 ∧ handle ≠ INVALID_HANDLE_VALUE) (h : q.Wrote env r w.os.content content') :
    ∃ tr r' w', Run (step env (fileOn handle)) (q.program env handle) w tr r' w' ∧
      r'.status = r.status ∧ w'.os.content = content' := by
  cases hend : q.info.writeToEndOfFile with
  | true =>
      obtain ⟨tr, r', w', hrun, hend'⟩ := exists_run_writeAtEnd hend h
      obtain ⟨tr', hrun'⟩ := run_program_end hopen hend hrun
      exact ⟨tr', r', w', hrun', hend'⟩
  | false =>
      obtain ⟨tr, r', w', hrun, hend'⟩ := exists_run_writeAt hend h
      obtain ⟨tr', hrun'⟩ := run_program_at hopen hend hrun
      exact ⟨tr', r', w', hrun', hend'⟩

end

/-! ## Reads -/

section

variable {env : Env} {handle : HANDLE}

/-- The calls that report and close do not write to the file. -/
theorem housekeeping_keepsContent : Housekeeping fun c => c.keepsContent = true where
  getLastError := rfl
  print := fun _ _ => rfl
  closeHandle := fun _ => rfl
  invalidParameter := rfl

/-- A read leaves the bytes of the file alone. -/
theorem keepsContent_read {q : ReadCall} :
    OnlyCalls (fun c => c.keepsContent = true) (q.program env handle) :=
  housekeeping_keepsContent.onlyCalls_read (fun _ => rfl) (fun _ _ _ => rfl) rfl (fun _ _ => rfl)
    fun _ _ _ _ => Housekeeping.onlyCalls_fillCache housekeeping_keepsContent.toReportCalls rfl rfl
      (fun _ => rfl) (fun _ _ => rfl) fun _ => rfl

end

/-! ## Writes and reads side by side -/

section

variable {ι κ : Type}

/-- What a thread returns: those in `ι` write and those in `κ` read. -/
@[reducible] def Returned (ι κ : Type) : ι ⊕ κ → Type
  | .inl _ => WriteFileResult
  | .inr _ => ReadFileResult

abbrev SharedPool (ι κ : Type) := Pool Call Answer DWORD (World OpenFile) (Returned ι κ)

abbrev SharedRun (ι κ : Type) := List (((ι ⊕ κ) × Event Call Answer) × SharedPool ι κ)

/-- All the calls at their beginnings, each on a thread with some last error. -/
def atOnce (env : Env) (handle : HANDLE) (writes : ι → WriteCall) (reads : κ → ReadCall)
    (lastErrors : ι ⊕ κ → DWORD) (w : World OpenFile) : SharedPool ι κ where
  threads
    | .inl i => (lastErrors (.inl i), (writes i).program env handle)
    | .inr j => (lastErrors (.inr j), (reads j).program env handle)
  shared := w

/-- The writes run one at a time: what they leave of the file.  Each reports the status it
reported in `results`. -/
inductive OneAtATime (env : Env) (handle : HANDLE) (writes : ι → WriteCall)
    (results : ι → WriteFileResult) : World OpenFile → List ι → List Byte → Prop
  | nil {w : World OpenFile} : OneAtATime env handle writes results w [] w.os.content
  | cons {w w' : World OpenFile} {i : ι} {tr : Trace} {r : WriteFileResult} {order : List ι}
      {content : List Byte} :
      Run (step env (fileOn handle)) ((writes i).program env handle) w tr r w' →
      r.status = (results i).status → OneAtATime env handle writes results w' order content →
      OneAtATime env handle writes results w (i :: order) content

/-- The file ends as if the writes had run one at a time, and every write that succeeded, not
being one at the end of the file, put its bytes at its offset. -/
def Serializable (env : Env) (handle : HANDLE) (writes : ι → WriteCall) (s : SharedPool ι κ)
    (run : SharedRun ι κ) (results : ι → WriteFileResult) : Prop :=
  (∃ order : List ι, order.Nodup ∧ (∀ i, i ∈ order) ∧
    OneAtATime env handle writes results s.shared order (final s run).shared.os.content) ∧
  ∀ i, (results i).status = STATUS_SUCCESS → (writes i).info.writeToEndOfFile = false →
    ∃ x ∈ moves s run, x.2.1.1 = .inl i ∧
      (writes i).Puts (results i) x.1.shared.os.content x.2.2.shared.os.content

/-- A step of a thread finds the write it belongs to undisturbed. -/
def Undisturbed (writes : ι → WriteCall) : ι ⊕ κ → World OpenFile → (c : Call) → Answer c → Prop
  | .inl i, w, c, r => (writes i).Undisturbed w c r
  | .inr _, _, _, _ => True

/-- Effects of writes, one after the other, are runs one after the other. -/
theorem oneAtATime_of_serial {env : Env} {handle : HANDLE} {writes : ι → WriteCall}
    {results : ι → WriteFileResult} (hopen : handle ≠ 0 ∧ handle ≠ INVALID_HANDLE_VALUE)
    {E : ι ⊕ κ → List Byte → List Byte → Prop}
    (hwrite : ∀ i c c', E (.inl i) c c' → (writes i).Wrote env (results i) c c')
    (hread : ∀ j c c', ¬ E (.inr j) c c') {order : List (ι ⊕ κ)} {c c' : List Byte}
    (h : Serial E c order c') (w : World OpenFile) (hw : w.os.content = c) :
    ∃ order', order = order'.map .inl ∧ OneAtATime env handle writes results w order' c' := by
  induction h generalizing w with
  | nil => exact ⟨[], rfl, hw ▸ .nil⟩
  | @cons t c₀ c₁ c₂ order heffect _ ih =>
      cases t with
      | inr j => exact absurd heffect (hread j _ _)
      | inl i =>
          have hwrote := hwrite i _ _ heffect
          rw [← hw] at hwrote
          obtain ⟨tr, r, w', hrun, hstatus, hcontent⟩ := hwrote.exists_run hopen
          obtain ⟨order', horder, hrest⟩ := ih w' hcontent
          exact ⟨i :: order', congrArg (List.cons _) horder, .cons hrun hstatus hrest⟩

/-- **Threads.**  Any number of writes and reads on one handle, their calls in any order: if
every write goes to the place it would take now and every size can be told from an error, the
file ends as if the writes had run one at a time, and those that succeeded are at their
offsets. -/
theorem serializable_of_undisturbed [DecidableEq ι] [DecidableEq κ] (env : Env) (handle : OpenHandle)
    (writes : ι → WriteCall) (reads : κ → ReadCall) (lastErrors : ι ⊕ κ → DWORD) (w : World OpenFile)
    (run : SharedRun ι κ) (results : (t : ι ⊕ κ) → Returned ι κ t)
    (hrun : Path (fileMachine env handle.1).Step (atOnce env handle.1 writes reads lastErrors w) run)
    (hdone : ∀ t, ((final (atOnce env handle.1 writes reads lastErrors w) run).threads t).2 =
      .done (results t))
    (hcond : Along (fun s e _ => Undisturbed writes e.1 s.shared e.2.call e.2.answer)
      (atOnce env handle.1 writes reads lastErrors w) run) :
    Serializable env handle.1 writes (atOnce env handle.1 writes reads lastErrors w) run
      (fun i => results (.inl i)) := by
  let E : (t : ι ⊕ κ) → Returned ι κ t → List Byte → List Byte → Prop
    | .inl i, r, c, c' => (writes i).Wrote env r c c'
    | .inr _, _, _, _ => False
  have hstanding : (fileMachine env handle.1).Standing (fun c => c.keepsContent = true)
      (fun w => w.os.content) (Undisturbed writes) E (fun t => t.isLeft = true)
      (atOnce env handle.1 writes reads lastErrors w) := by
    constructor
    · intro t ht
      cases t with
      | inl i => exact takesEffect_write handle.2
      | inr j => cases ht
    · intro t ht
      cases t with
      | inl i => exact absurd rfl ht
      | inr j => exact Machine.ensures_of_onlyCalls keepsContent_read fun _ _ => trivial
  obtain ⟨order, hnodup, hmem, hserial, hmoves⟩ :=
    Machine.serial fileMachine_content hrun hcond hdone hstanding
  have hwrote : ∀ i c c', E (.inl i) (results (.inl i)) c c' →
      (writes i).Wrote env (results (.inl i)) c c' := fun _ _ _ h => h
  obtain ⟨order', rfl, hone⟩ := oneAtATime_of_serial handle.2 hwrote (fun j c c' h => h) hserial w rfl
  refine ⟨⟨order', List.Nodup.of_map _ hnodup, fun i => ?_, hone⟩, fun i hstatus hplain => ?_⟩
  · obtain ⟨j, hj, hij⟩ := List.mem_map.mp ((hmem (.inl i)).mpr rfl)
    cases hij
    exact hj
  · obtain ⟨x, hx, hxi, heffect⟩ := hmoves (.inl i) rfl
    exact ⟨x, hx, hxi, (hwrote i _ _ heffect).puts hstatus hplain⟩

/-- The answers of a platform on which nothing fails. -/
def reply (w : World OpenFile) : (c : Call) → Option (Answer c × World OpenFile)
  | .print _ _ => some ((), w)
  | .writeCount h =>
      some ((w.writeCounts h).getD 0,
        { w with writeCounts := Function.update w.writeCounts h (some ((w.writeCounts h).getD 0)) })
  | .incWriteCount h =>
      some ((),
        { w with
          writeCounts := Function.update w.writeCounts h (some ((w.writeCounts h).getD 0 + 1)) })
  | .win32 (.getFileSize h) =>
      if h = 8 ∧ WriteCall.Sized w.os.content then
        some (.ok (fileSize w.os.content) 0, { w with lastError := 0 })
      else none
  | .win32 (.setFilePointerEx h distanceToMove .FILE_BEGIN) =>
      if h = 8 ∧ 0 ≤ distanceToMove.toInt then
        some (.ok () 0,
          { w with lastError := 0, os := { w.os with pointer := distanceToMove.toNat } })
      else none
  | .win32 (.writeFile h data) =>
      if h = 8 then
        some (.ok (BitVec.ofNat 32 data.length) 0,
          { w with lastError := 0, os := w.os.after (.writeFile h data) (.ok 0 0) })
      else none
  | _ => none

theorem reply_answers {debugMode : Bool} (w : World OpenFile) (c : Call) (r : Answer c)
    (w' : World OpenFile) (h : reply w c = some (r, w')) :
    (fileMachine (.plain debugMode) 8).answers w c r w' := by
  unfold reply at h
  split at h
  · cases h
    exact ⟨w.lastError, fun _ => rfl, rfl⟩
  · cases h
    exact ⟨rfl, rfl⟩
  · cases h
    exact rfl
  · split at h
    · next hsized =>
        obtain ⟨rfl, hsized⟩ := hsized
        cases h
        exact ⟨fun h => absurd h hsized, _, fileOn_ok rfl rfl, rfl⟩
    · cases h
  · split at h
    · next hseek =>
        obtain ⟨rfl, hseek⟩ := hseek
        cases h
        exact ⟨trivial, _, fileOn_ok rfl hseek, rfl⟩
    · cases h
  · split at h
    · next hh =>
        subst hh
        cases h
        exact ⟨trivial, _, fileOn_ok rfl rfl, rfl⟩
    · cases h
  · cases h

/-- Two writes of one byte each, at the beginning of the file and behind it. -/
def twoWrites : Bool → WriteCall
  | false => { fileName := wide ['\\', 'a'], buffer := [1], numberOfBytesToWrite := 1, offset := 0 }
  | true => { fileName := wide ['\\', 'a'], buffer := [2], numberOfBytesToWrite := 1, offset := 5 }

/-- The two on the handle of an empty file. -/
def twoWritesAtOnce : SharedPool Bool Empty :=
  atOnce (.plain false) 8 twoWrites nofun (fun _ => 0)
    { lastError := 0, nodes := .none, writeCounts := fun _ => none, os := {} }

def playTwoWrites (schedule : List Bool) : SharedRun Bool Empty :=
  Machine.play (fileMachine (.plain false) 8) reply twoWritesAtOnce (schedule.map .inl)

def bothSucceed : (t : Bool ⊕ Empty) → Returned Bool Empty t
  | .inl _ => ⟨STATUS_SUCCESS, some 1⟩

/-- Each write asks for the size, moves the pointer and writes with nothing in between. -/
theorem serializable_twoWrites :
    Serializable (.plain false) 8 twoWrites twoWritesAtOnce
      (playTwoWrites [false, true, true, true, true, false, false, false, false, true, true, true, false,
        false])
      fun _ => ⟨STATUS_SUCCESS, some 1⟩ := by
  have hopen : (8 : HANDLE) ≠ 0 ∧ (8 : HANDLE) ≠ INVALID_HANDLE_VALUE := by decide
  refine serializable_of_undisturbed (.plain false) ⟨8, hopen⟩ twoWrites _ _ _ _ bothSucceed
    (Machine.path_play reply_answers) ?_ ?_
  · rintro ((_ | _) | e)
    · rfl
    · rfl
    · exact nomatch e
  · -- of the steps, only the sizes and the writes ask for anything
    have hempty : WriteCall.Sized [] := by decide
    have hwritten : WriteCall.Sized [0, 0, 0, 0, 0, 2] := by decide
    exact And.intro trivial (And.intro trivial (And.intro hempty (And.intro trivial (And.intro rfl
      (And.intro hwritten (And.intro trivial (And.intro rfl (And.intro trivial (And.intro trivial
        (And.intro trivial (And.intro trivial (And.intro trivial (And.intro trivial trivial)))))))))))))

/-- Alone, the two leave at most six bytes. -/
theorem length_twoWrites {results : Bool → WriteFileResult} {w : World OpenFile} {order : List Bool}
    {content : List Byte} (h : OneAtATime (.plain false) 8 twoWrites results w order content)
    (hw : w.os.content.length ≤ 6) : content.length ≤ 6 := by
  induction h with
  | nil => exact hw
  | @cons w w' i tr r order content hrun _ _ ih =>
      have hplain : (twoWrites i).info.writeToEndOfFile = false := by
        cases i with
        | false => rfl
        | true => rfl
      have hend : (twoWrites i).offset.toNat + (twoWrites i).buffer.length ≤ 6 := by
        cases i with
        | false => decide
        | true => decide
      refine ih ?_
      cases sat_write (by decide) tr r w' hrun with
      | inl hwrote =>
          have hlength := hwrote.length_le hplain
          omega
      | inr hunsized =>
          rw [hunsized.2.2.2]
          exact hw

/-- Both move the pointer before either writes. -/
theorem not_serializable :
    ¬ ∀ (ι κ : Type) [DecidableEq ι] [DecidableEq κ] (env : Env) (handle : OpenHandle)
        (writes : ι → WriteCall) (reads : κ → ReadCall) (lastErrors : ι ⊕ κ → DWORD) (w : World OpenFile)
        (run : SharedRun ι κ) (results : (t : ι ⊕ κ) → Returned ι κ t),
      Path (fileMachine env handle.1).Step (atOnce env handle.1 writes reads lastErrors w) run →
      (∀ t, ((final (atOnce env handle.1 writes reads lastErrors w) run).threads t).2 =
        .done (results t)) →
      Serializable env handle.1 writes (atOnce env handle.1 writes reads lastErrors w) run
        (fun i => results (.inl i)) := by
  intro hclaim
  have hserial := hclaim Bool Empty (.plain false) ⟨8, by decide⟩ twoWrites nofun (fun _ => 0) _
    (playTwoWrites [false, false, false, true, true, true, false, true, false, false, false, true, true, true])
    bothSucceed (Machine.path_play reply_answers) (by
      rintro ((_ | _) | e)
      · rfl
      · rfl
      · exact nomatch e)
  obtain ⟨⟨order, -, -, hone⟩, -⟩ := hserial
  have hlength := length_twoWrites hone (by decide)
  exact absurd hlength (by decide)

end

end SeamlessSmb
