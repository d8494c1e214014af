/-
# `FileOps.SingleWrite` — one write, when nothing fails

`MirrorWriteFile` asks for the size of the file, clamps a paged write to it, moves the
pointer and writes.  With `WriteToEndOfFile` it goes straight to the end, and asks for no
size.  `GetFileSize` delivers the size in two halves and its error in the lower one.

| | |
| :-- | :-- |
| `smooth` | the platform with the file, on which every call succeeds |
| `WriteCall.Effect` | what a write then does, and what it returns |
| `WriteCall.Correct` | what it should do, by the rules of `DOKAN_OPERATIONS.WriteFile` |

**Proved here:** a write that meets no failure is correct exactly if it is not a paged write
to the end of the file, which makes the file longer, and the lower half of the size is not
the error value, in which case nothing is written and success is reported
(`write_correct_iff`).
-/
import SeamlessSmb.FileOps.SharedHandle

namespace SeamlessSmb

open Calls

/-! ## A platform without failures -/

/-- The file is `f`, whatever handle is on it, and every call succeeds. -/
def smooth (f : OpenFile) (c : Win32Call) (r : Outcome c.Value) (f' : OpenFile) : Prop :=
  r.succeeded = true ∧ f.Allows c r ∧ f' = f.after c r

namespace WriteCall

/-- The callback. -/
def callback (env : Env) (q : WriteCall) : Op WriteFileResult :=
  mirrorWriteFile env q.fileName q.buffer q.numberOfBytesToWrite q.offset q.info

/-- What a write does where nothing fails, and what it returns. -/
inductive Effect (q : WriteCall) (content : List Byte) : WriteFileResult → List Byte → Prop
  | put {pos : Nat} {data : List Byte} : q.place content = some (pos, data) →
      Effect q content ⟨STATUS_SUCCESS, some (BitVec.ofNat 32 data.length)⟩ (splice content pos data)
  | dropped : q.info.writeToEndOfFile = false → Sized content → q.count? content = none →
      Effect q content ⟨STATUS_SUCCESS, some 0⟩ content
  /-- The size is taken for an error, and the error for none. -/
  | unsized : q.info.writeToEndOfFile = false → ¬ Sized content →
      Effect q content ⟨STATUS_SUCCESS, none⟩ content

/-- What a write should do: without paging the buffer goes to its place; a paged write is
cut off at the end of the file, and never moves it. -/
structure Correct (q : WriteCall) (content : List Byte) (r : WriteFileResult) (content' : List Byte) :
    Prop where
  status : r.status = STATUS_SUCCESS
  plain : q.info.pagingIo = false →
    content' = splice content
        (if q.info.writeToEndOfFile = true then content.length else q.offset.toNat) q.buffer ∧
      r.numberOfBytesWritten = some q.numberOfBytesToWrite
  paged : q.info.pagingIo = true → q.info.writeToEndOfFile = false →
    content' = splice content q.offset.toNat
        (q.buffer.take (min (q.offset.toNat + q.buffer.length) content.length - q.offset.toNat)) ∧
      r.numberOfBytesWritten =
        some (BitVec.ofNat 32
          (min (q.offset.toNat + q.buffer.length) content.length - q.offset.toNat))
  kept : q.info.pagingIo = true → content'.length = content.length

end WriteCall

section

variable {env : Env} {q : WriteCall} {w w' : World OpenFile} {handle : HANDLE} {opened : Bool}

theorem smooth_content {f f' : OpenFile} {c : Win32Call} {r : Outcome c.Value}
    (hc : Call.keepsContent (.win32 c) = true) (h : smooth f c r f') : f'.content = f.content := by
  rw [h.2.2]
  unfold OpenFile.after
  split
  all_goals first
    | rfl
    | cases hc

theorem step_smooth {c : Call} {r : Answer c} (hc : c.keepsContent = true)
    (h : step env smooth w c r w') : w'.os.content = w.os.content := by
  rcases step_aside h with ⟨x, rfl⟩ | ⟨hos, -⟩
  · obtain ⟨-, f, hf, rfl⟩ := h
    exact smooth_content hc hf
  · rw [hos]

/-- A program that does not write to the file. -/
theorem sat_smooth_bind {α β : Type} {p : Op α} {f : α → Op β} {Q : Trace → β → World OpenFile → Prop}
    (hp : OnlyCalls (fun c => c.keepsContent = true) p)
    (hf : ∀ tr a w', w'.os.content = w.os.content →
      Sat (step env smooth) (f a) w' fun tr' => Q (tr ++ tr')) :
    Sat (step env smooth) (p >>= f) w Q :=
  sat_bind.mpr ((hp.sat (fun w : World OpenFile => w.os.content)
    (fun _ _ _ _ hc h => step_smooth hc h) w).mono fun tr a w' h => hf tr a w' h.2)

/-- A call that succeeds, and does to the file what it does. -/
theorem sat_succeeds_bind {β : Type} {c : Win32Call} {f : Outcome c.Value → Op β}
    {Q : Trace → β → World OpenFile → Prop}
    (hf : ∀ v e w', Win32Call.Allowed env c (.ok v e) → w.os.Allows c (.ok v e) → w'.lastError = e →
      w'.os = w.os.after c (.ok v e) →
      Sat (step env smooth) (f (.ok v e)) w' fun tr => Q (⟨.win32 c, .ok v e⟩ :: tr)) :
    Sat (step env smooth) (win32 c >>= f) w Q := by
  refine sat_perform_bind.mpr fun r w₁ hstep => ?_
  obtain ⟨hallowed, g, ⟨hsucceeded, hallows, hg⟩, rfl⟩ := hstep
  cases r with
  | fail e => cases hsucceeded
  | ok v e => exact hf v e _ hallowed hallows rfl hg

theorem keepsContent_closeOpened :
    OnlyCalls (fun c => c.keepsContent = true) (closeOpened handle opened) :=
  OnlyCalls.onlyIf fun _ => OnlyCalls.bind (onlyCalls_perform.mpr rfl) fun _ => trivial

/-- Opening succeeds, and leaves the file alone. -/
theorem sat_smooth_reopen {path : Op WString} {access share : DWORD} {note : Op Unit}
    {info : DokanFileInfo} (hpath : OnlyCalls (fun c => c.keepsContent = true) path)
    (hnote : OnlyCalls (fun c => c.keepsContent = true) note) :
    Sat (step env smooth) (reopen env path access share note info) w fun _ file w' =>
      (∃ handle opened, file = .ok (handle, opened)) ∧ w'.os.content = w.os.content := by
  unfold reopen
  split
  · refine sat_smooth_bind (onlyCalls_perform.mpr rfl) fun _ _ w₁ h₁ => ?_
    refine sat_smooth_bind hpath fun _ filePath w₂ h₂ => ?_
    refine sat_bind.mpr (sat_succeeds_bind fun handle e w₃ _ _ _ hos₃ => sat_pure.mpr ?_)
    rw [if_neg handle.2.2]
    refine sat_smooth_bind hnote fun _ _ w₄ h₄ => sat_pure.mpr ⟨⟨_, _, rfl⟩, ?_⟩
    rw [h₄, hos₃, ← h₁, ← h₂]
    rfl
  · exact sat_pure.mpr ⟨⟨_, _, rfl⟩, rfl⟩

/-! ## What a write does -/

/-- With the pointer set, the bytes go where it points. -/
theorem sat_smooth_writeAtPointer {count : DWORD} :
    Sat (step env smooth) (writeAtPointer env q.buffer count q.offset handle opened) w fun _ r w' =>
      r = ⟨STATUS_SUCCESS, some (BitVec.ofNat 32 (q.buffer.take count.toNat).length)⟩ ∧
        w'.os.content = splice w.os.content w.os.pointer (q.buffer.take count.toNat) := by
  refine sat_succeeds_bind fun written e w₁ _ hwritten _ hos₁ => ?_
  have hcontent : w₁.os.content = splice w.os.content w.os.pointer (q.buffer.take count.toNat) := by
    rw [hos₁]
    rfl
  refine sat_smooth_bind keepsContent_countWrite fun _ _ w₂ h₂ => ?_
  refine sat_smooth_bind (onlyCalls_perform.mpr rfl) fun _ _ w₃ h₃ => ?_
  refine sat_smooth_bind keepsContent_closeOpened fun _ _ w₄ h₄ => sat_pure.mpr ?_
  rw [h₄, h₃, h₂, hcontent, show written = _ from hwritten]
  exact ⟨rfl, rfl⟩

/-- A write to the end of the file. -/
theorem sat_smooth_writeAtEnd (hend : q.info.writeToEndOfFile = true) :
    Sat (step env smooth) (writeAtEnd env q.buffer q.numberOfBytesToWrite q.offset handle opened) w
      fun _ r w' => q.Effect w.os.content r w'.os.content := by
  refine sat_succeeds_bind fun u e w₁ _ _ _ hos₁ => ?_
  refine sat_smooth_writeAtPointer.mono fun _ r w₂ hwrote => ?_
  rw [hwrote.1, hwrote.2, hos₁]
  exact .put (WriteCall.place_end hend)

/-- A write at an offset. -/
theorem sat_smooth_writeAt (hplain : q.info.writeToEndOfFile = false) :
    Sat (step env smooth)
      (writeAt env q.buffer q.numberOfBytesToWrite q.offset q.info handle opened) w
      fun _ r w' => q.Effect w.os.content r w'.os.content := by
  refine sat_succeeds_bind fun size e w₁ hallowed hsize hlast hos₁ => ?_
  have hcontent₁ : w₁.os.content = w.os.content := by
    rw [hos₁]
    rfl
  have hsize : size = fileSize w.os.content := hsize
  dsimp only
  split
  · next hlow =>
      -- `GetLastError` is asked what went wrong, and answers that nothing did
      have hzero : e = 0 := hallowed hlow
      have hunsized : ¬ WriteCall.Sized w.os.content := by
        intro hsized
        rw [hsize] at hlow
        exact hsized hlow
      refine sat_bind.mpr (sat_perform_bind.mpr fun error w₂ herror => ?_)
      obtain ⟨herror, hw₂⟩ := herror
      have hsuccess : env.ntStatusFromWin32 error = STATUS_SUCCESS := by
        rw [herror, hlast, hzero]
        exact env.ntStatus_success
      refine sat_smooth_bind (onlyCalls_perform.mpr rfl) fun _ _ w₃ h₃ => ?_
      refine sat_smooth_bind keepsContent_closeOpened fun _ _ w₄ h₄ => sat_pure.mpr (sat_pure.mpr ?_)
      rw [h₄, h₃, hw₂, hcontent₁, hsuccess]
      exact .unsized hplain hunsized
  · next hlow =>
      have hsized : WriteCall.Sized w.os.content := by
        intro hbad
        rw [← hsize] at hbad
        exact hlow hbad
      have hcount : q.count? w.os.content =
          bytesToWrite q.info.pagingIo q.offset size q.numberOfBytesToWrite := by
        rw [hsize]
        rfl
      cases hbytes : bytesToWrite q.info.pagingIo q.offset size q.numberOfBytesToWrite with
      | none =>
          refine sat_smooth_bind keepsContent_closeOpened fun _ _ w₂ h₂ => sat_pure.mpr ?_
          rw [h₂, hcontent₁]
          exact .dropped hplain hsized (hcount.trans hbytes)
      | some count =>
          refine sat_succeeds_bind fun u e w₂ _ _ _ hos₂ => ?_
          refine sat_smooth_writeAtPointer.mono fun _ r w₃ hwrote => ?_
          rw [hwrote.1, hwrote.2, hos₂, ← hcontent₁]
          exact .put (WriteCall.place_at hplain (hcontent₁ ▸ hsized) (hcontent₁ ▸ hcount.trans hbytes))

/-- **A write** that meets no failure. -/
theorem sat_smooth_write :
    Sat (step env smooth) (q.callback env) w fun _ r w' => q.Effect w.os.content r w'.os.content := by
  refine sat_smooth_bind (onlyCalls_perform.mpr rfl) fun _ _ w₁ h₁ => ?_
  refine sat_bind.mpr ((sat_smooth_reopen housekeeping_keepsContent.onlyCalls_filePathOf
    housekeeping_keepsContent.onlyCalls_print).mono fun _ file w₂ hopened => ?_)
  obtain ⟨⟨handle, opened, rfl⟩, h₂⟩ := hopened
  rw [← h₁, ← h₂]
  dsimp only
  split
  · next hend => exact sat_smooth_writeAtEnd hend
  · next hplain => exact sat_smooth_writeAt (Bool.eq_false_iff.mpr hplain)

end

/-! ## When it is what it should be -/

theorem length_splice_of_le {content data : List Byte} {pos : Nat}
    (h : pos + data.length ≤ content.length) : (splice content pos data).length = content.length := by
  unfold splice
  split
  · rfl
  · simp only [List.length_append, List.length_take, List.length_replicate, List.length_drop]
    omega

theorem length_splice_end {content data : List Byte} :
    (splice content content.length data).length = content.length + data.length := by
  unfold splice
  split
  · next hnil => rw [hnil, List.length_nil, Nat.add_zero]
  · simp only [List.length_append, List.length_take, List.length_replicate, List.length_drop]
    omega

/-- How far a paged write may go, where no sum overflows. -/
theorem bytesToWrite_paged {offset : BitVec 64} {n : DWORD} {length : Nat}
    (hlength : length < 0x8000000000000000) (hreach : offset.toNat + n.toNat < 0x8000000000000000) :
    bytesToWrite true offset (BitVec.ofNat 64 length) n =
      if length ≤ offset.toNat then none
      else some (BitVec.ofNat 32 (min (offset.toNat + n.toNat) length - offset.toNat)) := by
  have hsize : (BitVec.ofNat 64 length).toNat = length := by
    rw [BitVec.toNat_ofNat]
    omega
  have hn := n.isLt
  have hsum : (offset + n.setWidth 64).toNat = offset.toNat + n.toNat := by
    rw [BitVec.toNat_add, BitVec.toNat_setWidth]
    omega
  unfold bytesToWrite
  rw [if_pos rfl]
  have hbehind : offset ≥ BitVec.ofNat 64 length ↔ length ≤ offset.toNat := by
    rw [ge_iff_le, BitVec.le_def, hsize]
  have hover : offset + n.setWidth 64 > BitVec.ofNat 64 length ↔ length < offset.toNat + n.toNat := by
    rw [gt_iff_lt, BitVec.lt_def, hsize, hsum]
  simp only [hbehind, hover]
  split
  · rfl
  · next hbefore =>
      split
      · next hcut =>
          rw [Nat.min_eq_right (Nat.le_of_lt hcut)]
          congr 1
          apply BitVec.eq_of_toNat_eq
          rw [BitVec.toNat_setWidth, BitVec.toNat_sub, hsize, BitVec.toNat_ofNat]
          omega
      · next hwhole =>
          rw [Nat.min_eq_left (Nat.le_of_not_lt hwhole), Nat.add_sub_cancel_left, BitVec.ofNat_toNat,
            BitVec.setWidth_eq]

section

variable {env : Env} {q : WriteCall} {w w' : World OpenFile} {content content' : List Byte}
  {r : WriteFileResult}

namespace WriteCall

/-- A request as the driver makes it: the buffer is as long as is said, and no sum of sizes
overflows. -/
structure Posed (q : WriteCall) (content : List Byte) : Prop where
  buffer : q.buffer.length = q.numberOfBytesToWrite.toNat
  offset : 0 ≤ q.offset.toInt
  length : content.length + q.buffer.length < 0x8000000000000000
  reach : q.offset.toNat + q.buffer.length < 0x8000000000000000

/-- It is not a paged write to the end of the file, unless an empty one; and the size, if it
is asked for, is one that can be told from an error. -/
def Safe (q : WriteCall) (content : List Byte) : Prop :=
  (q.info.writeToEndOfFile = true → q.info.pagingIo = true → q.buffer = []) ∧
    (q.info.writeToEndOfFile = false → Sized content)

theorem Posed.bytes (h : q.Posed content) : q.bytes = q.buffer := by
  unfold WriteCall.bytes
  rw [← h.buffer, List.take_length]

theorem Posed.count? (h : q.Posed content) (hpaging : q.info.pagingIo = true) :
    q.count? content =
      if content.length ≤ q.offset.toNat then none
      else some (BitVec.ofNat 32
        (min (q.offset.toNat + q.buffer.length) content.length - q.offset.toNat)) := by
  have hlength := h.length
  have hreach := h.reach
  rw [h.buffer] at hreach
  unfold WriteCall.count? fileSize
  rw [hpaging, bytesToWrite_paged (Nat.lt_of_le_of_lt (Nat.le_add_right ..) hlength) hreach, h.buffer]

/-- A write to the end of the file: all of it, paged or not. -/
theorem Posed.correct_end (h : q.Posed content) (hend : q.info.writeToEndOfFile = true) :
    q.Correct content ⟨STATUS_SUCCESS, some (BitVec.ofNat 32 q.bytes.length)⟩
        (splice content content.length q.bytes) ↔ q.Safe content := by
  rw [h.bytes]
  constructor
  · intro hcorrect
    refine ⟨fun _ hpaging => ?_, fun hplain => Bool.noConfusion (hend.symm.trans hplain)⟩
    have hkept := hcorrect.kept hpaging
    rw [length_splice_end] at hkept
    exact List.length_eq_zero_iff.mp (by omega)
  · intro hsafe
    refine ⟨rfl, fun _ => ?_, fun _ hplain => Bool.noConfusion (hend.symm.trans hplain),
      fun hpaging => ?_⟩
    · rw [if_pos hend, h.buffer, BitVec.ofNat_toNat, BitVec.setWidth_eq]
      exact ⟨rfl, rfl⟩
    · rw [hsafe.1 hend hpaging, splice_nil]

theorem count?_plain (hpaging : q.info.pagingIo = false) :
    q.count? content = some q.numberOfBytesToWrite := by
  unfold WriteCall.count? bytesToWrite
  rw [if_neg (by rw [hpaging]; exact Bool.false_ne_true)]

/-- A write at an offset that is not a paged one: all of it. -/
theorem Posed.correct_plain (h : q.Posed content) (hat : q.info.writeToEndOfFile = false)
    (hpaging : q.info.pagingIo = false) :
    q.Correct content ⟨STATUS_SUCCESS, some (BitVec.ofNat 32 q.bytes.length)⟩
      (splice content q.offset.toNat q.bytes) := by
  rw [h.bytes]
  refine ⟨rfl, fun _ => ?_, fun hpaged => ?_, fun hpaged => ?_⟩
  · rw [hat, if_neg Bool.false_ne_true, h.buffer, BitVec.ofNat_toNat, BitVec.setWidth_eq]
    exact ⟨rfl, rfl⟩
  · exact Bool.noConfusion (hpaging.symm.trans hpaged)
  · exact Bool.noConfusion (hpaging.symm.trans hpaged)

/-- A paged write at an offset within the file: what lies before its end. -/
theorem Posed.correct_paged (h : q.Posed content) {count : DWORD}
    (hpaging : q.info.pagingIo = true) (hcount : q.count? content = some count) :
    q.Correct content
      ⟨STATUS_SUCCESS, some (BitVec.ofNat 32 (q.buffer.take count.toNat).length)⟩
      (splice content q.offset.toNat (q.buffer.take count.toNat)) := by
  rw [h.count? hpaging] at hcount
  split at hcount
  · cases hcount
  · next hwithin =>
      obtain rfl := Option.some.inj hcount
      have hn := q.numberOfBytesToWrite.isLt
      have hbuffer := h.buffer
      have htoNat : (BitVec.ofNat 32
          (min (q.offset.toNat + q.buffer.length) content.length - q.offset.toNat)).toNat =
          min (q.offset.toNat + q.buffer.length) content.length - q.offset.toNat := by
        rw [BitVec.toNat_ofNat]
        omega
      have hlength : (q.buffer.take
          (min (q.offset.toNat + q.buffer.length) content.length - q.offset.toNat)).length =
          min (q.offset.toNat + q.buffer.length) content.length - q.offset.toNat := by
        rw [List.length_take]
        omega
      rw [htoNat, hlength]
      refine ⟨rfl, fun hplain => ?_, fun _ _ => ⟨rfl, rfl⟩, fun _ => ?_⟩
      · exact Bool.noConfusion (hplain.symm.trans hpaging)
      · refine length_splice_of_le ?_
        rw [hlength]
        omega

/-- A paged write behind the file: nothing. -/
theorem Posed.correct_dropped (h : q.Posed content) (hcount : q.count? content = none) :
    q.Correct content ⟨STATUS_SUCCESS, some 0⟩ content := by
  cases hpaging : q.info.pagingIo with
  | false =>
      rw [count?_plain hpaging] at hcount
      cases hcount
  | true =>
      rw [h.count? hpaging] at hcount
      split at hcount
      · next hbehind =>
          have hnothing :
              min (q.offset.toNat + q.buffer.length) content.length - q.offset.toNat = 0 := by omega
          refine ⟨rfl, fun hplain => ?_, fun _ _ => ?_, fun _ => rfl⟩
          · exact Bool.noConfusion (hplain.symm.trans hpaging)
          · rw [hnothing, List.take_zero, splice_nil]
            exact ⟨rfl, rfl⟩
      · cases hcount

/-- What a write does is what it should do exactly if the write is safe. -/
theorem Posed.correct_iff (h : q.Posed content) (heffect : q.Effect content r content') :
    q.Correct content r content' ↔ q.Safe content := by
  cases heffect with
  | @put pos data hplace =>
      cases hat : q.info.writeToEndOfFile with
      | true =>
          rw [place_end hat] at hplace
          cases hplace
          exact h.correct_end hat
      | false =>
          unfold WriteCall.place at hplace
          rw [hat, if_neg Bool.false_ne_true] at hplace
          split at hplace
          · next hsized =>
              have hsafe : q.Safe content :=
                ⟨fun hend => Bool.noConfusion (hat.symm.trans hend), fun _ => hsized⟩
              refine iff_of_true ?_ hsafe
              obtain ⟨count, hcount, hput⟩ := Option.map_eq_some_iff.mp hplace
              cases hput
              cases hpaging : q.info.pagingIo with
              | true => exact h.correct_paged hpaging hcount
              | false =>
                  obtain rfl := Option.some.inj ((count?_plain hpaging).symm.trans hcount)
                  exact h.correct_plain hat hpaging
          · cases hplace
  | dropped hat hsized hcount =>
      have hsafe : q.Safe content := ⟨fun hend => Bool.noConfusion (hat.symm.trans hend), fun _ => hsized⟩
      exact iff_of_true (h.correct_dropped hcount) hsafe
  | unsized hat hunsized =>
      -- `NumberOfBytesWritten` is never set
      refine iff_of_false (fun hcorrect => ?_) fun hsafe => hunsized (hsafe.2 hat)
      cases hpaging : q.info.pagingIo with
      | false => cases (hcorrect.plain hpaging).2
      | true => cases (hcorrect.paged hpaging hat).2

/-! ## The runs -/

/-- The calls of a write; where it sets the pointer to an offset, to one there is. -/
def Makes : Call → Prop
  | .win32 (.createFile ..) | .win32 (.closeHandle _) | .win32 (.getFileSize _)
  | .win32 (.writeFile ..) | .win32 (.flushFileBuffers _)
  | .win32 (.setFilePointerEx _ _ .FILE_END) => True
  | .win32 (.setFilePointerEx _ distanceToMove .FILE_BEGIN) => 0 ≤ distanceToMove.toInt
  | .win32 _ | .invalidParameter | .printSD .. => False
  | _ => True

/-- Where every call succeeds, each of them has an answer. -/
theorem Makes.total {c : Call} (hc : Makes c) (w : World OpenFile) :
    ∃ r w', step env smooth w c r w' := by
  have hhandle : (8 : HANDLE) ≠ 0 ∧ (8 : HANDLE) ≠ INVALID_HANDLE_VALUE := by decide
  have hanswer : ∀ {x : Win32Call} (v : x.Value), x.Allowed env (.ok v 0) → w.os.Allows x (.ok v 0) →
      ∃ r w', step env smooth w (.win32 x) r w' :=
    fun v hallowed hallows => ⟨.ok v 0, _, hallowed, _, ⟨rfl, hallows, rfl⟩, rfl⟩
  by_cases hwin32 : ∃ x, c = .win32 x
  · obtain ⟨x, rfl⟩ := hwin32
    cases x with
    | createFile path access share sd disposition flags => exact hanswer ⟨8, hhandle⟩ trivial trivial
    | closeHandle handle => exact hanswer () trivial trivial
    | getFileSize handle => exact hanswer (fileSize w.os.content) (fun _ => rfl) rfl
    | writeFile handle data => exact hanswer (BitVec.ofNat 32 data.length) trivial rfl
    | flushFileBuffers handle => exact hanswer () trivial trivial
    | setFilePointerEx handle distanceToMove moveMethod =>
        cases moveMethod with
        | FILE_BEGIN => exact hanswer () trivial hc
        | FILE_END => exact hanswer () trivial trivial
    | _ => exact hc.elim
  · have hreturns : c.Returns env := by cases c <;> trivial
    exact step_own_total w c hreturns (not_exists.mp hwin32)

/-- A write whose file is open, or can be opened by its path, has a run. -/
theorem exists_run_callback (hoffset : 0 ≤ q.offset.toInt)
    (hpath : (q.info.context ≠ 0 ∧ q.info.context ≠ INVALID_HANDLE_VALUE) ∨
      (getFilePath env.globals DOKAN_MAX_PATH q.fileName).isSome) :
    ∃ tr r w', Run (step env smooth) (q.callback env) w tr r w' := by
  have hreport : ReportCalls Makes := ⟨trivial, fun _ _ => trivial, fun _ => trivial⟩
  have hreopen : OnlyCalls Makes (reopen env (filePathOf env.globals q.fileName) GENERIC_WRITE
      FILE_SHARE_WRITE (print "\tOpened file to write") q.info) := by
    cases hpath with
    | inl hopen =>
        unfold reopen
        rw [if_neg (not_or.mpr hopen)]
        trivial
    | inr hfits =>
        obtain ⟨path, hpath⟩ := Option.isSome_iff_exists.mp hfits
        have hfilePath : OnlyCalls Makes (filePathOf env.globals q.fileName) := by
          unfold filePathOf
          rw [hpath]
          trivial
        exact hreport.onlyCalls_reopen hfilePath hreport.onlyCalls_print fun _ => trivial
  have honly : OnlyCalls Makes (q.callback env) :=
    hreport.onlyCalls_write hreopen (fun _ => trivial) (fun _ => trivial) (fun _ => hoffset)
      (fun _ _ => trivial) fun _ => Housekeeping.onlyCalls_countWrite trivial trivial trivial trivial
  exact honly.exists_run (fun w _ hc => hc.total w) w

end WriteCall

/-- **A write that meets no failure is correct exactly if it is safe.** -/
theorem write_correct_iff (env : Env) (q : WriteCall) (w : World OpenFile)
    (hposed : q.Posed w.os.content) :
    ((q.info.context ≠ 0 ∧ q.info.context ≠ INVALID_HANDLE_VALUE) ∨
        (getFilePath env.globals DOKAN_MAX_PATH q.fileName).isSome →
      ∃ tr r w', Run (step env smooth) (q.callback env) w tr r w') ∧
    ∀ tr r w', Run (step env smooth) (q.callback env) w tr r w' →
      (q.Correct w.os.content r w'.os.content ↔ q.Safe w.os.content) :=
  ⟨WriteCall.exists_run_callback hposed.offset,
    fun tr r w' hrun => hposed.correct_iff (sat_smooth_write tr r w' hrun)⟩

end

/-! ## Two writes of one byte -/

/-- A file of one byte. -/
def World.oneByte : World OpenFile :=
  { lastError := 0, nodes := .none, writeCounts := fun _ => none, os := { content := [1] } }

/-- A byte at the beginning. -/
def WriteCall.first : WriteCall where
  fileName := wide ['\\', 'a']
  buffer := [2]
  numberOfBytesToWrite := 1
  offset := 0
  info := { context := 8, pagingIo := true }

/-- A byte behind the end. -/
def WriteCall.behind : WriteCall :=
  { WriteCall.first with info := { WriteCall.first.info with writeToEndOfFile := true } }

theorem correct_first :
    ∃ tr r w', Run (step (.plain false) smooth) (WriteCall.first.callback (.plain false)) .oneByte tr r w' ∧
      WriteCall.first.Correct [1] r w'.os.content := by
  have hposed : WriteCall.first.Posed World.oneByte.os.content := by
    constructor
    all_goals decide
  have hsafe : WriteCall.first.Safe World.oneByte.os.content := ⟨Bool.noConfusion, fun _ => by decide⟩
  obtain ⟨hexists, hcorrect⟩ := write_correct_iff (.plain false) .first .oneByte hposed
  obtain ⟨tr, r, w', hrun⟩ := hexists (.inl (by decide))
  exact ⟨tr, r, w', hrun, (hcorrect tr r w' hrun).mpr hsafe⟩

/-- The paged write to the end makes the file longer. -/
theorem not_write_correct :
    ¬ ∀ (env : Env) (q : WriteCall) (w : World OpenFile), q.Posed w.os.content →
      ∀ tr r w', Run (step env smooth) (q.callback env) w tr r w' →
        q.Correct w.os.content r w'.os.content := by
  intro hclaim
  have hposed : WriteCall.behind.Posed World.oneByte.os.content := by
    constructor
    all_goals decide
  have hexists : ∃ tr r w',
      Run (step (.plain false) smooth) (WriteCall.behind.callback (.plain false)) .oneByte tr r w' :=
    WriteCall.exists_run_callback hposed.offset (.inl (by decide))
  obtain ⟨tr, r, w', hrun⟩ := hexists
  have hcorrect := hclaim (.plain false) .behind .oneByte hposed tr r w' hrun
  have hsafe := (hposed.correct_iff (sat_smooth_write tr r w' hrun)).mp hcorrect
  exact List.cons_ne_nil _ _ (hsafe.1 rfl rfl)

end SeamlessSmb
