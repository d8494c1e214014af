/-
# `FileOps.Delete` — checking and carrying out a deletion

Deleting takes two calls.  In the first the driver asks whether the file may go
(`MirrorDeleteFile`, `DeleteDirectory`); with `DeleteOnClose` false it takes an
earlier request back.  In the second, `MirrorCleanup`, the file is closed and, with
`DeleteOnClose` set, deleted.

The node of the file is dropped by a check that goes through: by that of a file with
`DeleteOnClose` true or false, by that of a directory only with `DeleteOnClose` true.

**Proved here:** what each of the three does to the store (`deleteFile_change`,
`deleteDirectory_change`, `cleanup_nodes`).
-/
import SeamlessSmb.FileOps.World

namespace SeamlessSmb

open Calls

/-! ## The callbacks -/

/-- The node goes, the check is passed. -/
def passCheck (fileName : WString) : Op NTSTATUS := do
  let _ ← Prog.perform (Call.deleteFileNode fileName)
  pure STATUS_SUCCESS

/-- `MirrorDeleteFile`. -/
def mirrorDeleteFile (env : Env) (fileName : WString) (info : DokanFileInfo) : Op NTSTATUS := do
  let filePath ← filePathOf env.globals fileName
  print "DeleteFile %s - %d\n" [.str filePath, .num (if info.deleteOnClose then 1 else 0)]
  let dwAttrib ← getFileAttributes filePath
  if IsDirectoryAttr dwAttrib then pure STATUS_ACCESS_DENIED
  else if info.context ≠ 0 ∧ info.context ≠ INVALID_HANDLE_VALUE then do
    let r ← win32 (.setFileDispositionInfo info.context info.deleteOnClose)
    match r with
    | .fail _ => do
        let error ← getLastError
        print "DeleteFile ERROR %s - %d\n" [.str filePath, .num error]
        let error ← getLastError
        pure (env.ntStatusFromWin32 error)
    | .ok _ _ => passCheck fileName
  else passCheck fileName

/-- A directory path as a search pattern: `filePath\*`. -/
def withBackslash (filePath : WString) : WString :=
  if filePath.getLast? = some backslash then filePath else filePath ++ [backslash]

/-- Not one of the two entries every directory has. -/
def RealEntry (cFileName : WString) : Prop := cFileName ≠ [dot, dot] ∧ cFileName ≠ [dot]

instance (s : WString) : Decidable (RealEntry s) := inferInstanceAs (Decidable (_ ∧ _))

/-- The end of `DeleteDirectory`: the loop over the entries stops at the first real
one. -/
def checkEntries (env : Env) (fileName : WString) (listing : Listing) : Op NTSTATUS :=
  match (listing.first :: listing.rest).find? fun s => decide (RealEntry s) with
  | some cFileName => do
      let _ ← win32 .findClose
      print "\tDirectory is not empty: %s\n" [.str cFileName]
      pure STATUS_DIRECTORY_NOT_EMPTY
  | none => do
      let _ ← win32 .findClose
      if listing.final.1 ≠ ERROR_NO_MORE_FILES then do
        print "\tDeleteDirectory error code = %d\n\n" [.num listing.final.1]
        pure (env.ntStatusFromWin32 listing.final.1)
      else passCheck fileName

/-- `DeleteDirectory`. -/
def deleteDirectory (env : Env) (fileName : WString) (info : DokanFileInfo) : Op NTSTATUS := do
  let filePath ← filePathOf env.globals fileName
  print "DeleteDirectory %s - %d\n" [.str filePath, .num (if info.deleteOnClose then 1 else 0)]
  if info.deleteOnClose = false then pure STATUS_SUCCESS
  else if (withBackslash filePath).length + 1 ≥ DOKAN_MAX_PATH then pure STATUS_BUFFER_OVERFLOW
  else do
    let r ← win32 (.findFirstFile (withBackslash filePath ++ wide ['*']))
    match r with
    | .fail _ => do
        let error ← getLastError
        print "\tDeleteDirectory error code = %d\n\n" [.num error]
        pure (env.ntStatusFromWin32 error)
    | .ok listing _ => checkEntries env fileName listing

/-- The end of a deletion in `MirrorCleanup`. -/
def reportDeletion (failure : String) (r : Outcome Unit) : Op Unit :=
  match r with
  | .fail _ => do
      let error ← getLastError
      print failure [.num error]
  | .ok _ _ => print "success\n\n"

/-- The first half of `MirrorCleanup`: the handle is closed. -/
def closeContext (filePath : WString) (info : DokanFileInfo) : Op DokanFileInfo :=
  if info.context ≠ 0 then do
    print "Cleanup: %s\n\n" [.str filePath]
    Prog.perform (Call.eraseWriteCount info.context)
    closeHandle info.context
    pure { info with context := 0 }
  else do
    print "Cleanup: %s\n\tinvalid handle\n\n" [.str filePath]
    pure info

/-- The second half: the file is deleted. -/
def deleteOnClose (filePath : WString) (info : DokanFileInfo) : Op Unit :=
  if info.deleteOnClose = true then do
    print "\tDeleteOnClose\n"
    if info.isDirectory = true then do
      print "  DeleteDirectory "
      let r ← win32 (.removeDirectory filePath)
      reportDeletion "error code = %d\n\n" r
    else do
      print "  DeleteFile "
      let r ← win32 (.deleteFile filePath)
      reportDeletion " error code = %d\n\n" r
  else pure ()

/-- `MirrorCleanup`, with the caller's structure it leaves. -/
def mirrorCleanup (env : Env) (fileName : WString) (info : DokanFileInfo) :
    Op DokanFileInfo := do
  let filePath ← filePathOf env.globals fileName
  let closed ← closeContext filePath info
  deleteOnClose filePath info
  pure closed

theorem onlyCalls_deleteOnClose {P : Call → Prop} {filePath : WString} {info : DokanFileInfo}
    (hget : P .getLastError) (hprint : ∀ format args, P (.print format args))
    (hremove : P (.win32 (.removeDirectory filePath))) (hdelete : P (.win32 (.deleteFile filePath))) :
    OnlyCalls P (deleteOnClose filePath info) := by
  have hreport : ∀ failure r, OnlyCalls P (reportDeletion failure r) := by
    intro failure r
    cases r with
    | ok u e => exact onlyCalls_perform.mpr (hprint _ _)
    | fail e =>
        exact OnlyCalls.bind (onlyCalls_perform.mpr hget) fun _ => onlyCalls_perform.mpr (hprint _ _)
  unfold deleteOnClose
  split
  · refine OnlyCalls.bind (onlyCalls_perform.mpr (hprint _ _)) fun _ => ?_
    split
    · refine OnlyCalls.bind (onlyCalls_perform.mpr (hprint _ _)) fun _ => ?_
      exact OnlyCalls.bind (onlyCalls_perform.mpr hremove) fun r => hreport _ r
    · refine OnlyCalls.bind (onlyCalls_perform.mpr (hprint _ _)) fun _ => ?_
      exact OnlyCalls.bind (onlyCalls_perform.mpr hdelete) fun r => hreport _ r
  · trivial

/-! ## What they do to the store -/

/-- What a check of a file does, by what it asked. -/
def deleteFileChange (fileName : WString) : Trace → Nodes.Change
  | [⟨.win32 (.getFileAttributes _), a⟩] =>
      if IsDirectoryAttr (attributesOf a) then .keep else .drop fileName
  | [_, ⟨.win32 (.setFileDispositionInfo ..), .ok _ _⟩] => .drop fileName
  | _ => .keep

/-- Every entry was delivered, and none is real. -/
def Listing.Empty (listing : Listing) : Prop :=
  (∀ s ∈ listing.first :: listing.rest, ¬ RealEntry s) ∧ listing.final.1 = ERROR_NO_MORE_FILES

instance (listing : Listing) : Decidable listing.Empty := inferInstanceAs (Decidable (_ ∧ _))

/-- What a check of a directory does, by what it asked. -/
def deleteDirectoryChange (fileName : WString) : Trace → Nodes.Change
  | [⟨.win32 (.findFirstFile _), .ok listing _⟩] =>
      if Listing.Empty listing then .drop fileName else .keep
  | _ => .keep

section

variable {O : Type} {env : Env} {os : O → (c : Win32Call) → Outcome c.Value → O → Prop}
  {w w' : World O} {fileName : WString} {info : DokanFileInfo} {tr : Trace}

theorem ends_passCheck :
    Ends env os (passCheck fileName) w (fun shown _ w' =>
      shown = [] ∧ w'.nodes = (w.nodes.deleteFileNode fileName).2) :=
  ends_call fun _ w₁ ⟨_, h₁⟩ => ends_pure ⟨rfl, by rw [h₁]⟩

theorem deleteFile_change {status : NTSTATUS}
    (h : Run (step env os) (mirrorDeleteFile env fileName info) w tr status w') :
    (deleteFileChange fileName (asked tr)).Between w.nodes w'.nodes := by
  have hends : Ends env os (mirrorDeleteFile env fileName info) w (fun shown _ w' =>
      (deleteFileChange fileName shown).Between w.nodes w'.nodes) := by
    refine ends_filePathOf_bind fun path _ => ?_
    refine ends_silent_call trivial fun _ w₁ h₁ => ?_
    refine ends_bind (ends_getFileAttributes.mono fun tr₂ attr w₂ ⟨a, htr₂, ha, h₂⟩ => ?_)
    have h₂ : w₂.nodes = w.nodes := h₂.trans h₁
    rw [htr₂, ha]
    split
    · next hdir =>
        refine ends_pure ?_
        show (if IsDirectoryAttr (attributesOf a) then Nodes.Change.keep else _).Between _ _
        rw [if_pos hdir]
        exact Nodes.Same.of_eq h₂
    · next hdir =>
        split
        · refine ends_win32_bind fun r w₃ h₃ => ?_
          have hn₃ : w₃.nodes = w.nodes := h₃.trans h₂
          cases r with
          | fail e =>
              refine ends_silent_call trivial fun _ w₄ h₄ => ?_
              refine ends_silent_call trivial fun _ w₅ h₅ => ?_
              refine ends_silent_call trivial fun _ w₆ h₆ => ends_pure ?_
              exact Nodes.Same.of_eq (h₆.trans (h₅.trans (h₄.trans hn₃)))
          | ok u e =>
              refine ends_passCheck.mono fun shown _ w' ⟨hshown, hw'⟩ => ?_
              rw [hn₃] at hw'
              rw [hshown]
              exact Nodes.Same.of_eq hw'
        · refine ends_passCheck.mono fun shown _ w' ⟨hshown, hw'⟩ => ?_
          rw [h₂] at hw'
          rw [hshown]
          show (if IsDirectoryAttr (attributesOf a) then Nodes.Change.keep else _).Between _ _
          rw [if_neg hdir]
          exact Nodes.Same.of_eq hw'
  exact hends tr status w' h

theorem ends_checkEntries {listing : Listing} :
    Ends env os (checkEntries env fileName listing) w (fun shown _ w' =>
      shown = [] ∧ (if listing.Empty then Nodes.Change.drop fileName else .keep).Between
        w.nodes w'.nodes) := by
  unfold checkEntries
  cases hfind : (listing.first :: listing.rest).find? fun s => decide (RealEntry s) with
  | some cFileName =>
      refine ends_silent_call rfl fun _ w₁ h₁ => ?_
      refine ends_silent_call trivial fun _ w₂ h₂ => ends_pure ⟨rfl, ?_⟩
      have hreal : RealEntry cFileName := by simpa using List.find?_some hfind
      rw [if_neg fun hempty => hempty.1 cFileName (List.mem_of_find?_eq_some hfind) hreal]
      exact Nodes.Same.of_eq (h₂.trans h₁)
  | none =>
      refine ends_silent_call rfl fun _ w₁ h₁ => ?_
      split
      · next hfinal =>
          refine ends_silent_call trivial fun _ w₂ h₂ => ends_pure ⟨rfl, ?_⟩
          rw [if_neg fun hempty => hfinal hempty.2]
          exact Nodes.Same.of_eq (h₂.trans h₁)
      · next hfinal =>
          refine ends_passCheck.mono fun shown _ w' ⟨hshown, hw'⟩ => ⟨hshown, ?_⟩
          have hempty : listing.Empty :=
            ⟨fun s hs => by simpa using List.find?_eq_none.mp hfind s hs, not_not.mp hfinal⟩
          rw [if_pos hempty]
          rw [h₁] at hw'
          exact Nodes.Same.of_eq hw'

theorem deleteDirectory_change {status : NTSTATUS}
    (h : Run (step env os) (deleteDirectory env fileName info) w tr status w') :
    (deleteDirectoryChange fileName (asked tr)).Between w.nodes w'.nodes := by
  have hends : Ends env os (deleteDirectory env fileName info) w (fun shown _ w' =>
      (deleteDirectoryChange fileName shown).Between w.nodes w'.nodes) := by
    refine ends_filePathOf_bind fun path _ => ?_
    refine ends_silent_call trivial fun _ w₁ h₁ => ?_
    split
    · exact ends_pure (Nodes.Same.of_eq h₁)
    · split
      · exact ends_pure (Nodes.Same.of_eq h₁)
      · refine ends_win32_bind fun r w₂ h₂ => ?_
        have hn₂ : w₂.nodes = w.nodes := h₂.trans h₁
        cases r with
        | fail e =>
            refine ends_silent_call trivial fun _ w₃ h₃ => ?_
            refine ends_silent_call trivial fun _ w₄ h₄ => ends_pure ?_
            exact Nodes.Same.of_eq (h₄.trans (h₃.trans hn₂))
        | ok listing e =>
            refine ends_checkEntries.mono fun shown _ w' ⟨hshown, hw'⟩ => ?_
            rw [hn₂] at hw'
            rw [hshown]
            exact hw'
  exact hends tr status w' h

theorem silent_closeContext {path : WString} : OnlyCalls Call.Silent (closeContext path info) := by
  unfold closeContext
  split
  · exact OnlyCalls.bind (onlyCalls_perform.mpr trivial) fun _ =>
      OnlyCalls.bind (onlyCalls_perform.mpr trivial) fun _ =>
      OnlyCalls.bind silent_closeHandle fun _ => trivial
  · exact OnlyCalls.bind (onlyCalls_perform.mpr trivial) fun _ => trivial

theorem silent_reportDeletion {failure : String} {r : Outcome Unit} :
    OnlyCalls Call.Silent (reportDeletion failure r) := by
  cases r with
  | fail e =>
      exact OnlyCalls.bind (onlyCalls_perform.mpr trivial) fun _ => onlyCalls_perform.mpr trivial
  | ok u e => exact onlyCalls_perform.mpr trivial

theorem ends_deleteOnClose {path : WString} :
    Ends env os (deleteOnClose path info) w (fun _ _ w' => w'.nodes = w.nodes) := by
  have hdelete : ∀ {w₁ : World O} {c : Win32Call} {f : Outcome c.Value → Op Unit},
      w₁.nodes = w.nodes → (∀ r, OnlyCalls Call.Silent (f r)) →
      Ends env os (win32 c >>= f) w₁ (fun _ _ w' => w'.nodes = w.nodes) := by
    intro w₁ c f h₁ hf
    refine ends_win32_bind fun r w₂ h₂ => (ends_silent (hf r)).mono fun _ _ w' ⟨_, hw'⟩ => ?_
    exact hw'.trans (h₂.trans h₁)
  unfold deleteOnClose
  split
  · refine ends_silent_call trivial fun _ w₁ h₁ => ?_
    split
    · exact ends_silent_call trivial fun _ w₂ h₂ =>
        hdelete (h₂.trans h₁) fun _ => silent_reportDeletion
    · exact ends_silent_call trivial fun _ w₂ h₂ =>
        hdelete (h₂.trans h₁) fun _ => silent_reportDeletion
  · exact ends_pure rfl

/-- Cleaning up leaves the store alone. -/
theorem cleanup_nodes {res : DokanFileInfo}
    (h : Run (step env os) (mirrorCleanup env fileName info) w tr res w') :
    w'.nodes = w.nodes := by
  have hends : Ends env os (mirrorCleanup env fileName info) w (fun _ _ w' => w'.nodes = w.nodes) := by
    refine ends_filePathOf_bind fun path _ => ?_
    refine ends_silent_bind silent_closeContext fun closed w₁ h₁ => ?_
    exact ends_bind (ends_deleteOnClose.mono fun _ _ w₂ h₂ => ends_pure (h₂.trans h₁))
  exact hends tr res w' h

end

end SeamlessSmb
