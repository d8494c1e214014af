/-
# `FileOps.Lifetime` — the handle of an open, from create to close

The handle that `MirrorCreateFile` opens is kept in `Context`, where the other callbacks
find it.  `MirrorCleanup` closes it and leaves 0 there; `MirrorCloseFile` closes what was
not cleaned up, and leaves `INVALID_HANDLE_VALUE`.  Reads and writes may still come after
the cleanup.

| | |
| :-- | :-- |
| `Progress` | what a create has opened so far, with the rest as it was |
| `Callback` | a call of the driver for the open |
| `DokanOrder` | create first, close last, and at most one cleanup in between |
| `Tidy` | what every callback has done with the handles when it returns |

**Proved here:** along every lifetime of an open no handle is used that is not open, the
handle a create opened is in `Context`, a temporary handle is closed before the call
returns, and at the end every file opened was closed exactly once (`closed_once`).
-/
import SeamlessSmb.Lib.History
import SeamlessSmb.Lib.Twins
import SeamlessSmb.FileOps.CreateNode
import SeamlessSmb.FileOps.Delete
import SeamlessSmb.FileOps.Handles

namespace SeamlessSmb

open Calls History

/-! ## `MirrorCloseFile` -/

/-- `MirrorCloseFile`, with the caller's structure it leaves. -/
def mirrorCloseFile (env : Env) (fileName : WString) (info : DokanFileInfo) : Op DokanFileInfo := do
  let filePath ← filePathOf env.globals fileName
  if info.context ≠ 0 ∧ info.context ≠ INVALID_HANDLE_VALUE then do
    let r ← win32 (.getHandleInformation info.context)
    if r.succeeded then do
      print "CloseFile: %s\n" [.str filePath]
      print "\terror : not cleanuped file\n\n"
      closeHandle info.context
      pure { info with context := INVALID_HANDLE_VALUE }
    else do
      -- the error goes to the console
      let _ ← getLastError
      pure { info with context := INVALID_HANDLE_VALUE }
  else pure info

theorem onlyCalls_closeFile {P : Call → Prop} {env : Env} {fileName : WString} {info : DokanFileInfo}
    (hpath : OnlyCalls P (filePathOf env.globals fileName)) (hget : P .getLastError)
    (hprint : ∀ format args, P (.print format args)) (hask : P (.win32 (.getHandleInformation info.context)))
    (hclose : P (.win32 (.closeHandle info.context))) :
    OnlyCalls P (mirrorCloseFile env fileName info) := by
  refine OnlyCalls.bind hpath fun filePath => ?_
  split
  · refine OnlyCalls.bind (onlyCalls_perform.mpr hask) fun r => ?_
    split
    · refine OnlyCalls.bind (onlyCalls_perform.mpr (hprint _ _)) fun _ => ?_
      refine OnlyCalls.bind (onlyCalls_perform.mpr (hprint _ _)) fun _ => ?_
      refine OnlyCalls.bind ?_ fun _ => trivial
      exact OnlyCalls.bind (onlyCalls_perform.mpr hclose) fun _ => trivial
    · exact OnlyCalls.bind (onlyCalls_perform.mpr hget) fun _ => trivial
  · trivial

/-! ## What a create opens -/

namespace Handles

variable {T U : Handles} {file : Option HANDLE} {h token : HANDLE}

/-- A create that started from `T` got to `U`, with `file` the file it opened, if any. -/
structure Progress (T U : Handles) (file : Option HANDLE) : Prop where
  misused : U.misused = T.misused
  opened : T.opened ≤ U.opened
  before : ∀ n, n < T.opened → U.closed n = T.closed n ∧ U.file n = T.file n
  kept : ∀ h n, T.live h = some n → U.live h = some n
  since : ∀ n, T.opened ≤ n → n < U.opened → U.file n = true → ∃ h, file = some h ∧ U.live h = some n
  holds : ∀ h, file = some h →
    (h ≠ 0 ∧ h ≠ INVALID_HANDLE_VALUE) ∧ ∃ n, U.live h = some n ∧ U.file n = true

/-- A token opened on the way, and still open. -/
def Token (T U : Handles) (token : HANDLE) : Prop :=
  ∃ n, T.opened ≤ n ∧ U.live token = some n ∧ U.file n = false

theorem Token.live (ht : T.Token U token) : (U.live token).isSome := by
  obtain ⟨n, -, hlive, -⟩ := ht
  exact Option.isSome_iff_exists.mpr ⟨n, hlive⟩

theorem Progress.start : T.Progress T none :=
  ⟨rfl, Nat.le_refl _, fun _ _ => ⟨rfl, rfl⟩, fun _ _ h => h, fun _ hn hn' => absurd hn' (by omega),
    fun _ => nofun⟩

/-- The token is opened. -/
theorem Progress.openToken (h : T.Progress U none) (hfree : U.live token = none) :
    T.Progress (U.opening token false) none ∧ T.Token (U.opening token false) token := by
  constructor
  · refine ⟨h.misused, Nat.le_succ_of_le h.opened, fun n hn => ?_, fun h' n hlive => ?_,
      fun n hn hn' hfile => ?_, fun _ => nofun⟩
    · refine ⟨(h.before n hn).1, ?_⟩
      rw [← (h.before n hn).2]
      exact Function.update_of_ne (Nat.ne_of_lt (Nat.lt_of_lt_of_le hn h.opened)) ..
    · have hlive' := h.kept h' n hlive
      refine update_eq_some.mpr (.inr ⟨?_, hlive'⟩)
      rintro rfl
      rw [hfree] at hlive'
      cases hlive'
    · have hfile : Function.update U.file U.opened false n = true := hfile
      rcases eq_or_ne n U.opened with rfl | hne
      · rw [Function.update_self] at hfile
        cases hfile
      · rw [Function.update_of_ne hne] at hfile
        obtain ⟨_, he, -⟩ := h.since n hn (Nat.lt_of_le_of_ne (Nat.le_of_lt_succ hn') hne) hfile
        cases he
  · exact ⟨U.opened, h.opened, Function.update_self .., Function.update_self ..⟩

/-- The file is opened. -/
theorem Progress.openFile (hp : T.Progress U none) (hvalid : h ≠ 0 ∧ h ≠ INVALID_HANDLE_VALUE)
    (hfree : U.live h = none) :
    T.Progress (U.opening h true) (some h) := by
  have hlive : (U.opening h true).live h = some U.opened := Function.update_self ..
  refine ⟨hp.misused, Nat.le_succ_of_le hp.opened, fun n hn => ?_, fun h' n h'live => ?_,
    fun n hn hn' hfile => ⟨h, rfl, ?_⟩, ?_⟩
  · refine ⟨(hp.before n hn).1, ?_⟩
    rw [← (hp.before n hn).2]
    exact Function.update_of_ne (Nat.ne_of_lt (Nat.lt_of_lt_of_le hn hp.opened)) ..
  · have h'live := hp.kept h' n h'live
    refine update_eq_some.mpr (.inr ⟨?_, h'live⟩)
    rintro rfl
    rw [hfree] at h'live
    cases h'live
  · have hfile : Function.update U.file U.opened true n = true := hfile
    rcases eq_or_ne n U.opened with rfl | hne
    · exact hlive
    · rw [Function.update_of_ne hne] at hfile
      obtain ⟨_, he, -⟩ := hp.since n hn (Nat.lt_of_le_of_ne (Nat.le_of_lt_succ hn') hne) hfile
      cases he
  · rintro _ ⟨⟩
    exact ⟨hvalid, _, hlive, Function.update_self ..⟩

theorem Token.openFile (ht : T.Token U token) (hfree : U.live h = none) :
    T.Token (U.opening h true) token := by
  obtain ⟨n, hn, hlive, hfile⟩ := ht
  refine ⟨n, hn, update_eq_some.mpr (.inr ⟨?_, hlive⟩), ?_⟩
  · rintro rfl
    rw [hfree] at hlive
    cases hlive
  · rw [← hfile]
    exact Function.update_of_ne (Nat.ne_of_lt (U.live_lt hlive)) ..

/-- The token is closed. -/
theorem Progress.closeToken (hp : T.Progress U file) (ht : T.Token U token) :
    T.Progress (U.close token) file := by
  obtain ⟨m, hm, hlive, hfile⟩ := ht
  rw [close_of_live hlive]
  -- a handle that stands for another opening is another value
  have hother : ∀ {h n}, n ≠ m → U.live h = some n → (U.closing token m hlive).live h = some n := by
    intro h n hne h'live
    refine update_eq_some.mpr (.inr ⟨?_, h'live⟩)
    rintro rfl
    exact hne (Option.some_inj.mp (h'live.symm.trans hlive))
  have hnot : ∀ {n}, U.file n = true → n ≠ m := by
    rintro n hn rfl
    rw [hfile] at hn
    cases hn
  refine ⟨hp.misused, hp.opened, fun n hn => ?_, fun h n h'live => ?_, fun n hn hn' hnfile => ?_,
    fun h he => ?_⟩
  · refine ⟨?_, (hp.before n hn).2⟩
    rw [← (hp.before n hn).1]
    exact Function.update_of_ne (Nat.ne_of_lt (Nat.lt_of_lt_of_le hn hm)) ..
  · exact hother (Nat.ne_of_lt (Nat.lt_of_lt_of_le (T.live_lt h'live) hm)) (hp.kept h n h'live)
  · obtain ⟨h, he, h'live⟩ := hp.since n hn hn' hnfile
    exact ⟨h, he, hother (hnot hnfile) h'live⟩
  · obtain ⟨hvalid, n, h'live, hnfile⟩ := hp.holds h he
    exact ⟨hvalid, n, hother (hnot hnfile) h'live, hnfile⟩

end Handles

section

variable {α β : Type} {env : Env} {w : World Handles} {T : Handles} {q : CreateRequest}
  {info : DokanFileInfo} {l : CreateLocals} {token : HANDLE} {file : Option HANDLE}

/-- A create is under way; if it impersonates the caller, the token is open. -/
structure Creating (env : Env) (T : Handles) (token : HANDLE) (file : Option HANDLE) (U : Handles) :
    Prop where
  progress : T.Progress U file
  token : Impersonates env token → T.Token U token

/-- It is over, and `Context` has the file that was opened. -/
def Leaves (T : Handles) (info : DokanFileInfo) (res : CreateResult) (U : Handles) : Prop :=
  ∃ file : Option HANDLE, T.Progress U file ∧ res.info.context = file.getD info.context

theorem sat_impersonate (h : Creating env T token file w.os) :
    Sat (step env Handles.respond) (impersonate env token) w
      (fun _ _ w' => Creating env T token file w'.os) := by
  unfold impersonate Prog.onlyIf
  split
  · next himp =>
      have hgentle : OnlyCalls (Call.Gentle (some token)) (do
          let r ← win32 (.impersonateLoggedOnUser token)
          Prog.onlyIf (r.succeeded = false) (print "\tImpersonateLoggedOnUser failed.\n")) :=
        OnlyCalls.bind (onlyCalls_perform.mpr (.inr rfl)) fun _ =>
          OnlyCalls.onlyIf fun _ => onlyCalls_perform.mpr trivial
      have hlive : ∀ h', some token = some h' → (w.os.live h').isSome := by
        rintro _ ⟨⟩
        exact (h.token himp).live
      refine (sat_gentle hgentle hlive).mono fun _ _ w₁ hos => ?_
      rw [hos]
      exact h
  · exact sat_pure.mpr h

/-- The end of an impersonation closes the token, or keeps it for the next. -/
theorem sat_endImpersonation (h : Creating env T token file w.os) {close : Bool} :
    Sat (step env Handles.respond) (endImpersonation env token close) w (fun _ _ w' =>
      T.Progress w'.os file ∧ (close = false → Creating env T token file w'.os)) := by
  unfold endImpersonation Prog.onlyIf
  split
  · next himp =>
      refine sat_gentle_call trivial fun error w₁ hos₁ => ?_
      rw [← hos₁] at h
      have hrest : OnlyCalls (Call.Gentle none) (do
          let _ ← win32 .revertToSelf
          setLastError error) :=
        OnlyCalls.bind (onlyCalls_perform.mpr (.inl rfl)) fun _ => onlyCalls_perform.mpr trivial
      cases close with
      | false =>
          refine sat_bind.mpr (sat_pure.mpr ?_)
          refine (sat_gentle hrest fun _ => nofun).mono fun _ _ w₂ hos => ?_
          rw [hos]
          exact ⟨h.progress, fun _ => h⟩
      | true =>
          refine sat_bind.mpr (sat_respond_bind fun r w₂ hclosed => sat_pure.mpr ?_)
          refine (sat_gentle hrest fun _ => nofun).mono fun _ _ w₃ hos => ?_
          rw [hos, show w₂.os = w₁.os.close token from hclosed]
          exact ⟨h.progress.closeToken (h.token himp), Bool.noConfusion⟩
  · next himp => exact sat_pure.mpr ⟨h.progress, fun _ => h⟩

theorem gentle_makeNodeIf {b : Prop} [Decidable b] {isDirectory : Bool} :
    OnlyCalls (Call.Gentle none) (makeNodeIf b q isDirectory) :=
  onlyCalls_makeNodeIf (fun _ => trivial) fun _ _ _ => trivial

theorem gentle_addIf {f : Option Ptr} : OnlyCalls (Call.Gentle none) (addIf f) :=
  onlyCalls_addIf fun _ => trivial

theorem sat_finishCreate {handle : HANDLE} {res : CreateResult} (h : Leaves T info res w.os) :
    Sat (step env Handles.respond) (finishCreate l handle res) w
      (fun _ res' w' => Leaves T info res' w'.os) := by
  refine sat_gentle_bind (OnlyCalls.onlyIf fun _ => onlyCalls_perform.mpr trivial) fun _ _ w₁ hos₁ => ?_
  refine sat_gentle_call trivial fun _ w₂ hos₂ => sat_pure.mpr ?_
  rw [hos₂, hos₁]
  exact h

/-- The folder is made, without a handle. -/
theorem sat_createFolder (h : Creating env T l.userTokenHandle none w.os) :
    Sat (step env Handles.respond) (createFolder env q l) w (fun _ made w' =>
      T.Progress w'.os none ∧
        (made.1 = STATUS_SUCCESS → Creating env T l.userTokenHandle none w'.os)) := by
  unfold createFolder
  split
  · refine sat_bind.mpr ((sat_impersonate h).mono fun _ _ w₁ h₁ => ?_)
    refine sat_gentle_bind gentle_makeNodeIf fun _ made w₂ hos₂ => ?_
    obtain ⟨f, sd⟩ := made
    refine sat_gentle_bind (onlyCalls_perform.mpr (.inl rfl)) fun _ r w₃ hos₃ => ?_
    have h₃ : Creating env T l.userTokenHandle none w₃.os := by
      rw [hos₃, hos₂]
      exact h₁
    -- the token is kept for the opening of the folder exactly if there is to be one
    have hend : ∀ {w₄ : World Handles} {status : NTSTATUS}, w₄.os = w₃.os →
        Sat (step env Handles.respond) (do
          endImpersonation env l.userTokenHandle (status ≠ STATUS_SUCCESS)
          pure (status, sd)) w₄ (fun _ made w' =>
            T.Progress w'.os none ∧
              (made.1 = STATUS_SUCCESS → Creating env T l.userTokenHandle none w'.os)) := by
      intro w₄ status hos₄
      have h₄ : Creating env T l.userTokenHandle none w₄.os := by
        rw [hos₄]
        exact h₃
      refine sat_bind.mpr ((sat_endImpersonation h₄).mono fun _ _ w₅ hended => ?_)
      refine sat_pure.mpr ⟨hended.1, fun hs => hended.2 ?_⟩
      exact decide_eq_false (not_not.mpr hs)
    cases r with
    | ok u e =>
        refine sat_gentle_bind gentle_addIf fun _ _ w₄ hos₄ => ?_
        exact sat_bind.mpr (sat_pure.mpr (hend hos₄))
    | fail e =>
        refine sat_gentle_call trivial fun error w₄ hos₄ => ?_
        split
        · refine sat_gentle_call trivial fun _ w₅ hos₅ => ?_
          exact sat_bind.mpr (sat_pure.mpr (hend (hos₅.trans hos₄)))
        · exact sat_bind.mpr (sat_pure.mpr (hend hos₄))
  · exact sat_pure.mpr ⟨h.progress, fun _ => h⟩

/-- What became of a call of `CreateFile`. -/
inductive Tried (env : Env) (T : Handles) (token handle : HANDLE) (U : Handles) : Prop
  | failed : handle = INVALID_HANDLE_VALUE → Creating env T token none U → Tried env T token handle U
  | opened : handle ≠ INVALID_HANDLE_VALUE → handle ≠ 0 → Creating env T token (some handle) U →
      Tried env T token handle U

theorem sat_createFile (h : Creating env T token none w.os) {path : WString}
    {access share disposition flags : DWORD} {sd : Option SecurityDescriptor} :
    Sat (step env Handles.respond) (createFile path access share sd disposition flags) w
      (fun _ handle w' => Tried env T token handle w'.os) := by
  refine sat_respond_bind fun r w₁ hcreated => ?_
  cases r with
  | fail e =>
      have hsame : w₁.os = w.os := hcreated
      refine sat_pure.mpr (.failed rfl ?_)
      rw [hsame]
      exact h
  | ok handle e =>
      obtain ⟨hfree, hopen⟩ : w.os.live handle.1 = none ∧ w₁.os = w.os.opening handle.1 true := hcreated
      refine sat_pure.mpr (.opened handle.2.2 handle.2.1 ?_)
      rw [hopen]
      exact ⟨h.progress.openFile handle.2 hfree, fun himp => (h.token himp).openFile hfree⟩

/-- With the token closed, what was tried is all there is. -/
theorem sat_endTried {handle : HANDLE} (h : Tried env T token handle w.os) :
    Sat (step env Handles.respond) (endImpersonation env token true) w (fun _ _ w' =>
      T.Progress w'.os (if handle = INVALID_HANDLE_VALUE then none else some handle)) := by
  cases h with
  | failed hinvalid h =>
      rw [if_pos hinvalid]
      exact (sat_endImpersonation h).mono fun _ _ _ hp => hp.1
  | opened hvalid _ h =>
      rw [if_neg hvalid]
      exact (sat_endImpersonation h).mono fun _ _ _ hp => hp.1

/-- The folder is opened. -/
theorem sat_openFolder (h : Creating env T l.userTokenHandle none w.os) {sd : Option SecurityDescriptor} :
    Sat (step env Handles.respond) (openFolder env q info l sd) w
      (fun _ res w' => Leaves T info res w'.os) := by
  unfold openFolder
  split
  · exact sat_pure.mpr ⟨none, h.progress, rfl⟩
  · refine sat_bind.mpr ((sat_impersonate h).mono fun _ _ w₁ h₁ => ?_)
    refine sat_bind.mpr ((sat_createFile h₁).mono fun _ handle w₂ h₂ => ?_)
    refine sat_bind.mpr ((sat_endTried h₂).mono fun _ _ w₃ h₃ => ?_)
    split
    · next hinvalid =>
        rw [if_pos hinvalid] at h₃
        refine sat_gentle_call trivial fun error w₄ hos₄ => ?_
        refine sat_gentle_call trivial fun _ w₅ hos₅ => sat_finishCreate ⟨none, ?_, rfl⟩
        rw [hos₅, hos₄]
        exact h₃
    · next hvalid =>
        rw [if_neg hvalid] at h₃
        dsimp only
        split
        · exact sat_pure.mpr ⟨some handle, h₃, rfl⟩
        · exact sat_finishCreate ⟨some handle, h₃, rfl⟩

theorem gentle_openedFile : OnlyCalls (Call.Gentle none) (openedFile l) :=
  onlyCalls_openedFile (fun _ _ => .inl rfl) trivial fun _ _ => trivial

theorem sat_fileBranch (h : Creating env T l.userTokenHandle none w.os) :
    Sat (step env Handles.respond) (fileBranch env q info l) w
      (fun _ res w' => Leaves T info res w'.os) := by
  unfold fileBranch
  split
  · exact sat_pure.mpr ⟨none, h.progress, rfl⟩
  · refine sat_bind.mpr ((sat_impersonate h).mono fun _ _ w₁ h₁ => ?_)
    refine sat_gentle_bind gentle_makeNodeIf fun _ made w₂ hos₂ => ?_
    obtain ⟨f, sd⟩ := made
    have h₂ : Creating env T l.userTokenHandle none w₂.os := by
      rw [hos₂]
      exact h₁
    refine sat_bind.mpr ((sat_createFile h₂).mono fun _ handle w₃ h₃ => ?_)
    have hzero : handle ≠ 0 := by
      cases h₃ with
      | failed hinvalid h =>
          rw [hinvalid]
          decide
      | opened _ hzero h => exact hzero
    refine sat_bind.mpr ((sat_endTried h₃).mono fun _ _ w₄ h₄ => ?_)
    refine sat_gentle_bind (OnlyCalls.onlyIf fun _ => gentle_addIf) fun _ _ w₅ hos₅ => ?_
    rw [← hos₅] at h₄
    split
    · next hinvalid =>
        rw [if_pos (hinvalid.resolve_right hzero)] at h₄
        refine sat_gentle_call trivial fun error w₆ hos₆ => ?_
        refine sat_gentle_call trivial fun _ w₇ hos₇ => sat_finishCreate ⟨none, ?_, rfl⟩
        rw [hos₇, hos₆]
        exact h₄
    · next hvalid =>
        rw [if_neg fun hinvalid => hvalid (.inl hinvalid)] at h₄
        refine sat_gentle_bind gentle_openedFile fun _ status w₆ hos₆ => ?_
        rw [← hos₆] at h₄
        exact sat_finishCreate ⟨some handle, h₄, rfl⟩

theorem sat_directoryBranch (h : Creating env T l.userTokenHandle none w.os) :
    Sat (step env Handles.respond) (directoryBranch env q info l) w
      (fun _ res w' => Leaves T info res w'.os) := by
  refine sat_bind.mpr ((sat_createFolder h).mono fun _ made w₁ hfolder => ?_)
  obtain ⟨status, sd⟩ := made
  obtain ⟨hprogress, hkept⟩ := hfolder
  dsimp only
  split
  · next hs => exact sat_openFolder (hkept hs)
  · exact sat_finishCreate ⟨none, hprogress, rfl⟩

theorem gentle_createPrelude {path : WString} :
    OnlyCalls (Call.Gentle none) (createPrelude q info path) :=
  onlyCalls_createPrelude (fun _ _ => trivial) (fun _ _ => trivial) fun _ => .inl rfl

/-- The caller's token is opened, if it is asked for. -/
theorem sat_openToken {processName : WString} {flags : UserFlags} :
    Sat (step env Handles.respond) (openToken env q processName flags) w
      (fun _ token w' => Creating env w.os token none w'.os) := by
  refine sat_gentle_call trivial fun _ w₁ hos₁ => ?_
  refine sat_gentle_bind gentle_checkFlags fun _ _ w₂ hos₂ => ?_
  refine sat_gentle_call trivial fun _ w₃ hos₃ => ?_
  have hos : w₃.os = w.os := by rw [hos₃, hos₂, hos₁]
  have hstart : w.os.Progress w₃.os none := by
    rw [hos]
    exact .start
  split
  · refine sat_respond_bind fun r w₄ hasked => ?_
    have hnote : ∀ token, OnlyCalls (Call.Gentle none)
        (Prog.onlyIf (token = INVALID_HANDLE_VALUE) (print "  DokanOpenRequestorToken failed\n")) :=
      fun token => OnlyCalls.onlyIf fun _ => onlyCalls_perform.mpr trivial
    refine sat_gentle_bind (hnote _) fun _ _ w₅ hos₅ => sat_pure.mpr ?_
    rw [hos₅]
    cases r with
    | fail e =>
        have hsame : w₄.os = w₃.os := hasked
        refine ⟨?_, fun himp => absurd rfl himp.2⟩
        rw [hsame]
        exact hstart
    | ok token e =>
        obtain ⟨hfree, hopen⟩ : w₃.os.live token = none ∧ w₄.os = w₃.os.opening token false := hasked
        obtain ⟨hprogress, htoken⟩ := hstart.openToken hfree
        rw [hopen]
        exact ⟨hprogress, fun _ => htoken⟩
  · exact sat_pure.mpr ⟨hstart, fun himp => absurd rfl himp.2⟩

/-- **Creating** leaves the handle it opened in `Context`. -/
theorem sat_create :
    Sat (step env Handles.respond) (mirrorCreateFile env q info) w
      (fun _ res w' => Leaves w.os info res w'.os) := by
  refine sat_filePathOf_bind fun filePath _ => ?_
  refine sat_gentle_bind gentle_createPrelude fun _ processName w₁ hos₁ => ?_
  refine sat_gentle_bind gentle_getFileAttributes fun _ fileAttr w₂ hos₂ => ?_
  have hos : w₂.os = w.os := hos₂.trans hos₁
  rw [← hos]
  split
  · refine sat_gentle_call trivial fun _ w₃ hos₃ => sat_pure.mpr ⟨none, ?_, rfl⟩
    rw [hos₃]
    exact .start
  · refine sat_bind.mpr (sat_openToken.mono fun _ token w₃ h₃ => ?_)
    dsimp only
    split
    · rw [if_pos rfl]
      exact sat_directoryBranch h₃
    · split
      · exact sat_directoryBranch h₃
      · exact sat_fileBranch h₃

/-! ## What a cleanup and a close do -/

theorem gentle_deleteOnClose {path : WString} : OnlyCalls (Call.Gentle none) (deleteOnClose path info) :=
  onlyCalls_deleteOnClose trivial (fun _ _ => trivial) (.inl rfl) (.inl rfl)

/-- A cleanup closes the handle and takes it out of `Context`. -/
theorem sat_cleanup {fileName : WString} :
    Sat (step env Handles.respond) (mirrorCleanup env fileName info) w (fun _ res w' =>
      res.context = 0 ∧ w'.os = if info.context = 0 then w.os else w.os.close info.context) := by
  refine sat_filePathOf_bind fun filePath _ => ?_
  have hclose : Sat (step env Handles.respond) (closeContext filePath info) w (fun _ res w' =>
      res.context = 0 ∧ w'.os = if info.context = 0 then w.os else w.os.close info.context) := by
    unfold closeContext
    split
    · refine sat_gentle_call trivial fun _ w₁ hos₁ => sat_gentle_call trivial fun _ w₂ hos₂ => ?_
      refine sat_bind.mpr (sat_respond_bind fun r w₃ hclosed => ?_)
      refine sat_pure.mpr (sat_pure.mpr ⟨rfl, ?_⟩)
      rw [show w₃.os = w₂.os.close info.context from hclosed, hos₂, hos₁]
    · next hcontext =>
        refine sat_gentle_call trivial fun _ w₁ hos₁ => sat_pure.mpr ⟨not_not.mp hcontext, ?_⟩
        rw [hos₁, if_pos (not_not.mp hcontext)]
  refine sat_bind.mpr (hclose.mono fun _ res w₁ hclosed => ?_)
  refine sat_gentle_bind gentle_deleteOnClose fun _ _ w₂ hos₂ => sat_pure.mpr ⟨hclosed.1, ?_⟩
  rw [hos₂, hclosed.2]

/-- A close finds no handle, or closes the one that is left. -/
theorem sat_closeFile {fileName : WString} (hc : Usable w.os info.context) :
    Sat (step env Handles.respond) (mirrorCloseFile env fileName info) w (fun _ res w' =>
      (res.context = 0 ∨ res.context = INVALID_HANDLE_VALUE) ∧
        w'.os =
          if info.context = 0 ∨ info.context = INVALID_HANDLE_VALUE then w.os
          else w.os.close info.context) := by
  refine sat_filePathOf_bind fun filePath _ => ?_
  split
  · next hcontext =>
      have hnone : ¬ (info.context = 0 ∨ info.context = INVALID_HANDLE_VALUE) := not_or.mpr hcontext
      have hlive : (w.os.live info.context).isSome := by
        rcases hc with hzero | hinvalid | hlive
        · exact absurd hzero hcontext.1
        · exact absurd hinvalid hcontext.2
        · exact hlive
      rw [if_neg hnone]
      refine sat_respond_bind fun r w₁ hasked => ?_
      obtain ⟨hr, hos₁⟩ : (r.succeeded = true ↔ (w.os.live info.context).isSome) ∧
        w₁.os = w.os.use (some info.context) := hasked
      rw [Handles.use_of_live hlive] at hos₁
      rw [if_pos (hr.mpr hlive)]
      refine sat_gentle_call trivial fun _ w₂ hos₂ => sat_gentle_call trivial fun _ w₃ hos₃ => ?_
      refine sat_bind.mpr (sat_respond_bind fun r w₄ hclosed => ?_)
      refine sat_pure.mpr (sat_pure.mpr ⟨.inr rfl, ?_⟩)
      rw [show w₄.os = w₃.os.close info.context from hclosed, hos₃, hos₂, hos₁]
  · next hcontext =>
      have hnone : info.context = 0 ∨ info.context = INVALID_HANDLE_VALUE := not_and_or.mp hcontext |>.imp
        not_not.mp not_not.mp
      rw [if_pos hnone]
      exact sat_pure.mpr ⟨hnone, rfl⟩

end

/-! ## Lifetimes -/

/-- A call of the driver for the open. -/
inductive Callback
  | create (q : CreateRequest) (info : DokanFileInfo)
  | read (bufferLength : DWORD) (offset : BitVec 64) (info : DokanFileInfo)
  | write (buffer : List Byte) (numberOfBytesToWrite : DWORD) (offset : BitVec 64) (info : DokanFileInfo)
  | flush (info : DokanFileInfo)
  | getInformation (information : ByHandleFileInformation) (info : DokanFileInfo)
  | cleanup (info : DokanFileInfo)
  | close (info : DokanFileInfo)

namespace Callback

/-- The callback it calls, with `Context` as the last one left it. -/
def program (env : Env) (fileName : WString) (context : HANDLE) : Callback → Op HANDLE
  | create q info => do
      let res ← mirrorCreateFile env { q with fileName := fileName } { info with context := context }
      pure res.info.context
  | read bufferLength offset info => do
      let _ ← mirrorReadFile env fileName bufferLength offset { info with context := context }
      pure context
  | write buffer numberOfBytesToWrite offset info => do
      let _ ← mirrorWriteFile env fileName buffer numberOfBytesToWrite offset { info with context := context }
      pure context
  | flush info => do
      let _ ← mirrorFlushFileBuffers env fileName { info with context := context }
      pure context
  | getInformation information info => do
      let _ ← mirrorGetFileInformation env fileName information { info with context := context }
      pure context
  | cleanup info => do
      let info ← mirrorCleanup env fileName { info with context := context }
      pure info.context
  | close info => do
      let info ← mirrorCloseFile env fileName { info with context := context }
      pure info.context

end Callback

/-- How far an open has come. -/
inductive Stage
  | fresh
  | opened
  | cleaned
  | closed
  deriving DecidableEq

/-- The order the driver keeps: the create comes first and the close last, and there may be a
cleanup in between. -/
def Stage.next : Stage → Callback → Option Stage
  | .fresh, .create .. => some .opened
  | .opened, .cleanup _ => some .cleaned
  | .opened, .close _ => some .closed
  | .cleaned, .close _ => some .closed
  | .opened, .read .. | .opened, .write .. | .opened, .flush _ | .opened, .getInformation .. =>
      some .opened
  | .cleaned, .read .. | .cleaned, .write .. | .cleaned, .flush _ | .cleaned, .getInformation .. =>
      some .cleaned
  | _, _ => none

/-- An open, as the driver and the process see it. -/
structure Open where
  stage : Stage
  context : HANDLE
  handles : Handles

/-- One callback.  The rest of the world may change at will between the callbacks. -/
def Driven (env : Env) (fileName : WString) (s : Open) (l : Callback) (s' : Open) : Prop :=
  s.stage.next l = some s'.stage ∧
    ∃ w w' tr, w.os = s.handles ∧ w'.os = s'.handles ∧
      Run (step env Handles.respond) (l.program env fileName s.context) w tr s'.context w'

/-- What a callback has done with the handles when it returns. -/
structure Tidy (s : Open) (l : Callback) (s' : Open) : Prop where
  used : s'.handles.misused = false
  created : ∀ q info, l = .create q info → ∀ n, s.handles.opened ≤ n → n < s'.handles.opened →
    s'.handles.file n = true → s'.handles.live s'.context = some n
  temporary : (∀ q info, l ≠ .create q info) → ∀ n, s.handles.opened ≤ n → n < s'.handles.opened →
    s'.handles.closed n = 1

/-- Where `Context` stands, from stage to stage. -/
def Stage.Fits (T : Handles) (context : HANDLE) : Stage → Prop
  | .fresh => context = 0
  | .opened =>
      context = 0 ∨ (context ≠ 0 ∧ context ≠ INVALID_HANDLE_VALUE) ∧ (T.live context).isSome
  | .cleaned => context = 0
  | .closed => context = 0 ∨ context = INVALID_HANDLE_VALUE

/-- The invariant: every file opened since the open began is closed, or is the one in
`Context`. -/
structure Sound (start : Nat) (s : Open) : Prop where
  used : s.handles.misused = false
  began : start ≤ s.handles.opened
  fresh : s.stage = .fresh → s.handles.opened = start
  fits : s.stage.Fits s.handles s.context
  closed : ∀ n, start ≤ n → n < s.handles.opened → s.handles.file n = true →
    s.handles.closed n = 1 ∨ s.stage = .opened ∧ s.context ≠ 0 ∧ s.handles.live s.context = some n

section

variable {env : Env} {fileName : WString} {start : Nat} {s s' : Open} {l : Callback}

/-- The four callbacks that leave the handles as they find them. -/
def Callback.Passing : Callback → Prop
  | .read .. | .write .. | .flush _ | .getInformation .. => True
  | _ => False

theorem sat_passing {w : World Handles} {context : HANDLE} (hl : l.Passing) (hc : Usable w.os context) :
    Sat (step env Handles.respond) (l.program env fileName context) w
      (fun _ context' w' => context' = context ∧ w.os.Settled w'.os) := by
  cases l with
  | create q info => exact hl.elim
  | cleanup info => exact hl.elim
  | close info => exact hl.elim
  | read bufferLength offset info =>
      exact sat_bind.mpr ((settled_readFile hc).mono fun _ _ _ hs => sat_pure.mpr ⟨rfl, hs⟩)
  | write buffer numberOfBytesToWrite offset info =>
      exact sat_bind.mpr ((settled_writeFile hc).mono fun _ _ _ hs => sat_pure.mpr ⟨rfl, hs⟩)
  | flush info =>
      exact sat_bind.mpr ((settled_flushFileBuffers hc).mono fun _ _ _ hs => sat_pure.mpr ⟨rfl, hs⟩)
  | getInformation information info =>
      exact sat_bind.mpr ((settled_getFileInformation hc).mono fun _ _ _ hs => sat_pure.mpr ⟨rfl, hs⟩)

/-- What the driver passes on is nothing, or a handle that is open. -/
theorem Stage.Fits.usable {T : Handles} {context : HANDLE} {stage : Stage}
    (h : stage.Fits T context) : Usable T context := by
  cases stage with
  | fresh => exact .inl h
  | cleaned => exact .inl h
  | closed => exact h.imp_right .inl
  | opened =>
      rcases h with hzero | ⟨-, hlive⟩
      · exact .inl hzero
      · exact .inr (.inr hlive)

/-- Reads, writes, flushes and questions for information change nothing. -/
theorem sound_passing {w w' : World Handles} {tr : Trace} (h : Sound start s) (hl : l.Passing)
    (hstage : s'.stage = s.stage) (hnot : s.stage ≠ .fresh) (hw : w.os = s.handles)
    (hw' : w'.os = s'.handles)
    (hrun : Run (step env Handles.respond) (l.program env fileName s.context) w tr s'.context w') :
    Tidy s l s' ∧ Sound start s' := by
  have hc : Usable w.os s.context := by
    rw [hw]
    exact h.fits.usable
  obtain ⟨hcontext, hsettled⟩ := sat_passing hl hc _ _ _ hrun
  rw [hw, hw'] at hsettled
  have hused : s'.handles.misused = false := hsettled.misused.trans h.used
  constructor
  · refine ⟨hused, ?_, fun _ => hsettled.since⟩
    rintro q info rfl
    exact hl.elim
  · refine ⟨hused, Nat.le_trans h.began hsettled.opened, ?_, ?_, ?_⟩
    · intro hs
      exact absurd (hstage.symm.trans hs) hnot
    · have hfits := h.fits
      rw [hstage, hcontext]
      cases hs : s.stage with
      | opened =>
          rw [hs] at hfits
          refine hfits.imp_right fun hlive => ⟨hlive.1, ?_⟩
          rw [hsettled.live]
          exact hlive.2
      | _ =>
          rw [hs] at hfits
          exact hfits
    · intro n hn hn' hfile
      rw [hstage, hcontext, hsettled.live]
      rcases Nat.lt_or_ge n s.handles.opened with hlt | hge
      · obtain ⟨hclosed, hsame⟩ := hsettled.before n hlt
        rw [hclosed]
        exact h.closed n hn hlt (hsame.symm.trans hfile)
      · exact .inl (hsettled.since n hge hn')

/-- A create on a fresh open puts the file it opened into `Context`. -/
theorem sound_create {w w' : World Handles} {tr : Trace} {q : CreateRequest} {info : DokanFileInfo}
    (h : Sound start s) (hfresh : s.stage = .fresh) (hstage : s'.stage = .opened)
    (hw : w.os = s.handles) (hw' : w'.os = s'.handles)
    (hrun : Run (step env Handles.respond) ((Callback.create q info).program env fileName s.context) w tr
      s'.context w') : Tidy s (.create q info) s' ∧ Sound start s' := by
  have hsat : Sat (step env Handles.respond) ((Callback.create q info).program env fileName s.context) w
      (fun _ context' w' => ∃ file : Option HANDLE, w.os.Progress w'.os file ∧
        context' = file.getD s.context) :=
    sat_bind.mpr (sat_create.mono fun _ _ _ hleaves => sat_pure.mpr hleaves)
  obtain ⟨file, hprogress, hcontext⟩ := hsat _ _ _ hrun
  rw [hw, hw'] at hprogress
  have hfits := h.fits
  rw [hfresh] at hfits
  have hzero : s.context = 0 := hfits
  have hstart : s.handles.opened = start := h.fresh hfresh
  have hused : s'.handles.misused = false := hprogress.misused.trans h.used
  have hsince : ∀ n, s.handles.opened ≤ n → n < s'.handles.opened → s'.handles.file n = true →
      s'.context ≠ 0 ∧ s'.handles.live s'.context = some n := by
    intro n hn hn' hfile
    obtain ⟨handle, he, hlive⟩ := hprogress.since n hn hn' hfile
    obtain ⟨hvalid, -⟩ := hprogress.holds handle he
    rw [hcontext, he]
    exact ⟨hvalid.1, hlive⟩
  constructor
  · refine ⟨hused, ?_, fun hnot => absurd rfl (hnot q info)⟩
    intro _ _ _ n hn hn' hfile
    exact (hsince n hn hn' hfile).2
  · refine ⟨hused, Nat.le_trans h.began hprogress.opened, ?_, ?_, ?_⟩
    · intro hs
      rw [hstage] at hs
      cases hs
    · rw [hstage, hcontext]
      cases file with
      | none => exact .inl hzero
      | some handle =>
          obtain ⟨hvalid, n, hlive, -⟩ := hprogress.holds handle rfl
          exact .inr ⟨hvalid, Option.isSome_iff_exists.mpr ⟨n, hlive⟩⟩
    · intro n hn hn' hfile
      rw [← hstart] at hn
      exact .inr ⟨hstage, hsince n hn hn' hfile⟩

/-- The handle in `Context` is closed: with it the last file is. -/
theorem Sound.close (h : Sound start s) (hcontext : s.context ≠ 0) (hopened : s.stage = .opened) {n : Nat}
    (hn : start ≤ n) (hn' : n < (s.handles.close s.context).opened)
    (hfile : (s.handles.close s.context).file n = true) :
    (s.handles.close s.context).closed n = 1 := by
  have hfits := h.fits
  rw [hopened] at hfits
  obtain ⟨-, hlive⟩ := hfits.resolve_left hcontext
  obtain ⟨m, hm⟩ := Option.isSome_iff_exists.mp hlive
  rw [Handles.close_of_live hm] at hn' hfile ⊢
  show Function.update s.handles.closed m (s.handles.closed m + 1) n = 1
  rcases eq_or_ne n m with rfl | hne
  · rw [Function.update_self, s.handles.live_open hm]
  · rw [Function.update_of_ne hne]
    rcases h.closed n hn hn' hfile with hclosed | ⟨-, -, hlive⟩
    · exact hclosed
    · exact absurd (Option.some_inj.mp (hlive.symm.trans hm)) hne

/-- The end of an open, by a cleanup or by a close. -/
theorem sound_end (h : Sound start s)
    (hlate : s'.stage = .cleaned ∨ s'.stage = .closed) (hl : ∀ q info, l ≠ .create q info)
    (hfits : s'.stage.Fits s'.handles s'.context)
    (hhandles : s'.handles = if s.context = 0 then s.handles else s.handles.close s.context)
    (hopened : s.context ≠ 0 → s.stage = .opened) : Tidy s l s' ∧ Sound start s' := by
  have hnotfresh : s'.stage ≠ .fresh := by
    rcases hlate with hs | hs
    · rw [hs]
      exact Stage.noConfusion
    · rw [hs]
      exact Stage.noConfusion
  rcases eq_or_ne s.context 0 with hzero | hne
  · rw [if_pos hzero] at hhandles
    have hused : s'.handles.misused = false := by
      rw [hhandles]
      exact h.used
    constructor
    · refine ⟨hused, fun q info he => absurd he (hl q info), fun _ n hn hn' => ?_⟩
      rw [hhandles] at hn'
      exact absurd hn' (Nat.not_lt_of_le hn)
    · refine ⟨hused, ?_, fun hs => absurd hs hnotfresh, hfits, fun n hn hn' hfile => .inl ?_⟩
      · rw [hhandles]
        exact h.began
      · rw [hhandles] at hn' hfile ⊢
        rcases h.closed n hn hn' hfile with hclosed | ⟨-, hne, -⟩
        · exact hclosed
        · exact absurd hzero hne
  · rw [if_neg hne] at hhandles
    have hstage := h.fits
    rw [hopened hne] at hstage
    obtain ⟨-, hlive⟩ := hstage.resolve_left hne
    obtain ⟨m, hm⟩ := Option.isSome_iff_exists.mp hlive
    have hsame : s'.handles.misused = s.handles.misused ∧ s'.handles.opened = s.handles.opened := by
      rw [hhandles, Handles.close_of_live hm]
      exact ⟨rfl, rfl⟩
    have hused : s'.handles.misused = false := hsame.1.trans h.used
    constructor
    · refine ⟨hused, fun q info he => absurd he (hl q info), fun _ n hn hn' => ?_⟩
      rw [hsame.2] at hn'
      exact absurd hn' (Nat.not_lt_of_le hn)
    · refine ⟨hused, ?_, fun hs => absurd hs hnotfresh, hfits, fun n hn hn' hfile => .inl ?_⟩
      · rw [hsame.2]
        exact h.began
      · rw [hhandles] at hn' hfile ⊢
        exact h.close hne (hopened hne) hn hn' hfile

/-- A cleanup of an open file. -/
theorem sound_cleanup {w w' : World Handles} {tr : Trace} {info : DokanFileInfo} (h : Sound start s)
    (hopened : s.stage = .opened) (hstage : s'.stage = .cleaned)
    (hw : w.os = s.handles) (hw' : w'.os = s'.handles)
    (hrun : Run (step env Handles.respond) ((Callback.cleanup info).program env fileName s.context) w tr
      s'.context w') : Tidy s (.cleanup info) s' ∧ Sound start s' := by
  have hsat : Sat (step env Handles.respond) ((Callback.cleanup info).program env fileName s.context) w
      (fun _ context' w' =>
        context' = 0 ∧ w'.os = if s.context = 0 then w.os else w.os.close s.context) :=
    sat_bind.mpr (sat_cleanup.mono fun _ _ _ hclosed => sat_pure.mpr hclosed)
  obtain ⟨hcontext, hhandles⟩ := hsat _ _ _ hrun
  rw [hw, hw'] at hhandles
  refine sound_end h (.inl hstage) (fun _ _ => Callback.noConfusion) ?_ hhandles fun _ => hopened
  rw [hstage]
  exact hcontext

/-- The close, after a cleanup or without one. -/
theorem sound_close {w w' : World Handles} {tr : Trace} {info : DokanFileInfo} (h : Sound start s)
    (hlate : s.stage = .opened ∨ s.stage = .cleaned) (hstage : s'.stage = .closed)
    (hw : w.os = s.handles) (hw' : w'.os = s'.handles)
    (hrun : Run (step env Handles.respond) ((Callback.close info).program env fileName s.context) w tr
      s'.context w') : Tidy s (.close info) s' ∧ Sound start s' := by
  have hc : Usable w.os s.context := by
    rw [hw]
    exact h.fits.usable
  have hsat : Sat (step env Handles.respond) ((Callback.close info).program env fileName s.context) w
      (fun _ context' w' =>
        (context' = 0 ∨ context' = INVALID_HANDLE_VALUE) ∧
          w'.os =
            if s.context = 0 ∨ s.context = INVALID_HANDLE_VALUE then w.os else w.os.close s.context) :=
    sat_bind.mpr ((sat_closeFile hc).mono fun _ _ _ hclosed => sat_pure.mpr hclosed)
  obtain ⟨hcontext, hhandles⟩ := hsat _ _ _ hrun
  rw [hw, hw'] at hhandles
  -- before the close, `Context` never is `INVALID_HANDLE_VALUE`
  have hvalid : s.context ≠ 0 → s.stage = .opened ∧ s.context ≠ INVALID_HANDLE_VALUE := by
    intro hne
    have hfits := h.fits
    rcases hlate with hs | hs
    · rw [hs] at hfits
      exact ⟨hs, (hfits.resolve_left hne).1.2⟩
    · rw [hs] at hfits
      exact absurd hfits hne
  refine sound_end h (.inr hstage) (fun _ _ => Callback.noConfusion) ?_ ?_ fun hne => (hvalid hne).1
  · rw [hstage]
    exact hcontext
  · rw [hhandles]
    rcases eq_or_ne s.context 0 with hzero | hne
    · rw [if_pos (.inl hzero), if_pos hzero]
    · rw [if_neg (not_or.mpr ⟨hne, (hvalid hne).2⟩), if_neg hne]

/-- **One callback** of an open. -/
theorem sound_step (h : Sound start s) (hstep : Driven env fileName s l s') :
    Tidy s l s' ∧ Sound start s' := by
  obtain ⟨hnext, w, w', tr, hw, hw', hrun⟩ := hstep
  cases hs : s.stage with
  | closed =>
      rw [hs] at hnext
      cases hnext
  | fresh =>
      rw [hs] at hnext
      cases l with
      | create q info => exact sound_create h hs (Option.some_inj.mp hnext).symm hw hw' hrun
      | _ => cases hnext
  | opened =>
      rw [hs] at hnext
      have hpass : l.Passing → s'.stage = s.stage → Tidy s l s' ∧ Sound start s' := fun hl hstage =>
        sound_passing h hl hstage (by rw [hs]; exact Stage.noConfusion) hw hw' hrun
      cases l with
      | create q info => cases hnext
      | cleanup info => exact sound_cleanup h hs (Option.some_inj.mp hnext).symm hw hw' hrun
      | close info => exact sound_close h (.inl hs) (Option.some_inj.mp hnext).symm hw hw' hrun
      | _ => exact hpass trivial ((Option.some_inj.mp hnext).symm.trans hs.symm)
  | cleaned =>
      rw [hs] at hnext
      have hpass : l.Passing → s'.stage = s.stage → Tidy s l s' ∧ Sound start s' := fun hl hstage =>
        sound_passing h hl hstage (by rw [hs]; exact Stage.noConfusion) hw hw' hrun
      cases l with
      | create q info => cases hnext
      | cleanup info => cases hnext
      | close info => exact sound_close h (.inr hs) (Option.some_inj.mp hnext).symm hw hw' hrun
      | _ => exact hpass trivial ((Option.some_inj.mp hnext).symm.trans hs.symm)

/-- An open as it begins: the driver hands over no handle yet. -/
def Open.Begins (s : Open) : Prop :=
  s.stage = .fresh ∧ s.context = 0 ∧ s.handles.misused = false

theorem Open.Begins.sound (h : s.Begins) : Sound s.handles.opened s := by
  obtain ⟨hstage, hcontext, hused⟩ := h
  refine ⟨hused, Nat.le_refl _, fun _ => rfl, ?_, fun n hn hn' => absurd hn' (Nat.not_lt_of_le hn)⟩
  rw [hstage]
  exact hcontext

/-- **Lifetimes.**  Along every run of the callbacks on one open, in the driver's order, no
handle is used that is not open, a create leaves what it opened in `Context`, and every other
callback has closed what it opened once when it returns; and once the file is closed, every
file opened on the way has been closed exactly once. -/
theorem closed_once {history : List (Callback × Open)} (hs : s.Begins)
    (h : Path (Driven env fileName) s history) :
    Along Tidy s history ∧
      ((final s history).stage = .closed → ∀ n, s.handles.opened ≤ n →
        n < (final s history).handles.opened → (final s history).handles.file n = true →
          (final s history).handles.closed n = 1) := by
  have hstep : ∀ s₁ l s₂, Sound s.handles.opened s₁ → Driven env fileName s₁ l s₂ →
      Tidy s₁ l s₂ ∧ Sound s.handles.opened s₂ := fun _ _ _ => sound_step
  refine ⟨h.along_all hstep hs.sound, fun hend n hn hn' hfile => ?_⟩
  have hfinal : Sound s.handles.opened (final s history) :=
    h.final_invariant (fun _ _ _ hsound hdriven => (hstep _ _ _ hsound hdriven).2) hs.sound
  rcases hfinal.closed n hn hn' hfile with hclosed | ⟨hopened, -, -⟩
  · exact hclosed
  · rw [hend] at hopened
    cases hopened

end

/-- A process with no handle open. -/
def Handles.none : Handles where
  opened := 0
  live _ := Option.none
  closed _ := 0
  file _ := false
  misused := false
  live_lt := nofun
  live_inj := nofun
  live_open := nofun
  fresh _ := rfl

theorem respond_total (env : Env) (T : Handles) (c : Win32Call) :
    ∃ r T', Win32Call.Allowed env c r ∧ T.respond c r T' := by
  have hfail : ∀ T', T.respond c (.fail ⟨5, by decide⟩) T' →
      ∃ r T', Win32Call.Allowed env c r ∧ T.respond c r T' := fun T' hT =>
    ⟨.fail ⟨5, by decide⟩, T', by cases c <;> trivial, hT⟩
  cases c with
  | getHandleInformation h =>
      cases hlive : (T.live h).isSome with
      | true => exact ⟨.ok () 0, _, trivial, ⟨fun _ => hlive, fun _ => rfl⟩, rfl⟩
      | false =>
          refine ⟨.fail ⟨6, by decide⟩, _, trivial, ⟨nofun, fun he => ?_⟩, rfl⟩
          rw [hlive] at he
          cases he
  | _ => exact hfail _ rfl

/-! ## A lifetime -/

/-- `ERROR_FILE_NOT_FOUND`. -/
def notFound : Win32Error := ⟨2, by decide⟩

def firstHandle : OpenHandle := ⟨12, by decide⟩

/-- A platform that knows no file, and opens every one under one handle or none at all.  What is
read is empty. -/
def playing (grants : Bool) (w : World Handles) : (c : Call) → Option (Answer c × World Handles)
  | .getLastError => some (w.lastError, w)
  | .print _ _ | .printSD _ _ => some ((), w)
  | .insertWriteCount h => some ((),
      { w with writeCounts := Function.update w.writeCounts h (some ((w.writeCounts h).getD 0)) })
  | .eraseWriteCount h => some ((), { w with writeCounts := Function.update w.writeCounts h none })
  | .readCache => some (w.cache, w)
  | .win32 (.getProcessNameFromPID _) | .win32 (.getFileAttributes _) =>
      some (.fail notFound, { w with lastError := notFound.1 })
  | .win32 (.createFile ..) =>
      if (grants && (w.os.live firstHandle.1).isNone) = true then
        some (.ok firstHandle 0, { w with lastError := 0, os := w.os.opening firstHandle.1 true })
      else some (.fail notFound, { w with lastError := notFound.1 })
  | .win32 (.readFile h _ _) => some (.ok [] 0, { w with lastError := 0, os := w.os.use (some h) })
  | .win32 (.closeHandle h) => some (.ok () 0, { w with lastError := 0, os := w.os.close h })
  | _ => none

theorem playing_step {env : Env} (hoff : env.debugMode = false) {grants : Bool} {w w' : World Handles}
    {c : Call} {r : Answer c} (h : playing grants w c = some (r, w')) : step env Handles.respond w c r w' := by
  cases c with
  | getLastError | readCache =>
      cases h
      exact ⟨rfl, rfl⟩
  | print format args =>
      cases h
      exact ⟨_, fun _ => rfl, rfl⟩
  | printSD sd num =>
      cases h
      exact ⟨env.printable_of_off hoff sd, _, fun _ => rfl, rfl⟩
  | insertWriteCount handle | eraseWriteCount handle =>
      cases h
      rfl
  | win32 x =>
      cases x with
      | getProcessNameFromPID _ | getFileAttributes _ | readFile _ _ _ | closeHandle _ =>
          cases h
          exact ⟨trivial, _, rfl, rfl⟩
      | createFile path access share sd disposition flags =>
          by_cases hopens : (grants && (w.os.live firstHandle.1).isNone) = true
          · cases (if_pos hopens).symm.trans h
            exact ⟨trivial, _, ⟨Option.isNone_iff_eq_none.mp (Bool.and_eq_true_iff.mp hopens).2, rfl⟩, rfl⟩
          · cases (if_neg hopens).symm.trans h
            exact ⟨trivial, _, rfl, rfl⟩
      | _ => cases h
  | _ => cases h

/-- No file is known, and no handle open. -/
def untouched : World Handles where
  lastError := 0
  nodes := .none
  writeCounts _ := none
  os := .none

/-- A decidable fact about the run of a program there, with debugging off. -/
theorem exists_played {α : Type} (env : Env) (hoff : env.debugMode = false) (grants : Bool) (p : Op α)
    (P : Trace → α → World Handles → Bool)
    (h : (exec (playing grants) p untouched).any fun x => P x.1 x.2.1 x.2.2) :
    ∃ tr a w', Run (step env Handles.respond) p untouched tr a w' ∧ P tr a w' = true := by
  have hstep : ∀ w c r w', playing grants w c = some (r, w') → step env Handles.respond w c r w' :=
    fun _ _ _ _ => playing_step hoff
  obtain ⟨⟨tr, a, w'⟩, hexec, hP⟩ := Option.any_eq_true _ _ |>.mp h
  exact ⟨tr, a, w', exec_run hstep hexec, hP⟩

/-- Callbacks on one open, each with `Context` as the last one left it. -/
def programs (env : Env) (fileName : WString) : List Callback → HANDLE → Op HANDLE
  | [], context => pure context
  | l :: ls, context => l.program env fileName context >>= programs env fileName ls

/-- Their runs make up a path, if the driver may call them in this order. -/
theorem exists_path {env : Env} {fileName : WString} {ls : List Callback} {stage : Stage}
    {context context' : HANDLE} {w w' : World Handles} {tr : Trace} (hstages : (ls.foldlM Stage.next stage).isSome)
    (h : Run (step env Handles.respond) (programs env fileName ls context) w tr context' w') :
    ∃ history, Path (Driven env fileName) ⟨stage, context, w.os⟩ history ∧ history.map Prod.fst = ls ∧
      (final ⟨stage, context, w.os⟩ history).handles = w'.os ∧
      ls.foldlM Stage.next stage = some (final ⟨stage, context, w.os⟩ history).stage := by
  induction ls generalizing stage context w tr with
  | nil =>
      obtain ⟨-, -, rfl⟩ := run_done.mp h
      exact ⟨[], .nil, rfl, rfl, rfl⟩
  | cons l ls ih =>
      obtain ⟨tr₁, context₁, w₁, tr₂, -, hl, hls⟩ := run_bind.mp h
      cases hnext : stage.next l with
      | none =>
          rw [List.foldlM_cons, hnext] at hstages
          cases hstages
      | some stage' =>
          have hfold : (l :: ls).foldlM Stage.next stage = ls.foldlM Stage.next stage' := by
            rw [List.foldlM_cons, hnext]
            rfl
          rw [hfold] at hstages ⊢
          obtain ⟨history, hpath, hcalls, hhandles, hstage⟩ := ih hstages hls
          exact ⟨(l, ⟨stage', context₁, w₁.os⟩) :: history, .cons ⟨hnext, w, w₁, tr₁, rfl, rfl, hl⟩ hpath,
            congrArg (l :: ·) hcalls, hhandles, hstage⟩

/-- The file is opened to be written. -/
def writing : CreateRequest := { CreateRequest.plain 1 with desiredAccess := FILE_WRITE_DATA }

/-- A create, a cleanup, a read that has to open the file for itself, and the close. -/
def lateRead : List Callback := [.create writing {}, .cleanup {}, .read 1 0 {}, .close {}]

/-- A file that is opened, cleaned up, and read once more before it is closed: the file was opened
twice, and both openings were closed. -/
theorem exists_closed_once :
    ∃ history : List (Callback × Open), history.map Prod.fst = lateRead ∧
      (final ⟨.fresh, 0, .none⟩ history).stage = .closed ∧
      (final ⟨.fresh, 0, .none⟩ history).handles.opened = 2 ∧
      (final ⟨.fresh, 0, .none⟩ history).handles.file 0 = true ∧
      (final ⟨.fresh, 0, .none⟩ history).handles.file 1 = true ∧
        Along Tidy ⟨.fresh, 0, .none⟩ history ∧
          ((final ⟨.fresh, 0, .none⟩ history).stage = .closed → ∀ n, Handles.none.opened ≤ n →
            n < (final ⟨.fresh, 0, .none⟩ history).handles.opened →
              (final ⟨.fresh, 0, .none⟩ history).handles.file n = true →
                (final ⟨.fresh, 0, .none⟩ history).handles.closed n = 1) := by
  obtain ⟨tr, context, w', hrun, hopened⟩ := exists_played (.plain false) rfl true
    (programs (.plain false) (wide ['\\', 'a']) lateRead 0)
    (fun _ _ w' => decide (w'.os.opened = 2 ∧ w'.os.file 0 = true ∧ w'.os.file 1 = true)) (by decide)
  obtain ⟨htwo, hfirst, hsecond⟩ := of_decide_eq_true hopened
  have hstages : (lateRead.foldlM Stage.next .fresh).isSome := rfl
  obtain ⟨history, hpath, hcalls, hhandles, hstage⟩ := exists_path hstages hrun
  rw [← hhandles] at htwo hfirst hsecond
  exact ⟨history, hcalls, (Option.some.inj hstage).symm, htwo, hfirst, hsecond,
    closed_once ⟨rfl, rfl, rfl⟩ hpath⟩

end SeamlessSmb
