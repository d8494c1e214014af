/-
# `FileOps.Handles` — handles, and who closes them

A callback that finds no handle in `Context` opens the file for itself, and has to close it
again on every way out.  Whether it does is a question about the handles of the process: a
value that `CloseHandle` was given may stand for another file a moment later, so openings
are numbered, and what is closed is an opening.

| | |
| :-- | :-- |
| `Handles` | the handles of the process, and which opening a value stands for |
| `Handles.respond` | the platform that keeps this table, its outcomes left open |
| `Handles.Settled` | what was opened since is closed, once, and nothing else has changed |
| `Holding` | a callback is at work on a handle, its own or that of the request |

**Proved here:** reads, writes, flushes and questions for information leave the handles
settled, whatever the platform answers (`settled_readFile`, `settled_writeFile`,
`settled_flushFileBuffers`, `settled_getFileInformation`).
-/
import SeamlessSmb.FileOps.Information

namespace SeamlessSmb

open Calls

/-! ## The handles of the process -/

/-- The handle a call is given. -/
def Win32Call.given? : Win32Call → Option HANDLE
  | .closeHandle h | .getHandleInformation h | .setFileDispositionInfo h _ | .setFileRenameInfo h _ _
  | .setFileEndOfFileInfo h _ | .setEndOfFile h | .setFilePointer h | .setFilePointerEx h _ _
  | .getFileSize h | .getFileSizeEx h | .readFile h _ _ | .writeFile h _ | .flushFileBuffers h
  | .getFileInformationByHandle h | .setFileTime h _ _ _ | .lockFile h _ _ | .unlockFile h _ _
  | .impersonateLoggedOnUser h => some h
  | _ => none

/-- The handles of the process.  Openings are numbered; a value that was closed may stand
for another opening later. -/
structure Handles where
  opened : Nat
  live : HANDLE → Option Nat
  /-- how often an opening was closed -/
  closed : Nat → Nat
  /-- an opening of a file, not of a token -/
  file : Nat → Bool
  /-- a handle was used that stood for no opening -/
  misused : Bool
  live_lt : ∀ {h n}, live h = some n → n < opened
  live_inj : ∀ {h h' n}, live h = some n → live h' = some n → h = h'
  live_open : ∀ {h n}, live h = some n → closed n = 0
  fresh : ∀ {n}, opened ≤ n → closed n = 0

namespace Handles

variable {T U V : Handles} {h h' : HANDLE} {n : Nat}

/-- What a table says after an entry was changed. -/
theorem update_eq_some {f : HANDLE → Option Nat} {v : Option Nat} :
    Function.update f h v h' = some n ↔ h' = h ∧ v = some n ∨ h' ≠ h ∧ f h' = some n := by
  rcases eq_or_ne h' h with heq | hne
  · rw [heq, Function.update_self]
    simp
  · rw [Function.update_of_ne hne]
    simp [hne]

/-- One more opening, which `h` stands for. -/
def opening (T : Handles) (h : HANDLE) (isFile : Bool) : Handles where
  opened := T.opened + 1
  live := Function.update T.live h (some T.opened)
  closed := T.closed
  file := Function.update T.file T.opened isFile
  misused := T.misused
  live_lt := by
    intro h' n hlive
    rcases update_eq_some.mp hlive with ⟨-, hn⟩ | ⟨-, hlive⟩
    · have hn := Option.some_inj.mp hn
      omega
    · exact Nat.lt_succ_of_lt (T.live_lt hlive)
  live_inj := by
    intro h₁ h₂ n hlive₁ hlive₂
    rcases update_eq_some.mp hlive₁ with ⟨heq₁, hn⟩ | ⟨-, hlive₁⟩
    · rcases update_eq_some.mp hlive₂ with ⟨heq₂, -⟩ | ⟨-, hlive₂⟩
      · exact heq₁.trans heq₂.symm
      · exact absurd (T.live_lt hlive₂) (by rw [← Option.some_inj.mp hn]; exact Nat.lt_irrefl _)
    · rcases update_eq_some.mp hlive₂ with ⟨-, hn⟩ | ⟨-, hlive₂⟩
      · exact absurd (T.live_lt hlive₁) (by rw [← Option.some_inj.mp hn]; exact Nat.lt_irrefl _)
      · exact T.live_inj hlive₁ hlive₂
  live_open := by
    intro h' n hlive
    rcases update_eq_some.mp hlive with ⟨-, hn⟩ | ⟨-, hlive⟩
    · exact T.fresh (Nat.le_of_eq (Option.some_inj.mp hn))
    · exact T.live_open hlive
  fresh := fun hn => T.fresh (Nat.le_of_succ_le hn)

/-- The opening `n`, which `h` stands for, is closed. -/
def closing (T : Handles) (h : HANDLE) (n : Nat) (hlive : T.live h = some n) : Handles where
  opened := T.opened
  live := Function.update T.live h none
  closed := Function.update T.closed n (T.closed n + 1)
  file := T.file
  misused := T.misused
  live_lt := by
    intro h' m h'live
    rcases update_eq_some.mp h'live with ⟨-, hm⟩ | ⟨-, h'live⟩
    · cases hm
    · exact T.live_lt h'live
  live_inj := by
    intro h₁ h₂ m hlive₁ hlive₂
    rcases update_eq_some.mp hlive₁ with ⟨-, hm⟩ | ⟨-, hlive₁⟩
    · cases hm
    · rcases update_eq_some.mp hlive₂ with ⟨-, hm⟩ | ⟨-, hlive₂⟩
      · cases hm
      · exact T.live_inj hlive₁ hlive₂
  live_open := by
    intro h' m h'live
    rcases update_eq_some.mp h'live with ⟨-, hm⟩ | ⟨hne, h'live⟩
    · cases hm
    · have hmn : m ≠ n := fun he => hne (T.live_inj h'live (he ▸ hlive))
      rw [Function.update_of_ne hmn]
      exact T.live_open h'live
  fresh := by
    intro m hm
    rw [Function.update_of_ne (Nat.ne_of_gt (Nat.lt_of_lt_of_le (T.live_lt hlive) hm))]
    exact T.fresh hm

/-- `h` is closed. -/
def close (T : Handles) (h : HANDLE) : Handles :=
  match hlive : T.live h with
  | some n => T.closing h n hlive
  | none => { T with misused := true }

/-- A call is given `h`. -/
def use (T : Handles) : Option HANDLE → Handles
  | some h => { T with misused := T.misused || (T.live h).isNone }
  | none => T

/-- What the calls do to the handles.  A handle just opened is none of those that are open,
and `GetHandleInformation` succeeds on these. -/
def respond (T : Handles) : (c : Win32Call) → Outcome c.Value → Handles → Prop
  | .createFile .., .ok h _, T' => T.live h.1 = none ∧ T' = T.opening h.1 true
  | .dokanOpenRequestorToken, .ok token _, T' => T.live token = none ∧ T' = T.opening token false
  | .closeHandle h, _, T' => T' = T.close h
  | .getHandleInformation h, r, T' => (r.succeeded = true ↔ (T.live h).isSome) ∧ T' = T.use (some h)
  | c, _, T' => T' = T.use c.given?

theorem use_of_live (hlive : (T.live h).isSome) : T.use (some h) = T := by
  obtain ⟨n, hn⟩ := Option.isSome_iff_exists.mp hlive
  simp [use, hn]

theorem close_of_live (hlive : T.live h = some n) : T.close h = T.closing h n hlive := by
  unfold close
  split
  · next m hm =>
      have hmn : m = n := Option.some_inj.mp (hm.symm.trans hlive)
      subst hmn
      rfl
  · next hnone =>
      rw [hlive] at hnone
      cases hnone

/-- What was opened since is closed, once; nothing else has changed. -/
structure Settled (T U : Handles) : Prop where
  misused : U.misused = T.misused
  live : U.live = T.live
  opened : T.opened ≤ U.opened
  before : ∀ n, n < T.opened → U.closed n = T.closed n ∧ U.file n = T.file n
  since : ∀ n, T.opened ≤ n → n < U.opened → U.closed n = 1

theorem Settled.refl : Settled T T :=
  ⟨rfl, rfl, Nat.le_refl _, fun _ _ => ⟨rfl, rfl⟩, fun _ hn hn' => absurd hn' (by omega)⟩

/-- A handle opened and closed leaves things settled. -/
theorem settled_close_opening {isFile : Bool} (hfree : T.live h = none) :
    Settled T ((T.opening h isFile).close h) := by
  have hlive : (T.opening h isFile).live h = some T.opened := Function.update_self ..
  rw [close_of_live hlive]
  refine ⟨rfl, ?_, Nat.le_succ _, fun n hn => ?_, fun n hn hn' => ?_⟩
  · show Function.update (Function.update T.live h (some T.opened)) h none = T.live
    rw [Function.update_idem, ← hfree, Function.update_eq_self]
  · exact ⟨Function.update_of_ne (Nat.ne_of_lt hn) .., Function.update_of_ne (Nat.ne_of_lt hn) ..⟩
  · have heq : n = T.opened := Nat.le_antisymm (Nat.le_of_lt_succ hn') hn
    subst heq
    show Function.update T.closed T.opened (T.closed T.opened + 1) T.opened = 1
    rw [Function.update_self, T.fresh (Nat.le_refl _)]

end Handles

/-! ## Callbacks that work on a handle -/

section

variable {α β : Type} {env : Env} {w : World Handles} {T : Handles} {handle : HANDLE}
  {opened : Bool} {info : DokanFileInfo}

/-- The call opens and closes nothing, and is given no handle but `handle`. -/
def Call.Gentle (handle : Option HANDLE) : Call → Prop
  | .win32 (.createFile ..) | .win32 (.closeHandle _) | .win32 .dokanOpenRequestorToken => False
  | .win32 c => c.given? = none ∨ c.given? = handle
  | _ => True

/-- A gentle call with a handle that is open leaves the table as it is. -/
theorem step_gentle {handle : Option HANDLE} {w' : World Handles} {c : Call} {r : Answer c}
    (hc : c.Gentle handle) (hlive : ∀ h, handle = some h → (w.os.live h).isSome)
    (h : step env Handles.respond w c r w') : w'.os = w.os := by
  rcases step_aside h with ⟨x, rfl⟩ | ⟨hos, -⟩
  · obtain ⟨-, T, hT, rfl⟩ := h
    have huse : T = w.os.use x.given? := by
      cases x with
      | createFile => exact hc.elim
      | closeHandle => exact hc.elim
      | dokanOpenRequestorToken => exact hc.elim
      | getHandleInformation h => exact hT.2
      | _ => exact hT
    have hgiven : x.given? = none ∨ x.given? = handle := by
      cases x with
      | createFile => exact hc.elim
      | closeHandle => exact hc.elim
      | dokanOpenRequestorToken => exact hc.elim
      | _ => exact hc
    show T = w.os
    rw [huse]
    rcases hgiven with hnone | hsome
    · rw [hnone]
      rfl
    · rw [hsome]
      cases handle with
      | none => rfl
      | some h => exact Handles.use_of_live (hlive h rfl)
  · exact hos

theorem sat_gentle {p : Op α} {handle : Option HANDLE} (hp : OnlyCalls (Call.Gentle handle) p)
    (hlive : ∀ h, handle = some h → (w.os.live h).isSome) :
    Sat (step env Handles.respond) p w (fun _ _ w' => w'.os = w.os) := by
  refine hp.invariant (I := fun w' : World Handles => w'.os = w.os) (fun s c r s' hc hs hstep => ?_) rfl
  have hkept := step_gentle hc (fun h hh => by rw [hs]; exact hlive h hh) hstep
  exact hkept.trans hs

theorem sat_gentle_bind {p : Op α} {f : α → Op β} {Q : Trace → β → World Handles → Prop}
    (hp : OnlyCalls (Call.Gentle none) p)
    (hf : ∀ tr a w', w'.os = w.os →
      Sat (step env Handles.respond) (f a) w' (fun tr' => Q (tr ++ tr'))) :
    Sat (step env Handles.respond) (p >>= f) w Q :=
  sat_bind.mpr ((sat_gentle hp fun _ => nofun).mono hf)

theorem sat_gentle_call {c : Call} {f : Answer c → Op β} {Q : Trace → β → World Handles → Prop}
    (hc : c.Gentle none)
    (hf : ∀ r w', w'.os = w.os →
      Sat (step env Handles.respond) (f r) w' (fun tr => Q (⟨c, r⟩ :: tr))) :
    Sat (step env Handles.respond) (Prog.perform c >>= f) w Q :=
  sat_perform_bind.mpr fun r w₁ hstep => hf r w₁ (step_gentle hc (fun _ => nofun) hstep)

/-- A question put to the platform. -/
theorem sat_respond_bind {c : Win32Call} {f : Outcome c.Value → Op β}
    {Q : Trace → β → World Handles → Prop}
    (hf : ∀ r w', w.os.respond c r w'.os →
      Sat (step env Handles.respond) (f r) w' (fun tr => Q (⟨.win32 c, r⟩ :: tr))) :
    Sat (step env Handles.respond) (win32 c >>= f) w Q := by
  refine sat_perform_bind.mpr fun r w₁ hstep => hf r w₁ ?_
  obtain ⟨-, T, hT, rfl⟩ := hstep
  exact hT

/-- A callback is working on `handle`, which it opened itself or which was open. -/
structure Holding (T : Handles) (handle : HANDLE) (opened : Bool) (U : Handles) : Prop where
  table : U = if opened then T.opening handle true else T
  live : (U.live handle).isSome
  free : opened = true → T.live handle = none

/-- What it does not close itself it finds open. -/
theorem Holding.settled {U : Handles} (h : Holding T handle false U) : T.Settled U := by
  rw [h.table]
  exact Handles.Settled.refl

/-- A call that is given no other handle. -/
theorem sat_held_bind (h : Holding T handle opened w.os) {c : Call} {f : Answer c → Op β}
    {Q : Trace → β → World Handles → Prop} (hc : c.Gentle (some handle))
    (hf : ∀ r w', Holding T handle opened w'.os →
      Sat (step env Handles.respond) (f r) w' (fun tr => Q (⟨c, r⟩ :: tr))) :
    Sat (step env Handles.respond) (Prog.perform c >>= f) w Q := by
  refine sat_perform_bind.mpr fun r w₁ hstep => hf r w₁ ?_
  have hlive : ∀ h', some handle = some h' → (w.os.live h').isSome := by
    rintro _ ⟨⟩
    exact h.live
  rw [step_gentle hc hlive hstep]
  exact h

theorem settled_closeOpened (h : Holding T handle opened w.os) :
    Sat (step env Handles.respond) (closeOpened handle opened) w (fun _ _ w' => T.Settled w'.os) := by
  cases opened with
  | false => exact sat_pure.mpr h.settled
  | true =>
      refine sat_respond_bind fun r w₁ hclosed => sat_pure.mpr ?_
      rw [show w₁.os = w.os.close handle from hclosed, h.table]
      exact Handles.settled_close_opening (h.free rfl)

theorem settled_reportError (h : Holding T handle opened w.os) {format : String}
    {args : DWORD → List PrintArg} :
    Sat (step env Handles.respond) (reportError env format args handle opened) w
      (fun _ _ w' => T.Settled w'.os) := by
  refine sat_held_bind h trivial fun error w₁ h₁ => sat_held_bind h₁ trivial fun _ w₂ h₂ => ?_
  exact sat_bind.mpr ((settled_closeOpened h₂).mono fun _ _ _ hs => sat_pure.mpr hs)

theorem settled_reportReread (h : Holding T handle opened w.os) {format : String}
    {args : DWORD → List PrintArg} :
    Sat (step env Handles.respond) (reportReread env format args handle opened) w
      (fun _ _ w' => T.Settled w'.os) := by
  refine sat_held_bind h trivial fun error w₁ h₁ => sat_held_bind h₁ trivial fun _ w₂ h₂ => ?_
  refine sat_bind.mpr ((settled_closeOpened h₂).mono fun _ _ w₃ hs => ?_)
  refine sat_gentle_call trivial fun error w₄ hos₄ => sat_pure.mpr ?_
  rw [hos₄]
  exact hs

/-- What `Context` may hold between the callbacks: nothing, or a handle that is open. -/
def Usable (T : Handles) (context : HANDLE) : Prop :=
  context = 0 ∨ context = INVALID_HANDLE_VALUE ∨ (T.live context).isSome

/-- A callback finds a handle, or opens one. -/
theorem sat_reopen {path : Op WString} {access share : DWORD} {note : Op Unit}
    (hpath : OnlyCalls (Call.Gentle none) path) (hnote : OnlyCalls (Call.Gentle none) note)
    (hc : Usable w.os info.context) :
    Sat (step env Handles.respond) (reopen env path access share note info) w (fun _ file w' =>
      match file with
      | .error _ => w'.os = w.os
      | .ok (handle, opened) => Holding w.os handle opened w'.os) := by
  unfold reopen
  split
  · refine sat_gentle_call trivial fun _ w₁ hos₁ => ?_
    refine sat_gentle_bind hpath fun _ filePath w₂ hos₂ => ?_
    refine sat_bind.mpr (sat_respond_bind fun r w₃ hcreated => ?_)
    cases r with
    | fail e =>
        refine sat_pure.mpr ?_
        rw [if_pos rfl]
        refine sat_gentle_call trivial fun error w₄ hos₄ => ?_
        refine sat_gentle_call trivial fun _ w₅ hos₅ => sat_pure.mpr ?_
        show w₅.os = w.os
        rw [hos₅, hos₄, show w₃.os = w₂.os from hcreated, hos₂, hos₁]
    | ok h e =>
        refine sat_pure.mpr ?_
        rw [if_neg h.2.2]
        refine sat_gentle_bind hnote fun _ _ w₄ hos₄ => sat_pure.mpr ?_
        obtain ⟨hfree, hopen⟩ : w₂.os.live h.1 = none ∧ w₃.os = w₂.os.opening h.1 true := hcreated
        rw [hos₂, hos₁] at hfree hopen
        have hos : w₄.os = w.os.opening h.1 true := hos₄.trans hopen
        refine ⟨hos, ?_, fun _ => hfree⟩
        rw [hos]
        exact Option.isSome_iff_exists.mpr ⟨_, Function.update_self ..⟩
  · next hnone =>
      refine sat_pure.mpr ⟨rfl, ?_, Bool.noConfusion⟩
      rcases hc with hzero | hinvalid | hlive
      · exact absurd (.inl hzero) hnone
      · exact absurd (.inr hinvalid) hnone
      · exact hlive

/-! ## The callbacks of an open -/

theorem gentle_filePathOf {handle : Option HANDLE} {g : Globals} {fileName : WString} :
    OnlyCalls (Call.Gentle handle) (filePathOf g fileName) := onlyCalls_filePathOf trivial

theorem gentle_checkFlags {handle : Option HANDLE} {value : DWORD} {flags : List (DWORD × String)} :
    OnlyCalls (Call.Gentle handle) (checkFlags value flags) := onlyCalls_checkFlags fun _ _ => trivial

variable {fileName filePath : WString} {bufferLength readLength : DWORD} {offset : BitVec 64}

/-- Filling the cache, and leaving early. -/
theorem settled_fillCache (h : Holding T handle opened w.os) :
    Sat (step env Handles.respond) (fillCache env handle opened bufferLength readLength) w
      (fun _ early w' =>
        match early with
        | some _ => T.Settled w'.os
        | none => Holding T handle opened w'.os) := by
  refine sat_held_bind h (.inr rfl) fun r w₁ h₁ => ?_
  cases r with
  | fail e => exact sat_bind.mpr ((settled_reportReread h₁).mono fun _ _ _ hs => sat_pure.mpr hs)
  | ok u e =>
      refine sat_held_bind h₁ (.inr rfl) fun r w₂ h₂ => ?_
      cases r with
      | fail e => exact sat_bind.mpr ((settled_reportReread h₂).mono fun _ _ _ hs => sat_pure.mpr hs)
      | ok fileSize e =>
          refine sat_held_bind h₂ trivial fun _ w₃ h₃ => ?_
          refine sat_held_bind h₃ (.inr rfl) fun r w₄ h₄ => ?_
          cases r with
          | fail e => exact sat_bind.mpr ((settled_reportError h₄).mono fun _ _ _ hs => sat_pure.mpr hs)
          | ok bytes e =>
              exact sat_held_bind h₄ trivial fun _ w₅ h₅ => sat_pure.mpr h₅

theorem settled_readThrough (hc : Usable w.os info.context) :
    Sat (step env Handles.respond) (readThrough env fileName filePath bufferLength offset info) w
      (fun _ _ w' => w.os.Settled w'.os) := by
  have hpath : OnlyCalls (Call.Gentle none) (pure filePath : Op WString) := trivial
  have hnote : OnlyCalls (Call.Gentle none) (pure () : Op Unit) := trivial
  refine sat_bind.mpr ((sat_reopen hpath hnote hc).mono fun _ file w₁ hfile => ?_)
  cases file with
  | error status =>
      refine sat_pure.mpr ?_
      rw [hfile]
      exact Handles.Settled.refl
  | ok file =>
      obtain ⟨handle, opened⟩ := file
      have h₁ : Holding w.os handle opened w₁.os := hfile
      refine sat_held_bind h₁ (.inr rfl) fun r w₂ h₂ => ?_
      cases r with
      | fail e => exact sat_bind.mpr ((settled_reportError h₂).mono fun _ _ _ hs => sat_pure.mpr hs)
      | ok bytes e =>
          refine sat_held_bind h₂ trivial fun cache w₃ h₃ => ?_
          dsimp only
          split
          · refine sat_bind.mpr ((settled_fillCache h₃).mono fun _ early w₄ hearly => ?_)
            cases early with
            | some status => exact sat_pure.mpr hearly
            | none => exact sat_bind.mpr ((settled_closeOpened hearly).mono fun _ _ _ hs => sat_pure.mpr hs)
          · refine sat_bind.mpr (sat_pure.mpr ?_)
            exact sat_bind.mpr ((settled_closeOpened h₃).mono fun _ _ _ hs => sat_pure.mpr hs)

/-- **Reading** leaves the handles settled. -/
theorem settled_readFile (hc : Usable w.os info.context) :
    Sat (step env Handles.respond) (mirrorReadFile env fileName bufferLength offset info) w
      (fun _ _ w' => w.os.Settled w'.os) := by
  rw [mirrorReadFile_eq]
  refine sat_filePathOf_bind fun filePath _ => ?_
  refine sat_gentle_call trivial fun cache w₁ hos₁ => ?_
  rw [← hos₁] at hc ⊢
  have hcached : ∀ count, Sat (step env Handles.respond) (readCached offset count) w₁
      (fun _ _ w' => w₁.os.Settled w'.os) := by
    intro count
    refine sat_gentle_call trivial fun bytes w₂ hos₂ => sat_pure.mpr ?_
    rw [hos₂]
    exact .refl
  cases cachedCount fileName bufferLength offset cache with
  | some count => exact hcached count
  | none => exact settled_readThrough hc

theorem gentle_countWrite : OnlyCalls (Call.Gentle (some handle)) (countWrite handle) :=
  Housekeeping.onlyCalls_countWrite trivial (.inr rfl) trivial trivial

theorem settled_writeAtPointer (h : Holding T handle opened w.os) {buffer : List Byte}
    {numberOfBytesToWrite : DWORD} :
    Sat (step env Handles.respond)
      (writeAtPointer env buffer numberOfBytesToWrite offset handle opened) w
      (fun _ _ w' => T.Settled w'.os) := by
  refine sat_held_bind h (.inr rfl) fun r w₁ h₁ => ?_
  cases r with
  | fail e => exact sat_bind.mpr ((settled_reportError h₁).mono fun _ _ _ hs => sat_pure.mpr hs)
  | ok numberOfBytesWritten e =>
      have hlive : ∀ h', some handle = some h' → (w₁.os.live h').isSome := by
        rintro _ ⟨⟩
        exact h₁.live
      refine sat_bind.mpr ((sat_gentle gentle_countWrite hlive).mono fun _ _ w₂ hos₂ => ?_)
      rw [← hos₂] at h₁
      refine sat_held_bind h₁ trivial fun _ w₃ h₃ => ?_
      exact sat_bind.mpr ((settled_closeOpened h₃).mono fun _ _ _ hs => sat_pure.mpr hs)

/-- **Writing** leaves the handles settled. -/
theorem settled_writeFile {buffer : List Byte} {numberOfBytesToWrite : DWORD}
    (hc : Usable w.os info.context) :
    Sat (step env Handles.respond)
      (mirrorWriteFile env fileName buffer numberOfBytesToWrite offset info) w
      (fun _ _ w' => w.os.Settled w'.os) := by
  refine sat_gentle_call trivial fun _ w₁ hos₁ => ?_
  rw [← hos₁] at hc ⊢
  have hnote : OnlyCalls (Call.Gentle none) (print "\tOpened file to write") :=
    onlyCalls_perform.mpr trivial
  refine sat_bind.mpr ((sat_reopen gentle_filePathOf hnote hc).mono fun _ file w₂ hfile => ?_)
  cases file with
  | error status =>
      refine sat_pure.mpr ?_
      rw [hfile]
      exact Handles.Settled.refl
  | ok file =>
      obtain ⟨handle, opened⟩ := file
      have h₂ : Holding w₁.os handle opened w₂.os := hfile
      dsimp only
      split
      · -- at the end of the file
        refine sat_held_bind h₂ (.inr rfl) fun r w₃ h₃ => ?_
        cases r with
        | fail e => exact sat_bind.mpr ((settled_reportError h₃).mono fun _ _ _ hs => sat_pure.mpr hs)
        | ok u e => exact settled_writeAtPointer h₃
      · -- at an offset
        refine sat_held_bind h₂ (.inr rfl) fun r w₃ h₃ => ?_
        have herror : Sat (step env Handles.respond) (do
            let status ← reportError env "\tcan not get a file size error = %d\n" (fun e => [.num e]) handle
              opened
            pure { status := status } : Op WriteFileResult) w₃ (fun _ _ w' => w₁.os.Settled w'.os) :=
          sat_bind.mpr ((settled_reportError h₃).mono fun _ _ _ hs => sat_pure.mpr hs)
        cases r with
        | fail e => exact herror
        | ok fileSize e =>
            dsimp only
            split
            · exact herror
            · cases bytesToWrite info.pagingIo offset fileSize numberOfBytesToWrite with
              | none => exact sat_bind.mpr ((settled_closeOpened h₃).mono fun _ _ _ hs => sat_pure.mpr hs)
              | some count =>
                  refine sat_held_bind h₃ (.inr rfl) fun r w₄ h₄ => ?_
                  cases r with
                  | fail e =>
                      exact sat_bind.mpr ((settled_reportError h₄).mono fun _ _ _ hs => sat_pure.mpr hs)
                  | ok u e => exact settled_writeAtPointer h₄

/-- **Flushing** leaves the handles settled. -/
theorem settled_flushFileBuffers (hc : Usable w.os info.context) :
    Sat (step env Handles.respond) (mirrorFlushFileBuffers env fileName info) w
      (fun _ _ w' => w.os.Settled w'.os) := by
  refine sat_filePathOf_bind fun filePath _ => ?_
  refine sat_gentle_call trivial fun _ w₁ hos₁ => ?_
  rw [← hos₁] at hc ⊢
  split
  · refine sat_gentle_call trivial fun _ w₂ hos₂ => sat_pure.mpr ?_
    rw [hos₂]
    exact .refl
  · next hnone =>
      have h₁ : Holding w₁.os info.context false w₁.os := by
        refine ⟨rfl, ?_, Bool.noConfusion⟩
        rcases hc with hzero | hinvalid | hlive
        · exact absurd (.inl hzero) hnone
        · exact absurd (.inr hinvalid) hnone
        · exact hlive
      refine sat_held_bind h₁ (.inr rfl) fun r w₂ h₂ => ?_
      cases r with
      | ok u e => exact sat_pure.mpr h₂.settled
      | fail e =>
          refine sat_held_bind h₂ trivial fun error w₃ h₃ => ?_
          exact sat_held_bind h₃ trivial fun _ w₄ h₄ => sat_pure.mpr h₄.settled

theorem gentle_getFileAttributes {handle : Option HANDLE} {path : WString} :
    OnlyCalls (Call.Gentle handle) (getFileAttributes path) := by
  refine OnlyCalls.bind (onlyCalls_perform.mpr (.inl rfl)) fun r => ?_
  cases r with
  | ok a e => trivial
  | fail e => trivial

/-- Finding out about the file, and leaving early. -/
theorem settled_findInformation (h : Holding T handle opened w.os) {information : ByHandleFileInformation} :
    Sat (step env Handles.respond) (findInformation env fileName filePath information handle opened) w
      (fun _ found w' =>
        match found with
        | .error _ => T.Settled w'.os
        | .ok _ => Holding T handle opened w'.os) := by
  refine sat_held_bind h (.inr rfl) fun r w₁ h₁ => ?_
  cases r with
  | ok found e =>
      exact sat_held_bind h₁ trivial fun _ w₂ h₂ => sat_pure.mpr h₂
  | fail e =>
      refine sat_held_bind h₁ trivial fun error w₂ h₂ => sat_held_bind h₂ trivial fun _ w₃ h₃ => ?_
      split
      · -- the root of the drive
        refine sat_held_bind h₃ trivial fun _ w₄ h₄ => ?_
        refine sat_gentle_bind gentle_getFileAttributes fun _ _ w₅ hos₅ => sat_pure.mpr ?_
        show Holding T handle opened w₅.os
        rw [hos₅]
        exact h₄
      · refine sat_held_bind h₃ (.inl rfl) fun r w₄ h₄ => ?_
        cases r with
        | fail e => exact sat_bind.mpr ((settled_reportError h₄).mono fun _ _ _ hs => sat_pure.mpr hs)
        | ok find e =>
            refine sat_held_bind h₄ trivial fun _ w₅ h₅ => ?_
            exact sat_held_bind h₅ (.inl rfl) fun _ w₆ h₆ => sat_pure.mpr h₆

/-- **Asking for information** leaves the handles settled. -/
theorem settled_getFileInformation {information : ByHandleFileInformation} (hc : Usable w.os info.context) :
    Sat (step env Handles.respond) (mirrorGetFileInformation env fileName information info) w
      (fun _ _ w' => w.os.Settled w'.os) := by
  refine sat_gentle_call trivial fun cache w₁ hos₁ => ?_
  rw [← hos₁] at hc ⊢
  split
  · exact sat_pure.mpr Handles.Settled.refl
  · refine sat_filePathOf_bind fun filePath _ => ?_
    refine sat_gentle_call trivial fun _ w₂ hos₂ => ?_
    rw [← hos₂] at hc ⊢
    have hpath : OnlyCalls (Call.Gentle none) (pure filePath : Op WString) := trivial
    have hnote : OnlyCalls (Call.Gentle none) (pure () : Op Unit) := trivial
    refine sat_bind.mpr ((sat_reopen hpath hnote hc).mono fun _ file w₃ hfile => ?_)
    cases file with
    | error status =>
        refine sat_pure.mpr ?_
        rw [hfile]
        exact Handles.Settled.refl
    | ok file =>
        obtain ⟨handle, opened⟩ := file
        have h₃ : Holding w₂.os handle opened w₃.os := hfile
        refine sat_bind.mpr ((settled_findInformation h₃).mono fun _ found w₄ hfound => ?_)
        cases found with
        | error status => exact sat_pure.mpr hfound
        | ok found =>
            have h₄ : Holding w₂.os handle opened w₄.os := hfound
            refine sat_held_bind h₄ trivial fun _ w₅ h₅ => sat_held_bind h₅ trivial fun _ w₆ h₆ => ?_
            refine sat_gentle_bind gentle_checkFlags fun _ _ w₇ hos₇ => ?_
            rw [← hos₇] at h₆
            refine sat_held_bind h₆ trivial fun cache w₈ h₈ => ?_
            have hstore : OnlyCalls (Call.Gentle none)
                (Prog.onlyIf (fileName = bzvolfile ∧ Cache.bzvolInfoSet cache = false)
                  (Prog.perform (Call.storeCacheInfo (hideArchive found))) : Op Unit) :=
              OnlyCalls.onlyIf fun _ => onlyCalls_perform.mpr trivial
            refine sat_gentle_bind hstore fun _ _ w₉ hos₉ => ?_
            rw [← hos₉] at h₈
            exact sat_bind.mpr ((settled_closeOpened h₈).mono fun _ _ _ hs => sat_pure.mpr hs)

end

end SeamlessSmb
