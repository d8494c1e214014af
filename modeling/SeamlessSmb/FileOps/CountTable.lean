/-
# `FileOps.CountTable` — the counts of the open files

`writeCounts` is kept by handles, and outlives them.  A create that asks to write makes the entry of
its handle, a write makes the one it does not find, and a cleanup takes the entry away with the handle.
The value of a handle may come back as soon as it is closed.

| | |
| :-- | :-- |
| `Opens` | any number of opens, the handles of the process, and the counts |
| `Opens.Driven` | one callback, for one of them |
| `KeysOpen`, `NewCount` | every key is the `Context` of an open file; a file just opened has the count zero |
| `CountKept` | a call that leaves no entry behind |

**Proved here:** any calls in any order keep the table exact as long as none of them leaves an entry
behind (`keysOpen_of_countKept`).  A create that asks to write and fails leaves one under
`INVALID_HANDLE_VALUE`.
-/
import SeamlessSmb.FileOps.CreateCounts
import SeamlessSmb.Lib.Holders

namespace SeamlessSmb

open Calls History Holders

/-! ## What a write does to the counts -/

/-- A write succeeds. -/
def Writes (e : Event Call Answer) : Prop :=
  match e.call, e.answer with
  | .win32 (.writeFile ..), .ok _ _ => True
  | _, _ => False

section

variable {env : Env} {w w' : World Handles} {tr : Trace} {context : HANDLE}

/-- Only the entry of the handle changes. -/
theorem step_writeCounts_of_ne {handle : HANDLE} {q : WritePhase} {c : Call} {r : Answer c}
    (hallow : WritePhase.Allows handle q c) (h : step env Handles.respond w c r w') {h' : HANDLE}
    (hne : h' ≠ handle) : w'.writeCounts h' = w.writeCounts h' := by
  cases hallow with
  | before hc | counted hc => rw [step_writeCounts (WritePhase.onCounts_of_aside hc) h]
  | write | flush => rw [step_writeCounts rfl h]
  | test =>
    rw [h.2]
    exact Function.update_of_ne hne ..
  | store | increment =>
    rw [show w' = _ from h]
    exact Function.update_of_ne hne ..

/-- A write on an open handle is on the entry of that handle. -/
theorem writeCounts_write {q : WriteCall} {res : WriteFileResult}
    (hopen : context ≠ 0 ∧ context ≠ INVALID_HANDLE_VALUE)
    (h : Run (step env Handles.respond) (q.program env context) w tr res w') {h' : HANDLE}
    (hne : h' ≠ context) : w'.writeCounts h' = w.writeCounts h' := by
  have hstep : ∀ (p : WritePhase) (v : World Handles) (c : Call) (r : Answer c) (v' : World Handles),
      WritePhase.Allows context p c → v.writeCounts h' = w.writeCounts h' →
      step env Handles.respond v c r v' → True → v'.writeCounts h' = w.writeCounts h' :=
    fun _ _ _ _ _ hallow hv hm _ => (step_writeCounts_of_ne hallow hm hne).trans hv
  have hkeeps : Follows (WritePhase.Allows context) WritePhase.note (q.program env context) .before
      fun _ => WritePhase.Ended := WritePhase.keeps_write hopen
  obtain ⟨_, -, hcounts⟩ := hkeeps.run (J := fun _ v => v.writeCounts h' = w.writeCounts h')
    (P := fun _ => True) hstep rfl h fun _ _ => trivial
  exact hcounts

/-- Any write keeps to the protocol of the handle it finds or opens. -/
theorem follows_write {q : WriteCall} :
    Follows (fun q c => ∃ handle, WritePhase.Allows handle q c) WritePhase.note (q.program env context)
      .before fun _ => WritePhase.Ended := by
  have hstay : ∀ c : Call, c.aside → (∃ handle, WritePhase.Allows handle .before c) ∧
      ∀ r, WritePhase.note .before ⟨c, r⟩ = .before :=
    fun c hc => ⟨⟨0, .before hc⟩, fun r => WritePhase.note_aside (e := ⟨c, r⟩) hc⟩
  refine follows_onlyCalls_bind WritePhase.reportCalls_aside.onlyCalls_print hstay fun _ => ?_
  refine follows_onlyCalls_bind (WritePhase.reportCalls_aside.onlyCalls_reopen
    (onlyCalls_filePathOf (P := Call.aside) rfl) WritePhase.reportCalls_aside.onlyCalls_print
    fun _ => rfl) hstay fun file => ?_
  cases file with
  | error status => exact rfl
  | ok file =>
    obtain ⟨handle, opened⟩ := file
    have hwiden : ∀ q c, WritePhase.Allows handle q c → ∃ handle, WritePhase.Allows handle q c :=
      fun _ _ hallow => ⟨handle, hallow⟩
    cases hend : q.info.writeToEndOfFile with
    | true => exact Follows.weaken WritePhase.keeps_writeAtEnd hwiden
    | false => exact Follows.weaken WritePhase.keeps_writeAt hwiden

/-- If no write succeeds, none is counted. -/
theorem writeCounts_of_fails {q : WriteCall} {res : WriteFileResult}
    (h : Run (step env Handles.respond) (q.program env context) w tr res w')
    (hfails : ∀ e ∈ tr, ¬ Writes e) : w'.writeCounts = w.writeCounts := by
  have hstep : ∀ (p : WritePhase) (v : World Handles) (c : Call) (r : Answer c) (v' : World Handles),
      (∃ handle, WritePhase.Allows handle p c) → p = .before ∧ v.writeCounts = w.writeCounts →
      step env Handles.respond v c r v' → ¬ Writes ⟨c, r⟩ →
      p.note ⟨c, r⟩ = .before ∧ v'.writeCounts = w.writeCounts := by
    rintro p v c r v' ⟨handle, hallow⟩ ⟨rfl, hv⟩ hm hfails
    cases hallow with
    | before hc =>
      exact ⟨WritePhase.note_aside (e := ⟨c, r⟩) hc,
        (step_writeCounts (WritePhase.onCounts_of_aside hc) hm).trans hv⟩
    | write =>
      cases r with
      | ok n lastError => exact absurd trivial hfails
      | fail error => exact ⟨rfl, (step_writeCounts rfl hm).trans hv⟩
  obtain ⟨_, -, -, hcounts⟩ := follows_write.run
    (J := fun p v => p = .before ∧ v.writeCounts = w.writeCounts) (P := fun e => ¬ Writes e)
    hstep ⟨rfl, rfl⟩ h hfails
  exact hcounts

/-! ## What the others do to the counts -/

theorem sat_uncounted {α : Type} {p : Op α} (hp : OnlyCalls (fun c => c.onCounts = false) p) :
    Sat (step env Handles.respond) p w (fun _ _ w' => w'.writeCounts = w.writeCounts) :=
  (hp.sat World.writeCounts (fun _ _ _ _ hc h => step_writeCounts hc h) w).mono fun _ _ _ h => h.2

theorem housekeeping_uncounted : Housekeeping (fun c => c.onCounts = false) where
  getLastError := rfl
  print _ _ := rfl
  closeHandle _ := rfl
  invalidParameter := rfl

variable {fileName : WString} {info : DokanFileInfo}

/-- A cleanup takes the entry of the handle away. -/
theorem counts_cleanup :
    Sat (step env Handles.respond) (mirrorCleanup env fileName info) w (fun _ _ w' =>
      w'.writeCounts = if info.context = 0 then w.writeCounts
        else Function.update w.writeCounts info.context none) := by
  refine sat_filePathOf_bind fun filePath _ => ?_
  have hclose : Sat (step env Handles.respond) (closeContext filePath info) w (fun _ _ w' =>
      w'.writeCounts = if info.context = 0 then w.writeCounts
        else Function.update w.writeCounts info.context none) := by
    unfold closeContext
    by_cases hcontext : info.context = 0
    · rw [if_neg (not_not.mpr hcontext)]
      have hrest : OnlyCalls (fun c => c.onCounts = false)
          (print "Cleanup: %s\n\tinvalid handle\n\n" [.str filePath] >>= fun _ => pure info) :=
        OnlyCalls.bind (onlyCalls_perform.mpr rfl) fun _ => trivial
      refine (sat_uncounted hrest).mono fun _ _ w₁ hrest => ?_
      rw [if_pos hcontext, hrest]
    · rw [if_pos hcontext]
      refine sat_perform_bind.mpr fun _ w₁ hprint => sat_perform_bind.mpr fun _ w₂ herase => ?_
      have hrest : OnlyCalls (fun c => c.onCounts = false)
          (closeHandle info.context >>= fun _ => pure { info with context := 0 }) :=
        OnlyCalls.bind (OnlyCalls.bind (onlyCalls_perform.mpr rfl) fun _ => trivial) fun _ => trivial
      refine (sat_uncounted hrest).mono fun _ _ w₃ hrest => ?_
      rw [if_neg hcontext, hrest, show w₂ = _ from herase, ← step_writeCounts rfl hprint]
  refine sat_bind.mpr (hclose.mono fun _ closed w₁ hclosed => ?_)
  have hdelete : OnlyCalls (fun c => c.onCounts = false) (deleteOnClose filePath info) :=
    onlyCalls_deleteOnClose rfl (fun _ _ => rfl) rfl rfl
  refine sat_bind.mpr ((sat_uncounted hdelete).mono fun _ _ w₂ hcounts => sat_pure.mpr ?_)
  rw [hcounts, hclosed]

/-- The callbacks that have nothing to do with the counts. -/
theorem counts_callback {l : Callback} (hl : (∀ q info, l ≠ .create q info) ∧
    (∀ buffer n offset info, l ≠ .write buffer n offset info) ∧ ∀ info, l ≠ .cleanup info) :
    Sat (step env Handles.respond) (l.program env fileName context) w
      (fun _ _ w' => w'.writeCounts = w.writeCounts) := by
  cases l with
  | create q info => exact absurd rfl (hl.1 q info)
  | write buffer n offset info => exact absurd rfl (hl.2.1 buffer n offset info)
  | cleanup info => exact absurd rfl (hl.2.2 info)
  | read bufferLength offset info =>
    have hfill : ∀ handle opened readLength, OnlyCalls (fun c => c.onCounts = false)
        (fillCache env handle opened bufferLength readLength) := fun _ _ _ =>
      Housekeeping.onlyCalls_fillCache housekeeping_uncounted.toReportCalls rfl rfl (fun _ => rfl)
        (fun _ _ => rfl) fun _ => rfl
    exact sat_uncounted (OnlyCalls.bind (housekeeping_uncounted.onlyCalls_read (fun _ => rfl)
      (fun _ _ _ => rfl) rfl (fun _ _ => rfl) fun _ => hfill) fun _ => trivial)
  | flush info =>
    exact sat_uncounted (OnlyCalls.bind (housekeeping_uncounted.onlyCalls_flush rfl) fun _ => trivial)
  | getInformation information info =>
    exact sat_uncounted (OnlyCalls.bind (housekeeping_uncounted.onlyCalls_getFileInformation (fun _ => rfl)
      (fun _ => rfl) (fun _ => rfl) (fun _ => rfl) rfl rfl fun _ _ => rfl) fun _ => trivial)
  | close info =>
    exact sat_uncounted (OnlyCalls.bind (onlyCalls_closeFile housekeeping_uncounted.onlyCalls_filePathOf rfl
      (fun _ _ => rfl) rfl rfl) fun _ => trivial)

end

/-! ## Any number of opens -/

/-- Opens of files, with what the driver keeps of each, and what they share. -/
structure Opens (ι : Type) where
  stage : ι → Stage
  context : ι → HANDLE
  handles : Handles
  writeCounts : HANDLE → Option (BitVec 8)

/-- A callback for one of the opens, with the calls it made. -/
structure OpenCall (ι : Type) where
  target : ι
  fileName : WString
  callback : Callback
  trace : Trace

namespace Opens

variable {ι : Type}

/-- The handle an open has in its `Context`. -/
def held (s : Opens ι) (i : ι) : Option HANDLE :=
  if s.stage i = .opened ∧ s.context i ≠ 0 then some (s.context i) else none

/-- The count of a handle; a missing entry is made with zero. -/
def count (s : Opens ι) (h : HANDLE) : BitVec 8 := (s.writeCounts h).getD 0

/-- The other opens stay as they are. -/
def OnlyMoves (i : ι) (s s' : Opens ι) : Prop :=
  ∀ j, j ≠ i → s'.stage j = s.stage j ∧ s'.context j = s.context j

/-- One callback.  The rest of the world may change at will between the callbacks. -/
def Driven (env : Env) (s : Opens ι) (l : OpenCall ι) (s' : Opens ι) : Prop :=
  (s.stage l.target).next l.callback = some (s'.stage l.target) ∧ OnlyMoves l.target s s' ∧
    ∃ w w', (w.os = s.handles ∧ w.writeCounts = s.writeCounts) ∧
      (w'.os = s'.handles ∧ w'.writeCounts = s'.writeCounts) ∧
      Run (step env Handles.respond) (l.callback.program env l.fileName (s.context l.target)) w l.trace
        (s'.context l.target) w'

/-- No file is open yet, and nothing is counted. -/
def Begins (s : Opens ι) : Prop :=
  (∀ i, s.stage i = .fresh ∧ s.context i = 0) ∧ s.writeCounts = fun _ => none

/-- Every key is the handle in the `Context` of an open file. -/
def KeysOpen (s : Opens ι) : Prop :=
  ∀ h, s.writeCounts h ≠ none →
    ∃ i, s.stage i = .opened ∧ s.context i = h ∧ h ≠ 0 ∧ (s.handles.live h).isSome

/-- The handle that a create has left in `Context` has the count zero. -/
def NewCount (l : OpenCall ι) (s' : Opens ι) : Prop :=
  ∀ q info, l.callback = .create q info → s'.context l.target ≠ 0 → s'.count (s'.context l.target) = 0

/-- The call leaves no entry behind: a create that asks to write is not refused, no write succeeds
without a handle in `Context`, and what is closed without a cleanup has no entry. -/
def CountKept (env : Env) (s : Opens ι) (l : OpenCall ι) : Prop :=
  match l.callback with
  | .create q _ => passedAccess q.desiredAccess &&& FILE_WRITE_DATA ≠ 0 →
      ∀ e ∈ l.trace, ¬ CreateRefused (userFlags env q).creationDisposition e
  | .write .. => s.context l.target = 0 → ∀ e ∈ l.trace, ¬ Writes e
  | .close _ => s.context l.target ≠ 0 → s.writeCounts (s.context l.target) = none
  | _ => True

/-- The invariant: `Context` is as the stage has it, and the table is covered by what is held. -/
structure Exact (s : Opens ι) : Prop where
  fits : ∀ i, (s.stage i).Fits s.handles (s.context i)
  covered : Covered s.held s.writeCounts

variable {s s' : Opens ι} {i : ι} {h : HANDLE}

theorem held_eq_some : s.held i = some h ↔ s.stage i = .opened ∧ s.context i ≠ 0 ∧ s.context i = h := by
  unfold held
  split
  · next hheld =>
    rw [Option.some_inj]
    exact ⟨fun he => ⟨hheld.1, hheld.2, he⟩, fun he => he.2.2⟩
  · next hheld =>
    constructor
    · intro he
      cases he
    · intro he
      exact absurd ⟨he.1, he.2.1⟩ hheld

theorem held_eq_none (hnone : s.stage i = .opened → s.context i = 0) : s.held i = none :=
  if_neg fun hheld => hheld.2 (hnone hheld.1)

theorem Exact.live (hs : s.Exact) (hheld : s.held i = some h) : (s.handles.live h).isSome := by
  obtain ⟨hstage, hne, rfl⟩ := held_eq_some.mp hheld
  have hfits := hs.fits i
  rw [hstage] at hfits
  exact (hfits.resolve_left hne).2

theorem Exact.keysOpen (hs : s.Exact) : s.KeysOpen := by
  intro h hkey
  obtain ⟨i, hheld⟩ := hs.covered.held h (Option.isSome_iff_ne_none.mpr hkey)
  obtain ⟨hstage, hne, rfl⟩ := held_eq_some.mp hheld
  exact ⟨i, hstage, rfl, hne, hs.live hheld⟩

theorem Begins.exact (hs : s.Begins) : s.Exact := by
  obtain ⟨hfresh, hcounts⟩ := hs
  have hheld : ∀ i, s.held i = none := fun i => held_eq_none fun _ => (hfresh i).2
  refine ⟨fun i => ?_, ?_⟩
  · rw [(hfresh i).1]
    exact (hfresh i).2
  · rw [hcounts]
    refine covered_empty _ fun i _ k hi _ => ?_
    rw [hheld i] at hi
    cases hi

/-! ### One callback -/

theorem next_create {stage stage' : Stage} {q : CreateRequest} {info : DokanFileInfo}
    (h : stage.next (.create q info) = some stage') : stage = .fresh ∧ stage' = .opened := by
  cases stage with
  | fresh => exact ⟨rfl, (Option.some_inj.mp h).symm⟩
  | _ => cases h

theorem next_passing {stage stage' : Stage} {c : Callback} (hc : c.Passing) (h : stage.next c = some stage') :
    stage' = stage ∧ (stage = .opened ∨ stage = .cleaned) := by
  cases stage with
  | opened =>
    cases c with
    | create | cleanup | close => exact hc.elim
    | _ => exact ⟨(Option.some_inj.mp h).symm, .inl rfl⟩
  | cleaned =>
    cases c with
    | create | cleanup | close => exact hc.elim
    | _ => exact ⟨(Option.some_inj.mp h).symm, .inr rfl⟩
  | fresh | closed =>
    cases c with
    | create | cleanup | close => exact hc.elim
    | _ => cases h

theorem next_cleanup {stage stage' : Stage} {info : DokanFileInfo}
    (h : stage.next (.cleanup info) = some stage') : stage = .opened ∧ stage' = .cleaned := by
  cases stage with
  | opened => exact ⟨rfl, (Option.some_inj.mp h).symm⟩
  | _ => cases h

theorem next_close {stage stage' : Stage} {info : DokanFileInfo} (h : stage.next (.close info) = some stage') :
    (stage = .opened ∨ stage = .cleaned) ∧ stage' = .closed := by
  cases stage with
  | opened => exact ⟨.inl rfl, (Option.some_inj.mp h).symm⟩
  | cleaned => exact ⟨.inr rfl, (Option.some_inj.mp h).symm⟩
  | _ => cases h

/-- Handles that stay open keep an open as it is. -/
theorem fits_of_live {T U : Handles} {stage : Stage} {context : HANDLE} (h : stage.Fits T context)
    (hlive : stage = .opened → context ≠ 0 → (T.live context).isSome → (U.live context).isSome) :
    stage.Fits U context := by
  cases stage with
  | opened => exact h.imp_right fun hheld => ⟨hheld.1, hlive rfl hheld.1.1 hheld.2⟩
  | _ => exact h

variable [DecidableEq ι] {env : Env} {l : OpenCall ι}

/-- What has to be seen to of the open that moves, and of the table. -/
theorem Exact.move (hs : s.Exact) (hothers : OnlyMoves i s s')
    (hfits : (s'.stage i).Fits s'.handles (s'.context i))
    (hlive : ∀ j h, j ≠ i → s.held j = some h → (s'.handles.live h).isSome)
    (hcovered : Covered (Function.update s.held i (s'.held i)) s'.writeCounts) : s'.Exact := by
  constructor
  · intro j
    by_cases hji : j = i
    · rw [hji]
      exact hfits
    · obtain ⟨hstage, hcontext⟩ := hothers j hji
      rw [hstage, hcontext]
      refine fits_of_live (hs.fits j) fun hopened hne _ => ?_
      exact hlive j _ hji (held_eq_some.mpr ⟨hopened, hne, rfl⟩)
  · have hmoved : s'.held = Function.update s.held i (s'.held i) := by
      funext j
      by_cases hji : j = i
      · rw [hji, Function.update_self]
      · rw [Function.update_of_ne hji, held, held, (hothers j hji).1, (hothers j hji).2]
    rw [hmoved]
    exact hcovered

/-- A callback that leaves the open as it is may count on the handle it has. -/
theorem Exact.pass (hs : s.Exact) (hothers : OnlyMoves i s s') (hstage : s'.stage i = s.stage i)
    (hcontext : s'.context i = s.context i)
    (hlive : s'.handles.live = s.handles.live)
    (hcounts : ∀ h, (s'.writeCounts h).isSome → (s.writeCounts h).isSome ∨ ∃ j, s.held j = some h) :
    s'.Exact := by
  refine hs.move hothers ?_ ?_ ?_
  · rw [hstage, hcontext]
    refine fits_of_live (hs.fits i) ?_
    intro _ _ hopen
    rwa [hlive]
  · intro j h _ hheld
    rw [hlive]
    exact hs.live hheld
  · have hsame : s'.held i = s.held i := by rw [held, held, hstage, hcontext]
    rw [hsame, Function.update_eq_self]
    exact hs.covered.keep hcounts

/-- The end of an open closes its handle, and leaves no entry for it. -/
theorem Exact.finish (hs : s.Exact) (hothers : OnlyMoves i s s') (hstage : s'.stage i ≠ .opened)
    (hfits : (s'.stage i).Fits s'.handles (s'.context i))
    (hopened : s.context i ≠ 0 → s.stage i = .opened)
    (hhandles : s'.handles = if s.context i = 0 then s.handles else s.handles.close (s.context i))
    (hcounts : ∀ h, (s'.writeCounts h).isSome → (s.writeCounts h).isSome ∧ s.held i ≠ some h) :
    s'.Exact := by
  refine hs.move hothers hfits ?_ ?_
  · intro j h hji hheld
    have hlive := hs.live hheld
    rw [hhandles]
    by_cases hzero : s.context i = 0
    · rwa [if_pos hzero]
    · have hself : s.held i = some (s.context i) := held_eq_some.mpr ⟨hopened hzero, hzero, rfl⟩
      have hne : h ≠ s.context i := by
        rintro rfl
        exact hji (hs.covered.alone j i _ hheld hself)
      obtain ⟨n, hn⟩ := Option.isSome_iff_exists.mp (hs.live hself)
      rw [if_neg hzero, Handles.close_of_live hn]
      show (Function.update s.handles.live (s.context i) none h).isSome
      rwa [Function.update_of_ne hne]
  · rw [held_eq_none fun h => absurd h hstage]
    exact hs.covered.drop hcounts

/-- What a create leaves. -/
theorem Exact.create {q : CreateRequest} {info : DokanFileInfo} (hs : s.Exact) (hd : Driven env s l s')
    (hl : l.callback = .create q info)
    (hgranted : passedAccess q.desiredAccess &&& FILE_WRITE_DATA ≠ 0 →
      ∀ e ∈ l.trace, ¬ CreateRefused (userFlags env q).creationDisposition e) :
    s'.Exact ∧ (s'.context l.target ≠ 0 → s'.count (s'.context l.target) = 0) := by
  obtain ⟨hnext, hothers, w, w', ⟨hw, hcounts⟩, ⟨hw', hcounts'⟩, hrun⟩ := hd
  rw [hl] at hnext hrun
  obtain ⟨hfresh, hopened⟩ := next_create hnext
  have hzero : s.context l.target = 0 := by
    have hfits := hs.fits l.target
    rwa [hfresh] at hfits
  obtain ⟨res, hcreate, hcontext⟩ := hrun.of_bind_pure
  have hcounted := (counted_create hcreate fun e he hwrites => hgranted hwrites e he).inv
  obtain ⟨file, hprogress, hfile⟩ := sat_create _ _ _ hcreate
  rw [← hcontext, hw, hcounts, hcounts'] at hcounted
  rw [← hcontext] at hfile
  rw [hw, hw'] at hprogress
  have hnone : s.held l.target = none := held_eq_none fun _ => hzero
  have hlive : ∀ j h, j ≠ l.target → s.held j = some h → (s'.handles.live h).isSome := by
    intro j h _ hheld
    obtain ⟨n, hn⟩ := Option.isSome_iff_exists.mp (hs.live hheld)
    exact Option.isSome_iff_exists.mpr ⟨n, hprogress.kept h n hn⟩
  obtain ⟨hsame, htable⟩ | ⟨⟨hne, hfree⟩, htable⟩ := hcounted
  · have hzero' : s'.context l.target = 0 := hsame.trans hzero
    refine ⟨hs.move hothers ?_ hlive ?_, fun hne => absurd hzero' hne⟩
    · rw [hopened]
      exact .inl hzero'
    · rw [held_eq_none fun _ => hzero', htable]
      refine hs.covered.drop fun k hk => ⟨hk, ?_⟩
      rw [hnone]
      exact (Option.some_ne_none k).symm
  · have hkey : ∀ j, s.held j ≠ some (s'.context l.target) := by
      intro j hheld
      have hopen := hs.live hheld
      rw [hfree] at hopen
      cases hopen
    have habsent := hs.covered.absent hkey
    refine ⟨hs.move hothers ?_ hlive ?_, fun _ => ?_⟩
    · rw [hopened]
      cases file with
      | none => exact .inl (hfile.trans hzero)
      | some h =>
        obtain ⟨hvalid, n, hn, -⟩ := hprogress.holds h rfl
        rw [show s'.context l.target = h from hfile]
        exact .inr ⟨hvalid, Option.isSome_iff_exists.mpr ⟨n, hn⟩⟩
    · rw [held_eq_some.mpr ⟨hopened, hne, rfl⟩]
      refine hs.covered.take hnone hkey ?_
      intro k hk hsome
      obtain htable | htable := htable
      · rwa [htable] at hsome
      · rwa [htable, Function.update_of_ne hk] at hsome
    · rw [count]
      obtain htable | htable := htable
      · rw [htable, habsent]
        rfl
      · rw [htable, Function.update_self, habsent]
        rfl

/-- What reads, flushes and questions for information leave. -/
theorem Exact.passing (hs : s.Exact) (hd : Driven env s l s') (hpass : l.callback.Passing)
    (hl : ∀ buffer n offset info, l.callback ≠ .write buffer n offset info) : s'.Exact := by
  obtain ⟨hnext, hothers, w, w', ⟨hw, hcounts⟩, ⟨hw', hcounts'⟩, hrun⟩ := hd
  have husable : Usable w.os (s.context l.target) := by
    rw [hw]
    exact (hs.fits l.target).usable
  obtain ⟨hcontext, hsettled⟩ := sat_passing hpass husable _ _ _ hrun
  rw [hw, hw'] at hsettled
  have hsame : w'.writeCounts = w.writeCounts := by
    refine counts_callback ⟨?_, hl, ?_⟩ _ _ _ hrun
    · rintro q info he
      rw [he] at hpass
      exact hpass
    · rintro info he
      rw [he] at hpass
      exact hpass
  rw [hcounts, hcounts'] at hsame
  refine hs.pass hothers (next_passing hpass hnext).1 hcontext hsettled.live fun h hsome => .inl ?_
  rwa [hsame] at hsome

/-- What a write leaves. -/
theorem Exact.write {buffer : List Byte} {n : DWORD} {offset : BitVec 64} {info : DokanFileInfo}
    (hs : s.Exact) (hd : Driven env s l s') (hl : l.callback = .write buffer n offset info)
    (hfails : s.context l.target = 0 → ∀ e ∈ l.trace, ¬ Writes e) : s'.Exact := by
  obtain ⟨hnext, hothers, w, w', ⟨hw, hcounts⟩, ⟨hw', hcounts'⟩, hrun⟩ := hd
  rw [hl] at hnext hrun
  have husable : Usable w.os (s.context l.target) := by
    rw [hw]
    exact (hs.fits l.target).usable
  have hpass : (Callback.write buffer n offset info).Passing := trivial
  obtain ⟨hstage, hlate⟩ := next_passing hpass hnext
  obtain ⟨hcontext, hsettled⟩ := sat_passing hpass husable _ _ _ hrun
  rw [hw, hw'] at hsettled
  obtain ⟨res, hwrite, -⟩ := hrun.of_bind_pure
  have hprogram : Run (step env Handles.respond) (WriteCall.program env (s.context l.target)
    { fileName := l.fileName, buffer := buffer, numberOfBytesToWrite := n, offset := offset, info := info })
    w l.trace res w' := hwrite
  refine hs.pass hothers hstage hcontext hsettled.live fun h hsome => ?_
  rw [← hcounts'] at hsome
  rw [← hcounts]
  by_cases hzero : s.context l.target = 0
  · rw [writeCounts_of_fails hprogram (hfails hzero)] at hsome
    exact .inl hsome
  · -- a file that is cleaned up has no handle
    have hfits := hs.fits l.target
    obtain hopened | hcleaned := hlate
    · rw [hopened] at hfits
      have hself : s.held l.target = some (s.context l.target) := held_eq_some.mpr ⟨hopened, hzero, rfl⟩
      by_cases hne : h = s.context l.target
      · exact .inr ⟨l.target, by rw [hne, hself]⟩
      · rw [writeCounts_write (hfits.resolve_left hzero).1 hprogram hne] at hsome
        exact .inl hsome
    · rw [hcleaned] at hfits
      exact absurd hfits hzero

/-- What a cleanup leaves. -/
theorem Exact.cleanup {info : DokanFileInfo} (hs : s.Exact) (hd : Driven env s l s')
    (hl : l.callback = .cleanup info) : s'.Exact := by
  obtain ⟨hnext, hothers, w, w', ⟨hw, hcounts⟩, ⟨hw', hcounts'⟩, hrun⟩ := hd
  rw [hl] at hnext hrun
  obtain ⟨hopened, hcleaned⟩ := next_cleanup hnext
  obtain ⟨res, hcleanup, hcontext⟩ := hrun.of_bind_pure
  obtain ⟨hzero, hhandles⟩ := sat_cleanup _ _ _ hcleanup
  have htable := counts_cleanup _ _ _ hcleanup
  dsimp only at hhandles htable
  rw [hw, hw'] at hhandles
  rw [hcounts, hcounts'] at htable
  refine hs.finish hothers ?_ ?_ (fun _ => hopened) hhandles ?_
  · rw [hcleaned]
    exact Stage.noConfusion
  · rw [hcleaned]
    exact hcontext.trans hzero
  · intro h hsome
    rw [htable] at hsome
    by_cases hcontext : s.context l.target = 0
    · rw [if_pos hcontext] at hsome
      rw [held_eq_none fun _ => hcontext]
      exact ⟨hsome, (Option.some_ne_none h).symm⟩
    · rw [if_neg hcontext] at hsome
      have hne : h ≠ s.context l.target := by
        rintro rfl
        rw [Function.update_self] at hsome
        cases hsome
      rw [Function.update_of_ne hne] at hsome
      refine ⟨hsome, fun hheld => ?_⟩
      exact hne (held_eq_some.mp hheld).2.2.symm

/-- What a close leaves. -/
theorem Exact.close {info : DokanFileInfo} (hs : s.Exact) (hd : Driven env s l s')
    (hl : l.callback = .close info)
    (hcleaned : s.context l.target ≠ 0 → s.writeCounts (s.context l.target) = none) : s'.Exact := by
  obtain ⟨hnext, hothers, w, w', ⟨hw, hcounts⟩, ⟨hw', hcounts'⟩, hrun⟩ := hd
  have hsame := counts_callback (l := l.callback) (by rw [hl]; exact ⟨nofun, nofun, nofun⟩) _ _ _ hrun
  rw [hcounts, hcounts'] at hsame
  rw [hl] at hnext hrun
  obtain ⟨hlate, hclosed⟩ := next_close hnext
  have hfits := hs.fits l.target
  have husable : Usable w.os (s.context l.target) := by
    rw [hw]
    exact hfits.usable
  obtain ⟨res, hclose, hcontext⟩ := hrun.of_bind_pure
  obtain ⟨hgone, hhandles⟩ := sat_closeFile husable _ _ _ hclose
  dsimp only at hhandles
  rw [hw, hw'] at hhandles
  -- before the close, `Context` never is `INVALID_HANDLE_VALUE`
  have hvalid : s.context l.target ≠ 0 →
      s.stage l.target = .opened ∧ s.context l.target ≠ INVALID_HANDLE_VALUE := by
    intro hne
    obtain hopened | hcleaned := hlate
    · rw [hopened] at hfits
      exact ⟨hopened, (hfits.resolve_left hne).1.2⟩
    · rw [hcleaned] at hfits
      exact absurd hfits hne
  refine hs.finish hothers ?_ ?_ (fun hne => (hvalid hne).1) ?_ ?_
  · rw [hclosed]
    exact Stage.noConfusion
  · rw [hclosed, hcontext]
    exact hgone
  · rw [hhandles]
    by_cases hzero : s.context l.target = 0
    · rw [if_pos (.inl hzero), if_pos hzero]
    · rw [if_neg (not_or.mpr ⟨hzero, (hvalid hzero).2⟩), if_neg hzero]
  · intro h hsome
    rw [hsame] at hsome
    refine ⟨hsome, fun hheld => ?_⟩
    obtain ⟨-, hne, rfl⟩ := held_eq_some.mp hheld
    rw [hcleaned hne] at hsome
    cases hsome

/-- **One callback** that leaves no entry behind. -/
theorem Exact.step (hs : s.Exact) (hd : Driven env s l s') (hkept : CountKept env s l) :
    (s'.KeysOpen ∧ NewCount l s') ∧ s'.Exact := by
  have hrest : s'.Exact → (∀ q info, l.callback ≠ .create q info) →
      (s'.KeysOpen ∧ NewCount l s') ∧ s'.Exact := fun hs' hl =>
    ⟨⟨hs'.keysOpen, fun q info he => absurd he (hl q info)⟩, hs'⟩
  unfold CountKept at hkept
  cases hl : l.callback with
  | create q info =>
    rw [hl] at hkept
    obtain ⟨hs', hcount⟩ := hs.create hd hl hkept
    exact ⟨⟨hs'.keysOpen, fun _ _ _ => hcount⟩, hs'⟩
  | write buffer n offset info =>
    rw [hl] at hkept
    exact hrest (hs.write hd hl hkept) (by rw [hl]; nofun)
  | cleanup info => exact hrest (hs.cleanup hd hl) (by rw [hl]; nofun)
  | close info =>
    rw [hl] at hkept
    exact hrest (hs.close hd hl hkept) (by rw [hl]; nofun)
  | _ => exact hrest (hs.passing hd (by rw [hl]; trivial) (by rw [hl]; nofun)) (by rw [hl]; nofun)

/-- **The table of the counts.**  However many files are opened, written, cleaned up and closed, one
call at a time and with handles whose values come back: as long as no call leaves an entry behind,
every key is the handle of an open file, and a file just opened has the count zero. -/
theorem keysOpen_of_countKept (env : Env) (s : Opens ι) (run : List (OpenCall ι × Opens ι))
    (hs : s.Begins) (hrun : Path (Driven env) s run)
    (hkept : Along (fun s l _ => CountKept env s l) s run) :
    Along (fun _ l s' => s'.KeysOpen ∧ NewCount l s') s run :=
  hrun.along (fun _ _ _ hs hd hkept => hs.step hd hkept) hs.exact hkept

/-! ### One open -/

/-- One open, and nothing else. -/
def one : Opens Unit where
  stage _ := .fresh
  context _ := 0
  handles := .none
  writeCounts _ := none

/-- After the create. -/
def oneOpened (res : CreateResult) (w' : World Handles) : Opens Unit where
  stage _ := .opened
  context _ := res.info.context
  handles := w'.os
  writeCounts := w'.writeCounts

theorem driven_one {w' : World Handles} {tr : Trace} {res : CreateResult}
    (h : Run (step (.plain false) Handles.respond) (mirrorCreateFile (.plain false) writing {}) untouched
      tr res w') :
    Driven (.plain false) one ⟨(), wide ['\\', 'a'], .create writing {}, tr⟩ (oneOpened res w') := by
  refine ⟨rfl, fun j hj => absurd rfl hj, untouched, w', ⟨rfl, rfl⟩, ⟨rfl, rfl⟩, ?_⟩
  have hrun := h.bind (f := fun res => pure res.info.context) .done
  rwa [List.append_nil] at hrun

/-- The platform makes and opens what it is asked for. -/
def granted (e : Event Call Answer) : Bool :=
  match e.call, e.answer with
  | .win32 (.createFile ..), .fail _ => false
  | .win32 (.createDirectory ..), _ => false
  | _, _ => true

theorem not_createRefused_of_granted {disposition : DWORD} {e : Event Call Answer} (h : granted e = true) :
    ¬ CreateRefused disposition e := by
  obtain ⟨c, r⟩ := e
  cases c with
  | win32 x =>
    cases x with
    | createFile path access share sd d flags =>
      cases r with
      | ok handle lastError => exact id
      | fail error => cases h
    | createDirectory path sd => cases h
    | _ => exact id
  | _ => exact id

/-- The file is opened to be written, and closed again. -/
theorem keysOpen_one :
    ∃ run : List (OpenCall Unit × Opens Unit), (final one run).stage () = .cleaned ∧
      Along (fun _ l s' => s'.KeysOpen ∧ NewCount l s') one run := by
  obtain ⟨tr, res, w', hcreate, hgranted⟩ := exists_played (.plain false) rfl true
    (mirrorCreateFile (.plain false) writing {}) (fun tr _ _ => tr.all granted) (by decide)
  have hfits : (getFilePath (Env.plain false).globals DOKAN_MAX_PATH (wide ['\\', 'a'])).isSome := by decide
  have hreturns : Returns (.plain false)
      (mirrorCleanup (.plain false) (wide ['\\', 'a']) { context := res.info.context }) := by
    refine returns_bind (returns_filePathOf hfits) fun path => ?_
    refine returns_bind (returns_silent rfl silent_closeContext) fun _ => ?_
    exact returns_bind (onlyCalls_deleteOnClose trivial (fun _ _ => trivial) trivial trivial) fun _ => trivial
  obtain ⟨tr', info, w'', hcleanup⟩ := hreturns.exists_run (respond_total (.plain false)) w'
  refine ⟨[(⟨(), wide ['\\', 'a'], .create writing {}, tr⟩, oneOpened res w'),
    (⟨(), wide ['\\', 'a'], .cleanup {}, tr'⟩,
      ⟨fun _ => .cleaned, fun _ => info.context, w''.os, w''.writeCounts⟩)], rfl, ?_⟩
  refine keysOpen_of_countKept (.plain false) one _ ⟨fun _ => ⟨rfl, rfl⟩, rfl⟩ ?_ ⟨?_, trivial, trivial⟩
  · refine .cons (driven_one hcreate) (.cons ?_ .nil)
    refine ⟨rfl, fun j hj => absurd rfl hj, w', w'', ⟨rfl, rfl⟩, ⟨rfl, rfl⟩, ?_⟩
    have hrun := hcleanup.bind (f := fun info => pure info.context) .done
    rwa [List.append_nil] at hrun
  · exact fun _ e he => not_createRefused_of_granted (List.all_eq_true.mp hgranted e he)

/-- The file cannot be opened, and there is an entry for `INVALID_HANDLE_VALUE`. -/
theorem not_keysOpen :
    ¬ ∀ (ι : Type) (env : Env) (s : Opens ι) (run : List (OpenCall ι × Opens ι)), s.Begins →
      Path (Driven env) s run → Along (fun _ l s' => s'.KeysOpen ∧ NewCount l s') s run := by
  intro hclaim
  obtain ⟨tr, res, w', hrun, hlost⟩ := exists_played (.plain false) rfl false
    (mirrorCreateFile (.plain false) writing {}) (fun _ res w' => decide (res.info.context = 0) && (w'.writeCounts INVALID_HANDLE_VALUE).isSome)
    (by decide)
  obtain ⟨hzero, hentry⟩ := Bool.and_eq_true_iff.mp hlost
  obtain ⟨⟨hkeys, -⟩, -⟩ := hclaim Unit (.plain false) one _ ⟨fun _ => ⟨rfl, rfl⟩, rfl⟩
    (.cons (driven_one hrun) .nil)
  obtain ⟨_, -, hcontext, -⟩ := hkeys INVALID_HANDLE_VALUE (Option.isSome_iff_ne_none.mp hentry)
  have hinvalid : INVALID_HANDLE_VALUE = 0 := hcontext.symm.trans (of_decide_eq_true hzero)
  exact absurd hinvalid (by decide)

end Opens

end SeamlessSmb
