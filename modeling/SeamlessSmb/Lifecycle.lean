/-
# `Lifecycle` — mounting, unmounting and saving over time

A `FileMount` remembers whether it is mounted and the handle of its file system.  The file
system may stop without it, and `mounted` is then true until somebody asks: `unmount` and
`isRunning` put it back, each under its own condition, and `mount` does not ask.

| source | here |
| :-- | :-- |
| `DokanCreateFileSystem`, `DokanIsFileSystemRunning`, `DokanCloseHandle` | `Driver` |
| `FileMount::mount`, `unmount`, `isRunning`, `saveSecurity` | `Lifecycle.mount`, … |
| a callback that changes `m_context->nodes` | `Action.change` |
| the file system stops, or is unmounted from outside | `Action.stop` |

`unmount` and `isRunning` hold the mutex from their first line to their last, so each call is
one step; that the file system stops inside a call comes to the same as right after it.
Handles are numbered in the order they are obtained.

**Proved here:** no handle is closed twice or used after it was closed (`Inv.act`).
`mount` returns success with nothing running exactly if it is called when the file system
has stopped and nobody has asked since (`mount_along_iff`).  The mount ends with unsaved
nodes exactly if it is `isRunning` that ends it and the file is behind
(`ends_saved_along_iff`).
-/
import SeamlessSmb.DatFile
import SeamlessSmb.Lib.History

namespace SeamlessSmb

/-! ## The driver -/

abbrev DokanHandle := Nat

/-- The file systems of one object.  `misused` says that a call was given a handle closed
before. -/
structure Driver where
  next : DokanHandle := 0
  running : DokanHandle → Bool := fun _ => false
  closed : DokanHandle → Bool := fun _ => false
  misused : Bool := false

namespace Driver

/-- A call that is given the handle. -/
def use (d : Driver) (h : DokanHandle) : Driver := { d with misused := d.misused || d.closed h }

/-- `DokanCreateFileSystem`: what it leaves in `handle`.  A call that fails leaves what it
likes. -/
def createFileSystem (d : Driver) (status : Int) (leftover : Option DokanHandle) :
    Option DokanHandle × Driver :=
  if status = DOKAN_SUCCESS then
    (some d.next, { d with next := d.next + 1, running := Function.update d.running d.next true })
  else (leftover, d)

/-- `DokanIsFileSystemRunning`. -/
def isFileSystemRunning (d : Driver) (h : DokanHandle) : Bool × Driver := (d.running h, d.use h)

/-- `DokanCloseHandle`: the file system is unmounted first. -/
def closeHandle (d : Driver) (h : DokanHandle) : Driver :=
  { d.use h with
    running := Function.update d.running h false
    closed := Function.update d.closed h true }

@[simp] theorem use_next (d : Driver) (h : DokanHandle) : (d.use h).next = d.next := rfl
@[simp] theorem use_running (d : Driver) (h : DokanHandle) : (d.use h).running = d.running := rfl
@[simp] theorem use_closed (d : Driver) (h : DokanHandle) : (d.use h).closed = d.closed := rfl

theorem use_misused {d : Driver} {h : DokanHandle} (hc : d.closed h = false) :
    (d.use h).misused = d.misused := by
  show (d.misused || d.closed h) = d.misused
  rw [hc, Bool.or_false]

/-- The file system stops without a call. -/
def stop (d : Driver) (h : DokanHandle) : Driver :=
  { d with running := Function.update d.running h false }

end Driver

/-! ## The object over time -/

/-- A `FileMount` with the nodes of its context, the driver and the disk. -/
structure Lifecycle (ι : Type) where
  fileMount : FileMount
  handle : Option DokanHandle := none
  nodes : Nodes
  driver : Driver := {}
  disk : Disk ι

namespace Lifecycle

variable {ι : Type}

/-- `FileMount::mount`.  `status` is what `DokanCreateFileSystem` returns, if it is called. -/
def mount (s : Lifecycle ι) (status : Int) (leftover : Option DokanHandle) : Int × Lifecycle ι :=
  match s.fileMount.mount fun _ => status with
  | (none, result, m) => (result, { s with fileMount := m })
  | (some _, result, m) =>
      let (handle, driver) := s.driver.createFileSystem status leftover
      (result, { s with fileMount := m, handle := handle, driver := driver })

/-- `FileMount::isRunning`. -/
def isRunning (s : Lifecycle ι) : Bool × Lifecycle ι :=
  match s.fileMount.mounted, s.handle with
  | true, some h =>
      let (running, driver) := s.driver.isFileSystemRunning h
      if !running then
        (running,
          { s with
            fileMount := { s.fileMount with mounted := false }
            handle := none
            driver := driver.closeHandle h })
      else (running, { s with driver := driver })
  | _, _ => (false, s)

/-- `mounted` is true and the file system behind the handle has stopped. -/
def Stale (s : Lifecycle ι) : Prop :=
  s.fileMount.mounted = true ∧ ∃ h, s.handle = some h ∧ s.driver.running h = false

/-- After the constructor. -/
def start (context : BitVec 64) (globals : Globals) (dokanOptions : DokanOptions) (nodes : Nodes)
    (disk : Disk ι) : Lifecycle ι :=
  { fileMount := FileMount.fill context globals dokanOptions, nodes := nodes, disk := disk }

variable {s : Lifecycle ι}

theorem mount_of_mounted (hm : s.fileMount.mounted = true) {status : Int}
    {leftover : Option DokanHandle} : s.mount status leftover = (DOKAN_SUCCESS, s) := by
  unfold mount FileMount.mount
  rw [if_pos hm]

/-- A call that reaches the driver and succeeds. -/
theorem mount_of_success (hm : s.fileMount.mounted = false) {leftover : Option DokanHandle} :
    s.mount DOKAN_SUCCESS leftover =
      (DOKAN_SUCCESS,
        { s with
          fileMount := { s.fileMount with mounted := true }
          handle := some s.driver.next
          driver :=
            { s.driver with
              next := s.driver.next + 1
              running := Function.update s.driver.running s.driver.next true } }) := by
  unfold mount FileMount.mount Driver.createFileSystem
  rw [hm]
  rfl

/-- One that fails. -/
theorem mount_of_failure (hm : s.fileMount.mounted = false) {status : Int}
    (hstatus : status ≠ DOKAN_SUCCESS) {leftover : Option DokanHandle} :
    s.mount status leftover = (status, { s with handle := leftover }) := by
  unfold mount FileMount.mount Driver.createFileSystem
  rw [hm]
  simp [hstatus]

/-- `isRunning` asks the driver if there is a mount to ask about. -/
theorem isRunning_of_mounted (hm : s.fileMount.mounted = true) {h : DokanHandle}
    (hh : s.handle = some h) :
    s.isRunning =
      if s.driver.running h then (true, { s with driver := s.driver.use h })
      else
        (false,
          { s with
            fileMount := { s.fileMount with mounted := false }
            handle := none
            driver := (s.driver.use h).closeHandle h }) := by
  unfold isRunning
  rw [hm, hh]
  dsimp only [Driver.isFileSystemRunning]
  cases s.driver.running h with
  | true => rfl
  | false => rfl

theorem isRunning_of_not_mounted (hm : s.fileMount.mounted = false) : s.isRunning = (false, s) := by
  unfold isRunning
  rw [hm]

variable {ar : Archive} {p : Program ι}

/-- `FileMount::saveSecurity`. -/
def saveSecurity [DecidableEq ι] (ar : Archive) (p : Program ι) (s : Lifecycle ι) : Lifecycle ι :=
  { s with disk := SeamlessSmb.saveSecurity ar p s.disk s.fileMount.globals.rootDirectory s.nodes .done }

/-- `FileMount::unmount`. -/
def unmount [DecidableEq ι] (ar : Archive) (p : Program ι) (s : Lifecycle ι) : Lifecycle ι :=
  match s.fileMount.mounted, s.handle with
  | true, some h =>
      let (running, driver) := s.driver.isFileSystemRunning h
      if running then
        saveSecurity ar p
          { s with
            fileMount := { s.fileMount with mounted := false }
            handle := none
            driver := driver.closeHandle h }
      else { s with driver := driver }
  | _, _ => s

theorem unmount_of_mounted [DecidableEq ι] (hm : s.fileMount.mounted = true) {h : DokanHandle}
    (hh : s.handle = some h) :
    s.unmount ar p =
      if s.driver.running h then
        saveSecurity ar p
          { s with
            fileMount := { s.fileMount with mounted := false }
            handle := none
            driver := (s.driver.use h).closeHandle h }
      else { s with driver := s.driver.use h } := by
  unfold unmount
  rw [hm, hh]
  rfl

theorem unmount_of_not_mounted [DecidableEq ι] (hm : s.fileMount.mounted = false) : s.unmount ar p = s := by
  unfold unmount
  rw [hm]

/-- What happens to the object. -/
inductive Action
  | mount (status : Int) (leftover : Option DokanHandle)
  | unmount
  | isRunning
  | saveSecurity
  | change (nodes : Nodes)
  | stop (h : DokanHandle)

/-- One action; every write to the file succeeds. -/
def act [DecidableEq ι] (ar : Archive) (p : Program ι) (s : Lifecycle ι) : Action → Lifecycle ι
  | .mount status leftover => (s.mount status leftover).2
  | .unmount => s.unmount ar p
  | .isRunning => s.isRunning.2
  | .saveSecurity => s.saveSecurity ar p
  | .change nodes => { s with nodes := nodes }
  | .stop h => { s with driver := s.driver.stop h }

/-! ## Handles -/

/-- The handle of a mount is open, and nothing runs behind another one. -/
structure Inv (s : Lifecycle ι) : Prop where
  handle : s.fileMount.mounted = true →
    ∃ h, s.handle = some h ∧ h < s.driver.next ∧ s.driver.closed h = false
  running : ∀ h, s.driver.running h = true → s.fileMount.mounted = true ∧ s.handle = some h
  fresh : ∀ h, s.driver.next ≤ h → s.driver.closed h = false
  used : s.driver.misused = false

theorem start_inv {context : BitVec 64} {globals : Globals} {dokanOptions : DokanOptions}
    {nodes : Nodes} {disk : Disk ι} : (start context globals dokanOptions nodes disk).Inv := by
  constructor
  · intro hm
    cases hm
  · intro h hr
    cases hr
  · intro h _
    rfl
  · rfl

/-- A handle that is open is closed, and with it the mount ends. -/
theorem Inv.close (hi : s.Inv) {h : DokanHandle} (hm : s.fileMount.mounted = true)
    (hh : s.handle = some h) (disk : Disk ι) :
    Inv { s with
      fileMount := { s.fileMount with mounted := false }
      handle := none
      driver := (s.driver.use h).closeHandle h
      disk := disk } := by
  obtain ⟨h', hh', hlt, hopen⟩ := hi.handle hm
  cases hh.symm.trans hh'
  constructor
  · intro hm
    cases hm
  · intro k hk
    by_cases hkh : k = h
    · rw [hkh] at hk
      exact absurd hk (by simp [Driver.closeHandle])
    · have hrun : s.driver.running k = true := by
        simpa [Driver.closeHandle, Function.update_of_ne hkh] using hk
      exact absurd (Option.some.inj ((hi.running k hrun).2.symm.trans hh)) hkh
  · intro k hk
    have hkh : k ≠ h := Nat.ne_of_gt (Nat.lt_of_lt_of_le hlt hk)
    show Function.update s.driver.closed h true k = false
    rw [Function.update_of_ne hkh]
    exact hi.fresh k hk
  · show ((s.driver.use h).use h).misused = false
    rw [Driver.use_misused (show (s.driver.use h).closed h = false from hopen), Driver.use_misused hopen]
    exact hi.used

/-- A question about a handle that is open. -/
theorem Inv.use (hi : s.Inv) {h : DokanHandle} (hm : s.fileMount.mounted = true)
    (hh : s.handle = some h) : Inv { s with driver := s.driver.use h } := by
  obtain ⟨h', hh', -, hopen⟩ := hi.handle hm
  cases hh.symm.trans hh'
  exact ⟨hi.handle, hi.running, hi.fresh, (Driver.use_misused hopen).trans hi.used⟩

theorem Inv.mount (hi : s.Inv) (status : Int) (leftover : Option DokanHandle) :
    (s.mount status leftover).2.Inv := by
  cases hm : s.fileMount.mounted with
  | true =>
      rw [mount_of_mounted hm]
      exact hi
  | false =>
      have hstopped : ∀ h, s.driver.running h = false := by
        intro h
        cases hr : s.driver.running h with
        | false => rfl
        | true => exact absurd (hm.symm.trans (hi.running h hr).1) Bool.false_ne_true
      by_cases hstatus : status = DOKAN_SUCCESS
      · subst hstatus
        rw [mount_of_success hm]
        refine ⟨fun _ => ⟨s.driver.next, rfl, Nat.lt_succ_self _, hi.fresh _ (Nat.le_refl _)⟩, ?_,
          fun h hle => hi.fresh h (Nat.le_of_succ_le hle), hi.used⟩
        intro h hr
        by_cases hnext : h = s.driver.next
        · rw [hnext]
          exact ⟨rfl, rfl⟩
        · have hold : s.driver.running h = true := by
            simpa [Function.update_of_ne hnext] using hr
          exact absurd ((hstopped h).symm.trans hold) Bool.false_ne_true
      · rw [mount_of_failure hm hstatus]
        refine ⟨fun hm' => absurd (hm.symm.trans hm') Bool.false_ne_true, ?_, hi.fresh, hi.used⟩
        intro h hr
        exact absurd ((hstopped h).symm.trans hr) Bool.false_ne_true

/-- **One step** keeps the handles in order, whatever happens. -/
theorem Inv.act [DecidableEq ι] (hi : s.Inv) (a : Action) : (s.act ar p a).Inv := by
  cases a with
  | mount status leftover => exact hi.mount status leftover
  | unmount =>
      show (s.unmount ar p).Inv
      cases hm : s.fileMount.mounted with
      | false =>
          rw [unmount_of_not_mounted hm]
          exact hi
      | true =>
          obtain ⟨h, hh, -⟩ := hi.handle hm
          rw [unmount_of_mounted hm hh]
          split
          · exact hi.close hm hh _
          · exact hi.use hm hh
  | isRunning =>
      show s.isRunning.2.Inv
      cases hm : s.fileMount.mounted with
      | false =>
          rw [isRunning_of_not_mounted hm]
          exact hi
      | true =>
          obtain ⟨h, hh, -⟩ := hi.handle hm
          rw [isRunning_of_mounted hm hh]
          split
          · exact hi.use hm hh
          · exact hi.close hm hh s.disk
  | saveSecurity => exact ⟨hi.handle, hi.running, hi.fresh, hi.used⟩
  | change nodes => exact ⟨hi.handle, hi.running, hi.fresh, hi.used⟩
  | stop h =>
      refine ⟨hi.handle, ?_, hi.fresh, hi.used⟩
      intro k hk
      by_cases hkh : k = h
      · rw [hkh] at hk
        exact absurd hk (by simp [Lifecycle.act, Driver.stop])
      · exact hi.running k (by simpa [Lifecycle.act, Driver.stop, Function.update_of_ne hkh] using hk)

/-! ## What `mount` reports -/

/-- A `mount` that returns success leaves a file system of the object running, and no call
was given a handle closed before. -/
def MountTrue (s : Lifecycle ι) (a : Action) (s' : Lifecycle ι) : Prop :=
  (∀ status leftover, a = .mount status leftover → (s.mount status leftover).1 = DOKAN_SUCCESS →
    ∃ h < s'.driver.next, s'.driver.running h = true) ∧
  s'.driver.misused = false

/-- `mount` is not called while the file system of the mount has stopped. -/
def MountsFresh (s : Lifecycle ι) (a : Action) (_ : Lifecycle ι) : Prop :=
  ∀ status leftover, a = .mount status leftover → ¬ s.Stale

theorem mountTrue_iff [DecidableEq ι] (hi : s.Inv) (a : Action) :
    MountTrue s a (s.act ar p a) ↔ MountsFresh s a (s.act ar p a) := by
  unfold MountTrue MountsFresh
  rw [and_iff_left (hi.act a).used]
  constructor
  · rintro hsuccess status leftover rfl ⟨hm, h, hh, hstopped⟩
    -- `mount` does not ask, and the handle it keeps is the only one that could run
    rw [show s.act ar p (.mount status leftover) = s from
      congrArg Prod.snd (mount_of_mounted hm)] at hsuccess
    obtain ⟨k, -, hk⟩ := hsuccess status leftover rfl (congrArg Prod.fst (mount_of_mounted hm))
    cases hh.symm.trans (hi.running k hk).2
    exact absurd (hstopped.symm.trans hk) Bool.false_ne_true
  · rintro hfresh status leftover rfl hresult
    show ∃ h < (s.mount status leftover).2.driver.next, _
    cases hm : s.fileMount.mounted with
    | true =>
        obtain ⟨h, hh, hlt, -⟩ := hi.handle hm
        have hrun : s.driver.running h = true := by
          cases hr : s.driver.running h with
          | true => rfl
          | false => exact absurd ⟨hm, h, hh, hr⟩ (hfresh status leftover rfl)
        refine ⟨h, ?_, ?_⟩
        · rw [mount_of_mounted hm]
          exact hlt
        · show (s.mount status leftover).2.driver.running h = true
          rw [mount_of_mounted hm]
          exact hrun
    | false =>
        by_cases hstatus : status = DOKAN_SUCCESS
        · subst hstatus
          refine ⟨s.driver.next, ?_, ?_⟩
          · rw [mount_of_success hm]
            exact Nat.lt_succ_self _
          · show (s.mount DOKAN_SUCCESS leftover).2.driver.running s.driver.next = true
            rw [mount_of_success hm]
            exact Function.update_self ..
        · rw [mount_of_failure hm hstatus] at hresult
          exact absurd hresult hstatus

/-- **Mounting.**  In every history of a `FileMount`, `mount` returns success only with a file
system running, and handles are closed once and not used afterwards, exactly if `mount` is
never called while the file system of the mount has stopped. -/
theorem mount_along_iff [DecidableEq ι] (ar : Archive) (p : Program ι) (context : BitVec 64)
    (globals : Globals) (dokanOptions : DokanOptions) (nodes : Nodes) (disk : Disk ι) (actions : List Action) :
    History.Along MountTrue (start context globals dokanOptions nodes disk)
        (History.trace (act ar p) (start context globals dokanOptions nodes disk) actions) ↔
      History.Along MountsFresh (start context globals dokanOptions nodes disk)
        (History.trace (act ar p) (start context globals dokanOptions nodes disk) actions) := by
  refine History.Path.along_iff (I := Inv) ?_ ?_ start_inv (History.path_trace actions _)
  · rintro s a _ hi rfl
    exact mountTrue_iff hi a
  · rintro s a _ hi rfl _
    exact hi.act a

/-- The file system stops, and a second `mount` reports success. -/
theorem not_mount_along :
    ¬ ∀ (ar : Archive) (p : Program WString) (context : BitVec 64) (globals : Globals)
        (dokanOptions : DokanOptions) (nodes : Nodes) (disk : Disk WString) (actions : List Action),
      History.Along MountTrue (start context globals dokanOptions nodes disk)
        (History.trace (act ar p) (start context globals dokanOptions nodes disk) actions) := by
  intro h
  obtain ⟨-, -, ⟨hmount, -⟩, -⟩ := h Archive.binary Program.plain 1 {} {}
    (Nodes.empty fun _ => Filenode.plain []) (fun _ => none)
    [.mount DOKAN_SUCCESS none, .stop 0, .mount DOKAN_SUCCESS none]
  obtain ⟨k, hlt, hk⟩ := hmount DOKAN_SUCCESS none rfl rfl
  have hlt' : k < 1 := hlt
  have hzero : k = 0 := Nat.lt_one_iff.mp hlt'
  subst hzero
  exact absurd hk (by decide)

/-! ## What the end of a mount leaves in the file -/

/-- When `mounted` becomes false, the file holds the nodes. -/
def EndsSaved (ar : Archive) (p : Program ι) (s : Lifecycle ι) (_ : Action) (s' : Lifecycle ι) : Prop :=
  s.fileMount.mounted = true → s'.fileMount.mounted = false →
    Stored ar p s'.disk s'.fileMount.globals.rootDirectory s'.nodes

/-- `isRunning` does not find the file system stopped while the file is behind. -/
def FindsSaved (ar : Archive) (p : Program ι) (s : Lifecycle ι) (a : Action) (_ : Lifecycle ι) : Prop :=
  a = .isRunning → s.Stale → Stored ar p s.disk s.fileMount.globals.rootDirectory s.nodes

/-- An `unmount` that ends the mount saves. -/
theorem unmount_ends [DecidableEq ι] (hm : s.fileMount.mounted = true)
    (hend : (s.unmount ar p).fileMount.mounted = false) :
    Stored ar p (s.unmount ar p).disk (s.unmount ar p).fileMount.globals.rootDirectory
      (s.unmount ar p).nodes := by
  cases hh : s.handle with
  | none =>
      unfold unmount at hend
      rw [hm, hh] at hend
      exact absurd (hm.symm.trans hend) Bool.noConfusion
  | some h =>
      rw [unmount_of_mounted hm hh] at hend ⊢
      split at hend
      · next hr =>
          rw [if_pos hr]
          exact stored_saveSecurity
      · exact absurd (hm.symm.trans hend) Bool.noConfusion

/-- `isRunning` ends the mount if the file system has stopped. -/
theorem isRunning_ends_iff (hm : s.fileMount.mounted = true) :
    s.isRunning.2.fileMount.mounted = false ↔ s.Stale := by
  unfold Stale
  cases hh : s.handle with
  | none =>
      unfold isRunning
      simp [hm, hh]
  | some h =>
      rw [isRunning_of_mounted hm hh]
      cases hr : s.driver.running h with
      | true => simp [hm, hr]
      | false => simp [hm, hr]

/-- It does not touch the file. -/
theorem isRunning_stored :
    Stored ar p s.isRunning.2.disk s.isRunning.2.fileMount.globals.rootDirectory s.isRunning.2.nodes ↔
      Stored ar p s.disk s.fileMount.globals.rootDirectory s.nodes := by
  cases hm : s.fileMount.mounted with
  | false => rw [isRunning_of_not_mounted hm]
  | true =>
      cases hh : s.handle with
      | none =>
          unfold isRunning
          rw [hm, hh]
      | some h =>
          rw [isRunning_of_mounted hm hh]
          split
          · exact Iff.rfl
          · exact Iff.rfl

theorem endsSaved_iff [DecidableEq ι] (a : Action) :
    EndsSaved ar p s a (s.act ar p a) ↔ FindsSaved ar p s a (s.act ar p a) := by
  constructor
  · rintro h rfl hstale
    exact isRunning_stored.mp (h hstale.1 ((isRunning_ends_iff hstale.1).mpr hstale))
  · intro h hm hend
    cases a with
    | mount status leftover =>
        rw [show s.act ar p (.mount status leftover) = s from
          congrArg Prod.snd (mount_of_mounted hm)] at hend
        exact absurd (hm.symm.trans hend) Bool.noConfusion
    | unmount => exact unmount_ends hm hend
    | isRunning => exact isRunning_stored.mpr (h rfl ((isRunning_ends_iff hm).mp hend))
    | saveSecurity => exact absurd (hm.symm.trans hend) Bool.noConfusion
    | change nodes => exact absurd (hm.symm.trans hend) Bool.noConfusion
    | stop h => exact absurd (hm.symm.trans hend) Bool.noConfusion

/-- **The end of a mount.**  In every history of a `FileMount` the file holds the nodes when
the mount ends, exactly if `isRunning` never finds the file system stopped while the file is
behind: an `unmount` saves, and the other way to end a mount does not. -/
theorem ends_saved_along_iff [DecidableEq ι] (ar : Archive) (p : Program ι) (context : BitVec 64)
    (globals : Globals) (dokanOptions : DokanOptions) (nodes : Nodes) (disk : Disk ι)
    (actions : List Action) :
    History.Along (EndsSaved ar p) (start context globals dokanOptions nodes disk)
        (History.trace (act ar p) (start context globals dokanOptions nodes disk) actions) ↔
      History.Along (FindsSaved ar p) (start context globals dokanOptions nodes disk)
        (History.trace (act ar p) (start context globals dokanOptions nodes disk) actions) := by
  refine History.Path.along_iff (I := fun _ => True) ?_ ?_ trivial (History.path_trace actions _)
  · rintro s a _ - rfl
    exact endsSaved_iff a
  · rintro s a _ - - -
    trivial

/-- A node is stored, the file system stops, and `isRunning` is asked. -/
theorem not_ends_saved_along :
    ¬ ∀ (ar : Archive) (p : Program WString) (context : BitVec 64) (globals : Globals)
        (dokanOptions : DokanOptions) (nodes : Nodes) (disk : Disk WString) (actions : List Action),
      History.Along (EndsSaved ar p) (start context globals dokanOptions nodes disk)
        (History.trace (act ar p) (start context globals dokanOptions nodes disk) actions) := by
  intro h
  obtain ⟨-, -, -, hend, -⟩ := h Archive.binary Program.plain 1 {} {}
    (Nodes.empty fun _ => Filenode.plain []) (fun _ => none)
    [.mount DOKAN_SUCCESS none, .change (Nodes.single (Filenode.plain [])), .stop 0, .isRunning]
  rcases hend rfl rfl with hfile | ⟨-, hnil⟩
  · cases hfile
  · cases hnil

end Lifecycle

end SeamlessSmb
