/-
# `Runner` — the process behind a mount

The daemon starts a process for each mount and takes a living process for a running mount.  In it
a `DokanRunner` looks up the stored entry, makes the `FileMount`, mounts it if its letter is free
and asks for an exit where that fails.  A timer, `unmount` and the destructor come later.

| source | here |
| :-- | :-- |
| `DokanRunner::DokanRunner` | `DokanRunner.construct`; `none` where it throws |
| `freeDrives()` twice, `DokanCreateFileSystem` | `Answers` |
| `emit exits(code)` | a code in `exits` |
| a call through `filemount` | `none` where the pointer is null |

**Proved here:** with an entry for the uuid the runner has mounted it or asks for an exit, and
nothing that comes later goes through a null pointer; without one neither is so
(`construct_iff`).
-/
import SeamlessSmb.Lifecycle

namespace SeamlessSmb

/-- `DokanRunner`.  The object is in `filemount`, the codes in the order they were emitted. -/
structure DokanRunner (ι : Type) where
  filemount : Option (Lifecycle ι) := none
  exits : List Int := []

namespace DokanRunner

variable {ι : Type}

/-! ## The constructor -/

/-- What the constructor gets from outside: the free letters before and after, the status of
`DokanCreateFileSystem`, and what a call of it that fails leaves in the handle. -/
structure Answers where
  before : List WString
  status : Int
  leftover : Option DokanHandle
  after : List WString

/-- `drives.contains(QString::fromWCharArray(mountPoint.c_str(), 1))`.  Of an empty mount point
that asks for a NUL, which is no letter. -/
def containsLetter (drives : List WString) : WString → Bool
  | [] => false
  | c :: _ => drives.contains [c]

/-- The constructor once there is a `FileMount`. -/
def mountFree (m : Lifecycle ι) (a : Answers) : DokanRunner ι :=
  let mountPoint := m.fileMount.globals.mountPoint
  if containsLetter a.before mountPoint then
    let (status, m) := m.mount a.status a.leftover
    { filemount := some m
      exits := (if status ≠ DOKAN_SUCCESS then [2] else []) ++
        (if containsLetter a.after mountPoint then [3] else []) }
  else { filemount := some m, exits := [3] }

/-- `DokanRunner::DokanRunner`. -/
def construct (ar : Archive) (p : Program ι) (disk : Disk ι) (heap : Ptr → Filenode)
    (context : BitVec 64) (mountlist : List MountInfo) (id : BitVec 128) (a : Answers) :
    Option (DokanRunner ι) :=
  match mountlist.find? fun info => info.uuid = id with
  | none => some {}
  | some info =>
      (FileMount.construct ar p disk heap context (mountInfoToGlobal info).1
        (mountInfoToGlobal info).2 otherlog).map fun (m, nodes) =>
          mountFree { fileMount := m, nodes := nodes, disk := disk } a

/-- The file system of the entry for the uuid is mounted. -/
def Mounts (r : DokanRunner ι) (mountlist : List MountInfo) (id : BitVec 128) : Prop :=
  ∃ info m h, (mountlist.find? fun info => info.uuid = id) = some info ∧
    r.filemount = some m ∧ m.fileMount.globals = (mountInfoToGlobal info).1 ∧
    m.fileMount.mounted = true ∧ m.handle = some h ∧ m.driver.running h = true

/-- An exit with a code other than zero is asked for. -/
def AsksExit (r : DokanRunner ι) : Prop := ∃ code ∈ r.exits, code ≠ 0

/-- Every way out of the constructor that has made a `FileMount`. -/
theorem mountFree_outcome {m : Lifecycle ι} {a : Answers} {r : DokanRunner ι}
    (hr : mountFree m a = r) (hm : m.fileMount.mounted = false) : ∃ m', r.filemount = some m' ∧
      ((∃ h, m'.fileMount.globals = m.fileMount.globals ∧ m'.fileMount.mounted = true ∧
        m'.handle = some h ∧ m'.driver.running h = true) ∨ r.AsksExit) := by
  subst hr
  unfold mountFree
  by_cases hfree : containsLetter a.before m.fileMount.globals.mountPoint = true
  · rw [if_pos hfree]
    by_cases hstatus : a.status = DOKAN_SUCCESS
    · rw [hstatus, Lifecycle.mount_of_success hm]
      refine ⟨_, rfl, .inl ⟨m.driver.next, rfl, rfl, rfl, ?_⟩⟩
      exact Function.update_self m.driver.next true m.driver.running
    · rw [Lifecycle.mount_of_failure hm hstatus]
      refine ⟨_, rfl, .inr ⟨2, ?_, by decide⟩⟩
      simp [hstatus]
  · rw [if_neg hfree]
    exact ⟨m, rfl, .inr ⟨3, List.mem_singleton_self 3, by decide⟩⟩

/-! ## What comes later -/

variable [DecidableEq ι] (ar : Archive) (p : Program ι)

/-- `DokanRunner::onSaveSecurity`. -/
def onSaveSecurity (r : DokanRunner ι) : Option (DokanRunner ι) :=
  r.filemount.map fun m => { r with filemount := some (m.saveSecurity ar p) }

/-- `DokanRunner::unmount`. -/
def unmount (r : DokanRunner ι) : DokanRunner ι :=
  match r.filemount with
  | none => r
  | some m =>
      let (running, m) := m.isRunning
      { r with filemount := some (if running then m.unmount ar p else m) }

/-- `DokanRunner::~DokanRunner`: the line it appends to the file `--DD`, and what it leaves. -/
def destruct (r : DokanRunner ι) : Option (WString × DokanRunner ι) :=
  r.filemount.map fun m => (m.fileMount.globals.mountPoint, r.unmount ar p)

/-- A slot, a call, a callback that changes the nodes, or the file system stopping. -/
inductive Action
  | timeout
  | unmount
  | change (nodes : Nodes)
  | stop (h : DokanHandle)

def act (r : DokanRunner ι) : Action → Option (DokanRunner ι)
  | .timeout => r.onSaveSecurity ar p
  | .unmount => some (r.unmount ar p)
  | .change nodes => some { r with filemount := r.filemount.map fun m => m.act ar p (.change nodes) }
  | .stop h => some { r with filemount := r.filemount.map fun m => m.act ar p (.stop h) }

def run : List Action → DokanRunner ι → Option (DokanRunner ι)
  | [], r => some r
  | a :: actions, r => (r.act ar p a).bind (run actions)

/-- In every order of what comes later, up to the destructor, no call is made through a null
pointer. -/
def Survives (r : DokanRunner ι) : Prop :=
  ∀ actions, ∃ r', run ar p actions r = some r' ∧ (r'.destruct ar p).isSome

variable {ar : Archive} {p : Program ι} {r : DokanRunner ι} {disk : Disk ι} {heap : Ptr → Filenode}
  {context : BitVec 64} {mountlist : List MountInfo} {id : BitVec 128} {a : Answers}

/-- **One step** keeps the pointer, and with it there is no step that fails. -/
theorem act_of_filemount (hr : r.filemount.isSome) (action : Action) :
    ∃ r', r.act ar p action = some r' ∧ r'.filemount.isSome := by
  obtain ⟨m, hm⟩ := Option.isSome_iff_exists.mp hr
  cases action with
  | timeout => simp [act, onSaveSecurity, hm]
  | unmount => simp [act, unmount, hm]
  | change nodes => simp [act, hm]
  | stop h => simp [act, hm]

theorem run_of_filemount (hr : r.filemount.isSome) (actions : List Action) :
    ∃ r', run ar p actions r = some r' ∧ r'.filemount.isSome := by
  induction actions generalizing r with
  | nil => exact ⟨r, rfl, hr⟩
  | cons action actions ih =>
    have hstep : ∃ r₁, r.act ar p action = some r₁ ∧ r₁.filemount.isSome := act_of_filemount hr action
    obtain ⟨r₁, hact, hr₁⟩ := hstep
    obtain ⟨r', hrun, hr'⟩ := ih hr₁
    exact ⟨r', by rw [run, hact, Option.bind_some, hrun], hr'⟩

/-- The destructor goes through the pointer whatever it is. -/
theorem survives_iff : r.Survives ar p ↔ r.filemount.isSome := by
  constructor
  · intro h
    obtain ⟨r', hrun, hdestruct⟩ := h []
    cases hrun
    rwa [destruct, Option.isSome_map] at hdestruct
  · intro hr actions
    obtain ⟨r', hrun, hr'⟩ := run_of_filemount hr actions
    exact ⟨r', hrun, by rwa [destruct, Option.isSome_map]⟩

theorem construct_iff (ar : Archive) (p : Program ι) (disk : Disk ι) (heap : Ptr → Filenode)
    (context : BitVec 64) (mountlist : List MountInfo) (id : BitVec 128) (a : Answers) :
    (∀ r, construct ar p disk heap context mountlist id a = some r →
      (r.Mounts mountlist id ∨ r.AsksExit) ∧ r.Survives ar p) ↔
      ∃ info ∈ mountlist, info.uuid = id := by
  unfold construct
  cases hfind : mountlist.find? fun info => info.uuid = id with
  | none =>
    constructor
    · intro h
      exact absurd (survives_iff.mp (h {} rfl).2) Bool.false_ne_true
    · rintro ⟨info, hmem, huuid⟩
      exact absurd huuid (by simpa using List.find?_eq_none.mp hfind info hmem)
  | some info =>
    constructor
    · intro _
      exact ⟨info, List.mem_of_find?_eq_some hfind, by simpa using List.find?_some hfind⟩
    · intro _ r hr
      obtain ⟨⟨m, nodes⟩, hconstruct, hfree⟩ := Option.map_eq_some_iff.mp hr
      rw [FileMount.construct_some] at hconstruct
      obtain ⟨nodes', -, heq⟩ := Option.map_eq_some_iff.mp hconstruct
      cases heq
      obtain ⟨m', hm', houtcome⟩ := mountFree_outcome hfree rfl
      refine ⟨?_, survives_iff.mpr (Option.isSome_iff_exists.mpr ⟨m', hm'⟩)⟩
      obtain ⟨h, hglobals, hmounted⟩ | hexit := houtcome
      · exact .inl ⟨info, m', h, hfind, hm', hglobals, hmounted⟩
      · exact .inr hexit

/-- A list without entries, and what `construct` is given besides. -/
theorem not_construct :
    ¬ ∀ r, construct Archive.binary Program.plain (fun _ => none) (fun _ => Filenode.plain []) 0 [] 1
        { before := [wide ['M']], status := DOKAN_SUCCESS, leftover := none, after := [] } = some r →
      (r.Mounts [] 1 ∨ r.AsksExit) ∧ r.Survives Archive.binary Program.plain := by
  intro h
  exact absurd (survives_iff.mp (h {} rfl).2) Bool.false_ne_true

end DokanRunner

end SeamlessSmb
