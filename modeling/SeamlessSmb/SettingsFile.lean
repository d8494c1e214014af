/-
# `SettingsFile` — from the editor to the process

The mounts the user edits are stored in a file.  The daemon reads it when it reloads and starts a
process for each mount, with the file's name and the uuid for its arguments; the process reads the file
once more and makes a mount of what it finds under the uuid.  So the settings go through the file twice,
at different times, and the uuid once through a text.

| source | here |
| :-- | :-- |
| `settings->setValue("Mounts", …)` and `sync` in `onModelModified` | `writeMounts` |
| `settings->value("Mounts").value<mlist>()` | `loadMounts`; what cannot be read is no mount |
| `operator<<` and `operator>>` of a `QList` | the number of its elements, and the elements |
| `setArguments({settings->fileName(), info.uuid.toString()})` | `QProcess.arguments` |
| the arguments of `DokanRunner::DokanRunner` | `DokanRunner.ofArguments` |

Reloading and starting are separate steps here, and any number of edits may come between.

**Proved here:** in every run, whenever the process of an entry is started, a mount it constructs has
the `Globals` of what is stored then under the uuid of the entry, and it constructs none if that was
removed; after a reload each stored mount has an entry (`reaches_along`).  What the daemon keeps of an
entry may be older: it is not what the process goes by.
-/
import SeamlessSmb.Controller.MountListModel
import SeamlessSmb.MountStream
import SeamlessSmb.Ownership
import SeamlessSmb.Platform.Qt
import SeamlessSmb.Runner

namespace SeamlessSmb

open Stream

/-! ## The file -/

section

variable (s : QDataStream) (fresh : ℕ → DataStream.MountInfo 4)

/-- `operator<<` of the list. -/
def writeMounts (infos : List MountInfo) : List (BitVec 8) :=
  s.quint32.write (BitVec.ofNat 32 infos.length) ++
    (infos.map MountInfo.streamed).flatMap (DataStream.write s)

/-- `operator>>` of the list; `fresh` is what the elements hold before they are read. -/
def readMounts : Input (BitVec 8) (List MountInfo) := do
  let n ← s.quint32.read
  let infos ← DataStream.readEach s ((List.range n.toNat).map fresh)
  pure (infos.map DataStream.MountInfo.received)

/-- The mounts in a file. -/
def loadMounts (file : List (BitVec 8)) : List MountInfo :=
  match (readMounts s fresh).run file with
  | some (infos, _) => infos
  | none => []

variable {s fresh} {infos : List MountInfo}

theorem reads_mounts (h : infos.length < 0x100000000) : Reads (readMounts s fresh) (writeMounts s infos) infos := by
  have hcount : (BitVec.ofNat 32 infos.length).toNat = infos.length := by
    rw [BitVec.toNat_ofNat]
    exact Nat.mod_eq_of_lt h
  have hlength : ((List.range (BitVec.ofNat 32 infos.length).toNat).map fresh).length = infos.length := by
    rw [List.length_map, List.length_range, hcount]
  exact (s.quint32.reads _).bind (reads_received hlength)

/-- What was stored is loaded. -/
theorem loadMounts_writeMounts (h : infos.length < 0x100000000) :
    loadMounts s fresh (writeMounts s infos) = infos := by
  have hread : (readMounts s fresh).run (writeMounts s infos ++ []) = some (infos, []) := reads_mounts h []
  rw [List.append_nil] at hread
  unfold loadMounts
  rw [hread]

end

/-! ## The process -/

/-- The arguments of a process. -/
def QProcess.arguments (q : UuidText) (p : QProcess) : WString × List Char := (p.fileName, q.toString p.uuid)

/-- `DokanRunner::DokanRunner`, from its arguments: a file name and the text of a uuid. -/
def DokanRunner.ofArguments {ι : Type} (q : UuidText) (s : QDataStream) (fresh : ℕ → DataStream.MountInfo 4)
    (ar : Archive) (p : Program ι) (disk : Disk ι) (heap : Ptr → Filenode) (context : BitVec 64)
    (files : WString → List (BitVec 8)) (argv : WString × List Char) (a : DokanRunner.Answers) :
    Option (DokanRunner ι) :=
  DokanRunner.construct ar p disk heap context (loadMounts s fresh (files argv.1)) (q.ofString argv.2) a

/-! ## The parties -/

/-- The controller, the file, and the daemon. -/
structure SharedSettings where
  app : ApplicationUI
  file : List (BitVec 8)
  daemon : Daemon

namespace SharedSettings

variable (s : QDataStream) (fresh : ℕ → DataStream.MountInfo 4)

/-- Both after their constructors, with what is stored. -/
def start (stored : List MountInfo) (fileName : WString) : SharedSettings where
  app := .init stored
  file := writeMounts s stored
  daemon := (Service.init fileName).daemon

/-- The user does something, or the daemon reloads. -/
inductive Action
  | user (a : ApplicationUI.Action)
  | reload

def act (t : SharedSettings) : Action → SharedSettings
  | .user a =>
      let app := t.app.act a
      { t with app := app, file := writeMounts s app.mounts }
  | .reload => { t with daemon := t.daemon.reloadMounts (loadMounts s fresh t.file) }

/-- The list that is stored can be counted: the size of a `QList` is an `int`. -/
def Fits (t : SharedSettings) : Prop := t.app.mounts.length < 0x80000000

/-- What a process that is given these arguments makes of the files there are. -/
def Starts (q : UuidText) (t : SharedSettings) (argv : WString × List Char)
    (P : ∀ {ι : Type}, Option (DokanRunner ι) → Prop) : Prop :=
  ∀ {ι : Type} (ar : Archive) (p : Program ι) (disk : Disk ι) (heap : Ptr → Filenode)
    (context : BitVec 64) (files : WString → List (BitVec 8)) (answers : DokanRunner.Answers),
    files t.daemon.fileName = t.file →
      P (DokanRunner.ofArguments q s fresh ar p disk heap context files argv answers)

/-- A mount that the process of an entry constructs has the `Globals` of what the user has stored
under the uuid, whatever else it meets with; and after a reload the entries are those stored. -/
structure Reaches (q : UuidText) (a : Action) (t : SharedSettings) : Prop where
  found : ∀ m ∈ t.daemon.mounts, ∀ info ∈ t.app.mounts, info.uuid = m.uuid →
    Starts s fresh q t (m.1.arguments q) fun outcome => ∀ r, outcome = some r →
      ∃ l, r.filemount = some l ∧ l.fileMount.globals = (mountInfoToGlobal info).1
  gone : ∀ m ∈ t.daemon.mounts, (∀ info ∈ t.app.mounts, info.uuid ≠ m.uuid) →
    Starts s fresh q t (m.1.arguments q) fun outcome => outcome = some {}
  entries : a = .reload → (t.daemon.mounts.map Mount.uuid).Perm (t.app.mounts.map MountInfo.uuid)

/-- The invariant. -/
structure Inv (t : SharedSettings) : Prop where
  app : t.app.Inv
  file : t.file = writeMounts s t.app.mounts
  distinct : t.daemon.Distinct
  given : ∀ m ∈ t.daemon.mounts, m.1.uuid = m.uuid ∧ m.1.fileName = t.daemon.fileName

section

variable {s fresh} {q : UuidText} {t : SharedSettings} {a : Action}

/-- The uuids that are stored differ. -/
theorem Inv.nodup (hi : t.Inv s) : (t.app.mounts.map MountInfo.uuid).Nodup := by
  rw [hi.app.stored]
  have hrows : t.app.model.getModelList.map MountInfo.uuid =
      t.app.model.modelList.map MountListModel.rowUuid := by
    unfold MountListModel.getModelList
    rw [List.map_map]
    rfl
  rw [hrows]
  exact hi.app.uuids

/-- A process is given the file and, as a text, the uuid. -/
theorem Inv.ofArguments (hi : t.Inv s) (hfits : t.Fits) {m : Mount} (hm : m ∈ t.daemon.mounts) {ι : Type}
    {ar : Archive} {p : Program ι} {disk : Disk ι} {heap : Ptr → Filenode} {context : BitVec 64}
    {files : WString → List (BitVec 8)} {answers : DokanRunner.Answers}
    (hfiles : files t.daemon.fileName = t.file) :
    DokanRunner.ofArguments q s fresh ar p disk heap context files (m.1.arguments q) answers =
      DokanRunner.construct ar p disk heap context t.app.mounts m.uuid answers := by
  obtain ⟨huuid, hname⟩ := hi.given m hm
  unfold DokanRunner.ofArguments QProcess.arguments
  have hload : loadMounts s fresh (writeMounts s t.app.mounts) = t.app.mounts :=
    loadMounts_writeMounts (Nat.lt_trans hfits (by decide))
  rw [hname, hfiles, hi.file, hload, q.read, huuid]

/-- Whether it comes to be mounted or not, the object has the `Globals` it was made with. -/
theorem mountFree_globals {ι : Type} {l : Lifecycle ι} {answers : DokanRunner.Answers}
    (hl : l.fileMount.mounted = false) :
    ∃ l', (DokanRunner.mountFree l answers).filemount = some l' ∧ l'.fileMount.globals = l.fileMount.globals := by
  unfold DokanRunner.mountFree
  by_cases hfree : DokanRunner.containsLetter answers.before l.fileMount.globals.mountPoint = true
  · rw [if_pos hfree]
    by_cases hstatus : answers.status = DOKAN_SUCCESS
    · rw [hstatus, Lifecycle.mount_of_success hl]
      exact ⟨_, rfl, rfl⟩
    · rw [Lifecycle.mount_of_failure hl hstatus]
      exact ⟨_, rfl, rfl⟩
  · rw [if_neg hfree]
    exact ⟨l, rfl, rfl⟩

theorem Inv.reaches (hi : t.Inv s) (hfits : t.Fits)
    (hentries : a = .reload → (t.daemon.mounts.map Mount.uuid).Perm (t.app.mounts.map MountInfo.uuid)) :
    Reaches s fresh q a t := by
  refine ⟨?_, ?_, hentries⟩
  · intro m hm info hinfo huuid ι ar p disk heap context files answers hfiles r hr
    rw [hi.ofArguments hfits hm hfiles] at hr
    have hdistinct : Keyed.Distinct MountInfo.uuid t.app.mounts := hi.nodup
    have hfind : (t.app.mounts.find? fun info => info.uuid = m.uuid) = some info :=
      hdistinct.first_eq_some.mpr ⟨hinfo, huuid⟩
    unfold DokanRunner.construct at hr
    rw [hfind] at hr
    obtain ⟨⟨l, nodes⟩, hconstruct, rfl⟩ := Option.map_eq_some_iff.mp hr
    rw [FileMount.construct_some] at hconstruct
    obtain ⟨nodes', -, heq⟩ := Option.map_eq_some_iff.mp hconstruct
    cases heq
    exact mountFree_globals rfl
  · intro m hm hnone ι ar p disk heap context files answers hfiles
    rw [hi.ofArguments hfits hm hfiles]
    have hfind : (t.app.mounts.find? fun info => info.uuid = m.uuid) = none :=
      List.find?_eq_none.mpr fun info hinfo => by simpa using hnone info hinfo
    unfold DokanRunner.construct
    rw [hfind]

theorem Inv.user (hi : t.Inv s) (a : ApplicationUI.Action) : (t.act s fresh (.user a)).Inv s :=
  ⟨hi.app.act a, rfl, hi.distinct, hi.given⟩

/-- The daemon gets the stored list, whatever it had. -/
theorem Inv.reload (hi : t.Inv s) (hfits : t.Fits) : (t.act s fresh .reload).Inv s ∧
    ((t.act s fresh .reload).daemon.mounts.map Mount.uuid).Perm (t.app.mounts.map MountInfo.uuid) := by
  have hload : loadMounts s fresh t.file = t.app.mounts := by
    rw [hi.file]
    exact loadMounts_writeMounts (Nat.lt_trans hfits (by decide))
  have hdaemon : (t.act s fresh .reload).daemon = t.daemon.reloadMounts t.app.mounts := by
    show t.daemon.reloadMounts (loadMounts s fresh t.file) = _
    rw [hload]
  obtain ⟨sent, hreload⟩ := Daemon.reload_entries hi.distinct hi.nodup
  have hturns : ∀ (edits : List Edit) (d : Daemon),
      (∀ m ∈ d.mounts, m.1.uuid = m.uuid ∧ m.1.fileName = d.fileName) →
      ∀ m ∈ (edits.foldl Edit.apply d).mounts,
        m.1.uuid = m.uuid ∧ m.1.fileName = (edits.foldl Edit.apply d).fileName := by
    intro edits
    induction edits with
    | nil => exact fun d hd => hd
    | cons e edits ih => exact fun d hd => ih _ (Owners.apply_given hd)
  refine ⟨⟨hi.app, hi.file, ?_, ?_⟩, ?_⟩
  · rw [hdaemon]
    exact hreload.distinct
  · rw [hdaemon, ← Daemon.foldl_edits]
    exact hturns _ _ hi.given
  · rw [hdaemon]
    exact (hreload.reloaded hi.distinct hi.nodup).uuids

end

/-- **The settings.**  However edits and reloads follow on each other, whenever the process of an entry is
started, a mount it constructs has the `Globals` of what the user has stored under that uuid, and it
constructs none if that was removed; right after a reload the entries are those stored. -/
theorem reaches_along (s : QDataStream) (fresh : ℕ → DataStream.MountInfo 4) (q : UuidText)
    (stored : List MountInfo) (hstored : (stored.map MountInfo.uuid).Nodup)
    (hfits : stored.length < 0x80000000) (fileName : WString) (actions : List Action)
    (h : History.Along (fun _ _ t' => t'.Fits) (start s stored fileName)
      (History.trace (act s fresh) (start s stored fileName) actions)) :
    History.Along (fun _ a t' => Reaches s fresh q a t') (start s stored fileName)
      (History.trace (act s fresh) (start s stored fileName) actions) := by
  have hstart : (start s stored fileName).Inv s ∧ (start s stored fileName).Fits := by
    refine ⟨⟨ApplicationUI.init_inv hstored, rfl, List.nodup_nil, ?_⟩, hfits⟩
    intro m hm
    cases hm
  refine History.Path.along (I := fun t => t.Inv s ∧ t.Fits) ?_ hstart (History.path_trace actions _) h
  rintro t a _ ⟨hi, hfits⟩ rfl hfits'
  cases a with
  | user a =>
      have hi' : (t.act s fresh (.user a)).Inv s := hi.user a
      refine ⟨hi'.reaches hfits' ?_, hi', hfits'⟩
      intro ha
      cases ha
  | reload =>
      obtain ⟨hi', hentries⟩ : (t.act s fresh .reload).Inv s ∧
        ((t.act s fresh .reload).daemon.mounts.map Mount.uuid).Perm (t.app.mounts.map MountInfo.uuid) :=
        hi.reload hfits
      exact ⟨hi'.reaches hfits' fun _ => hentries, hi', hfits'⟩

/-- A mount is loaded, edited and loaded again. -/
theorem reaches_along_edited :
    History.Along (fun _ a t' => Reaches .bigEndian (fun _ => { uuid := 0 }) .braced a t')
      (start .bigEndian [{ uuid := 1 }] [])
      (History.trace (act .bigEndian fun _ => { uuid := 0 }) (start .bigEndian [{ uuid := 1 }] [])
        [.reload, .user (.start 1), .reload]) := by
  have hone : ∀ t : SharedSettings, t.app.mounts.length = 1 → t.Fits := by
    intro t ht
    unfold Fits
    rw [ht]
    decide
  exact reaches_along .bigEndian (fun _ => { uuid := 0 }) .braced [{ uuid := 1 }] (by decide) (by decide) []
    [.reload, .user (.start 1), .reload] ⟨hone _ rfl, hone _ rfl, hone _ rfl, trivial⟩

end SharedSettings

end SeamlessSmb
