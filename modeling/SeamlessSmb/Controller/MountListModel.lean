/-
# `MountListModel` — the list the user edits

The controller shows the stored mounts in a `MountListModel` and lets the user change them,
some directly and the rest in a `MountEditor`.  Whoever changes the list emits `edited`, and
`ApplicationUI::onModelModified` stores the list again.

| source | here |
| :-- | :-- |
| `MountListModel` | `MountListModel`; an editor is known by a number |
| `settings->value("Mounts")` | `ApplicationUI.mounts` |
| `MountEditor`, until `deleteLater` | an entry of `MountListModel.editors` |
| `emit edited()` | `ApplicationUI.onModelModified`, called on the spot |

The signals of an editor carry no editor: `editaccepted` and `editrejected` are about the one
the model points to, whichever emitted.

**Proved here:** the stored list is the one shown, its uuids differ, and no second editor is
open, in every state there is (`inOrder_along`).
-/
import SeamlessSmb.Mount
import SeamlessSmb.Lib.History
import SeamlessSmb.Lib.KeyedList

namespace SeamlessSmb

/-! ## Mount options as text -/

/-- A literal of ASCII characters as a `QString`. -/
def latin (cs : List Char) : CodeUnits := cs.map fun c => BitVec.ofNat 16 c.toNat

/-- The words of `MountOptionsConverter`. -/
def stringmappings : List (CodeUnits × DWORD) :=
  [ (latin "DOKAN_OPTION_DEBUG".toList, DOKAN_OPTION_DEBUG),
    (latin "DOKAN_OPTION_STDERR".toList, DOKAN_OPTION_STDERR),
    (latin "DOKAN_OPTION_ALT_STREAM".toList, DOKAN_OPTION_ALT_STREAM),
    (latin "DOKAN_OPTION_WRITE_PROTECT".toList, DOKAN_OPTION_WRITE_PROTECT),
    (latin "DOKAN_OPTION_NETWORK".toList, DOKAN_OPTION_NETWORK),
    (latin "DOKAN_OPTION_REMOVABLE".toList, DOKAN_OPTION_REMOVABLE),
    (latin "DOKAN_OPTION_MOUNT_MANAGER".toList, DOKAN_OPTION_MOUNT_MANAGER),
    (latin "DOKAN_OPTION_CURRENT_SESSION".toList, DOKAN_OPTION_CURRENT_SESSION),
    (latin "DOKAN_OPTION_FILELOCK_USER_MODE".toList, DOKAN_OPTION_FILELOCK_USER_MODE),
    (latin "DOKAN_OPTION_CASE_SENSITIVE".toList, DOKAN_OPTION_CASE_SENSITIVE),
    (latin "DOKAN_OPTION_ENABLE_UNMOUNT_NETWORK_DRIVE".toList,
      DOKAN_OPTION_ENABLE_UNMOUNT_NETWORK_DRIVE),
    (latin "DOKAN_OPTION_DISPATCH_DRIVER_LOGS".toList, DOKAN_OPTION_DISPATCH_DRIVER_LOGS) ]

/-- The class `[ ,;:\/|]`. -/
def optionSeparators : CodeUnits := latin [' ', ',', ';', ':', '/', '|']

/-- The unit is one of the two that stand for a character outside the basic plane. -/
def isSurrogate (c : BitVec 16) : Bool := decide (c &&& 0xF800 = 0xD800)

/-- `QString::isValidUtf16`: the surrogates come in pairs, the high one first. -/
def isValidUtf16 : CodeUnits → Bool
  | [] => true
  | [c] => !isSurrogate c
  | c :: d :: str =>
      if isSurrogate c = true then
        decide (c &&& 0xFC00 = 0xD800) && decide (d &&& 0xFC00 = 0xDC00) && isValidUtf16 str
      else isValidUtf16 (d :: str)

/-- `str.split(reg, Qt::SkipEmptyParts)`.  In a text that is not valid the expression matches
nothing. -/
def splitOptions (str : CodeUnits) : List CodeUnits :=
  (if isValidUtf16 str = true then str.splitOnP optionSeparators.contains else [str]).filter
    fun word => word ≠ []

/-- `MountOptionsConverter::convertStringToOptions`. -/
def convertStringToOptions (str : CodeUnits) : DWORD :=
  (splitOptions str).foldl (fun opt word => opt ||| (stringmappings.lookup word).getD 0) 0

/-! ## `MountEditor` -/

/-- The setters of a `MountEditor`, with what they are given. -/
inductive Setter
  | setRootDirectory (newRootDirectory : WString)
  | setMountPoint (newMountPoint : WString)
  | setUNCName (newUNCName : WString)
  | setVolname (newVolname : WString)
  | setCaseSensitive (newCaseSensitive : Bool)
  | setImpersonateCallerUser (newImpersonateCallerUser : Bool)
  | setEnabled (newEnabled : Bool)
  | setKeepAlive (newKeepAlive : Bool)
  | setDebug (newDebug : Bool)
  | setSinglethreaded (newSinglethreaded : Bool)
  | setOptions (newOptions : CodeUnits)

/-- What a setter does to `m_info`. -/
def Setter.apply (info : MountInfo) : Setter → MountInfo
  | .setRootDirectory v => { info with rootDirectory := v }
  | .setMountPoint v => { info with mountPoint := v }
  | .setUNCName v => { info with uncName := v }
  | .setVolname v => { info with volname := v }
  | .setCaseSensitive v => { info with caseSensitive := v }
  | .setImpersonateCallerUser v => { info with impersonateCallerUser := v }
  | .setEnabled v => { info with enabled := v }
  | .setKeepAlive v => { info with keepAlive := v }
  | .setDebug v => { info with debug := v }
  | .setSinglethreaded v => { info with singlethreaded := v }
  | .setOptions v => { info with options := convertStringToOptions v }

/-- No setter is for the uuid. -/
theorem Setter.apply_uuid (info : MountInfo) (c : Setter) : (c.apply info).uuid = info.uuid := by
  cases c <;> rfl

/-! ## The model -/

/-- `MountInfoExt`. -/
structure MountInfoExt extends MountInfo where
  running : Bool := false

/-- The constructor from a `MountInfo`. -/
def MountInfoExt.ofInfo (info : MountInfo) : MountInfoExt := { info with running := false }

/-- `MountListModel`.  `editors` are the `MountEditor` objects that were not given up, each
with its `m_info`, and `next` is the number of the next. -/
structure MountListModel where
  modelList : List MountInfoExt
  editors : Nat → Option MountInfo := fun _ => none
  next : Nat := 0
  editor : Option Nat := none

namespace MountListModel

/-- `getModelList`. -/
def getModelList (m : MountListModel) : List MountInfo := m.modelList.map MountInfoExt.toMountInfo

/-- The uuid of a row. -/
def rowUuid (row : MountInfoExt) : BitVec 128 := row.uuid

/-- `new MountEditor(info, this)`, kept in `editor`. -/
def openEditor (m : MountListModel) (info : MountInfo) : MountListModel :=
  { m with
    editors := Function.update m.editors m.next (some info)
    next := m.next + 1
    editor := some m.next }

/-- `editor->deleteLater(); editor = nullptr;` -/
def closeEditor (m : MountListModel) (e : Nat) : MountListModel :=
  { m with editors := Function.update m.editors e none, editor := none }

/-- `edit`. -/
def edit (m : MountListModel) (id : BitVec 128) : MountListModel :=
  match m.editor with
  | some _ => m
  | none =>
      match Keyed.first rowUuid m.modelList id with
      | none => m
      | some row => m.openEditor row.toMountInfo

/-- `newMount`; `uuid` is what `QUuid::createUuid` returns. -/
def newMount (m : MountListModel) (uuid : BitVec 128) : MountListModel :=
  match m.editor with
  | some _ => m
  | none => m.openEditor { uuid := uuid }

/-- A setter of one of the editors. -/
def set (m : MountListModel) (e : Nat) (c : Setter) : MountListModel :=
  { m with editors := Function.update m.editors e ((m.editors e).map fun info => c.apply info) }

/-- `setRunning`. -/
def setRunning (m : MountListModel) (id : BitVec 128) (running : Bool) : MountListModel :=
  { m with
    modelList := m.modelList.map fun row => if row.uuid = id then { row with running := running } else row }

/-- `editrejected`. -/
def editrejected (m : MountListModel) : MountListModel :=
  match m.editor with
  | none => m
  | some e => m.closeEditor e

section

variable {m : MountListModel} {id uuid : BitVec 128}

theorem edit_cases : m.edit id = m ∨ ∃ info, m.editor = none ∧ m.edit id = m.openEditor info := by
  unfold edit
  split
  · exact .inl rfl
  · next hnone =>
      split
      · exact .inl rfl
      · exact .inr ⟨_, hnone, rfl⟩

theorem newMount_cases :
    m.newMount uuid = m ∨ ∃ info, m.editor = none ∧ m.newMount uuid = m.openEditor info := by
  unfold newMount
  split
  · exact .inl rfl
  · next hnone => exact .inr ⟨_, hnone, rfl⟩

theorem editrejected_cases :
    m.editrejected = m ∨ ∃ e, m.editor = some e ∧ m.editrejected = m.closeEditor e := by
  unfold editrejected
  split
  · exact .inl rfl
  · next e he => exact .inr ⟨e, he, rfl⟩

end

end MountListModel

/-! ## The application -/

/-- `ApplicationUI`, as far as it stores the list. -/
structure ApplicationUI where
  model : MountListModel
  mounts : List MountInfo

namespace ApplicationUI

/-- The constructor: the model gets what is stored. -/
def init (stored : List MountInfo) : ApplicationUI where
  model := { modelList := stored.map MountInfoExt.ofInfo }
  mounts := stored

/-- `onModelModified`, up to `sync`. -/
def onModelModified (s : ApplicationUI) : ApplicationUI := { s with mounts := s.model.getModelList }

/-- The list is assigned to and `edited` is emitted. -/
def setList (s : ApplicationUI) (modelList : List MountInfoExt) : ApplicationUI :=
  { s with model := { s.model with modelList := modelList } }.onModelModified

/-- `remove`. -/
def remove (s : ApplicationUI) (id : BitVec 128) : ApplicationUI :=
  match Keyed.first MountListModel.rowUuid s.model.modelList id with
  | none => s
  | some _ => s.setList (Keyed.erase MountListModel.rowUuid id s.model.modelList)

/-- `stop` and `start`: the first entry of the uuid is switched. -/
def switch (s : ApplicationUI) (id : BitVec 128) (enabled : Bool) : ApplicationUI :=
  match Keyed.first MountListModel.rowUuid s.model.modelList id with
  | none => s
  | some row =>
      s.setList (Keyed.replace MountListModel.rowUuid id { row with enabled := enabled } s.model.modelList)

def stop (s : ApplicationUI) (id : BitVec 128) : ApplicationUI := s.switch id false

def start (s : ApplicationUI) (id : BitVec 128) : ApplicationUI := s.switch id true

/-- The loop of `editaccepted`, and what follows if it changed nothing. -/
def accept (s : ApplicationUI) (info : MountInfo) : ApplicationUI :=
  let row := MountInfoExt.ofInfo info
  match Keyed.first MountListModel.rowUuid s.model.modelList info.uuid with
  | some _ => s.setList (Keyed.replace MountListModel.rowUuid info.uuid row s.model.modelList)
  | none => s.setList (s.model.modelList ++ [row])

/-- `editaccepted`. -/
def editaccepted (s : ApplicationUI) : ApplicationUI :=
  match s.model.editor with
  | none => s
  | some e =>
      match s.model.editors e with
      | none => s
      | some info =>
          let s := s.accept info
          { s with model := s.model.closeEditor e }

/-- What the user does, an editor signals, or the client reports. -/
inductive Action
  | remove (id : BitVec 128)
  | start (id : BitVec 128)
  | stop (id : BitVec 128)
  | edit (id : BitVec 128)
  | newMount (uuid : BitVec 128)
  | setRunning (id : BitVec 128) (running : Bool)
  | set (e : Nat) (c : Setter)
  | accepted
  | rejected

def act (s : ApplicationUI) : Action → ApplicationUI
  | .remove id => s.remove id
  | .start id => s.start id
  | .stop id => s.stop id
  | .edit id => { s with model := s.model.edit id }
  | .newMount uuid => { s with model := s.model.newMount uuid }
  | .setRunning id running => { s with model := s.model.setRunning id running }
  | .set e c => { s with model := s.model.set e c }
  | .accepted => s.editaccepted
  | .rejected => { s with model := s.model.editrejected }

/-! ## What holds of every state -/

/-- The list is stored as it is shown, its uuids differ, and of the editors there is one. -/
structure InOrder (s : ApplicationUI) : Prop where
  uuids : Keyed.Distinct MountListModel.rowUuid s.model.modelList
  stored : s.mounts = s.model.getModelList
  oneEditor : ∀ e e', (s.model.editors e).isSome → (s.model.editors e').isSome → e = e'

/-- The two differ in running flags at most. -/
structure SameButRunning (s s' : ApplicationUI) : Prop where
  list : s'.model.getModelList = s.model.getModelList
  editors : s'.model.editors = s.model.editors
  editor : s'.model.editor = s.model.editor
  mounts : s'.mounts = s.mounts

/-- `InOrder`, and the model points to the editor that is open. -/
structure Inv (s : ApplicationUI) : Prop where
  uuids : Keyed.Distinct MountListModel.rowUuid s.model.modelList
  stored : s.mounts = s.model.getModelList
  pointed : ∀ e, (s.model.editors e).isSome → s.model.editor = some e

section

variable {s : ApplicationUI} {id uuid : BitVec 128} {running enabled : Bool} {info : MountInfo}
  {l : List MountInfoExt} {m : MountListModel}

theorem Inv.inOrder (hi : s.Inv) : s.InOrder := by
  refine ⟨hi.uuids, hi.stored, ?_⟩
  intro e e' he he'
  exact Option.some.inj ((hi.pointed e he).symm.trans (hi.pointed e' he'))

theorem init_inv {stored : List MountInfo} (hu : (stored.map MountInfo.uuid).Nodup) :
    (init stored).Inv := by
  refine ⟨?_, ?_, ?_⟩
  · show ((stored.map MountInfoExt.ofInfo).map MountListModel.rowUuid).Nodup
    rw [List.map_map]
    exact hu
  · show stored = (stored.map MountInfoExt.ofInfo).map MountInfoExt.toMountInfo
    rw [List.map_map]
    exact (List.map_id stored).symm
  · intro e he
    cases he

/-- Whoever assigns a list of different uuids stores it. -/
theorem Inv.setList (hi : s.Inv) (hl : Keyed.Distinct MountListModel.rowUuid l) : (s.setList l).Inv :=
  ⟨hl, rfl, hi.pointed⟩

theorem remove_cases (s : ApplicationUI) (id : BitVec 128) : s.remove id = s ∨
    s.remove id = s.setList (Keyed.erase MountListModel.rowUuid id s.model.modelList) := by
  unfold ApplicationUI.remove
  split
  · exact .inl rfl
  · exact .inr rfl

theorem switch_cases (s : ApplicationUI) (id : BitVec 128) (enabled : Bool) : s.switch id enabled = s ∨
    ∃ row, MountListModel.rowUuid row = id ∧
      s.switch id enabled = s.setList (Keyed.replace MountListModel.rowUuid id row s.model.modelList) := by
  unfold ApplicationUI.switch
  split
  · exact .inl rfl
  · next row hrow =>
      have hid : MountListModel.rowUuid row = id := Keyed.first_key hrow
      exact .inr ⟨{ row with enabled := enabled }, hid, rfl⟩

theorem Inv.remove (hi : s.Inv) : (s.remove id).Inv := by
  obtain h | h := s.remove_cases id
  · rwa [h]
  · rw [h]
    exact hi.setList hi.uuids.erase

theorem Inv.switch (hi : s.Inv) : (s.switch id enabled).Inv := by
  obtain h | ⟨row, hid, h⟩ := s.switch_cases id enabled
  · rwa [h]
  · rw [h]
    exact hi.setList (hi.uuids.replace hid)

/-- Changes to the editors leave the list alone. -/
theorem Inv.setModel (hi : s.Inv) (hl : m.modelList = s.model.modelList)
    (he : ∀ e, (m.editors e).isSome → m.editor = some e) : Inv { s with model := m } := by
  refine ⟨?_, ?_, he⟩
  · show Keyed.Distinct MountListModel.rowUuid m.modelList
    rw [hl]
    exact hi.uuids
  · show s.mounts = m.modelList.map MountInfoExt.toMountInfo
    rw [hl]
    exact hi.stored

/-- Without an editor a new one is the only one. -/
theorem Inv.openEditor (hi : s.Inv) (hnone : s.model.editor = none) :
    Inv { s with model := s.model.openEditor info } := by
  refine hi.setModel rfl ?_
  intro e he
  by_cases hnew : e = s.model.next
  · rw [hnew]
    rfl
  · have hold : (s.model.editors e).isSome := by
      simpa [MountListModel.openEditor, Function.update_of_ne hnew] using he
    rw [hi.pointed e hold] at hnone
    cases hnone

/-- The editor pointed to is the last one. -/
theorem Inv.closeEditor (hi : s.Inv) {e : Nat} (hsome : s.model.editor = some e) :
    Inv { s with model := s.model.closeEditor e } := by
  refine hi.setModel rfl ?_
  intro e' he'
  by_cases hsame : e' = e
  · simp [MountListModel.closeEditor, hsame] at he'
  · have hold : (s.model.editors e').isSome := by
      simpa [MountListModel.closeEditor, Function.update_of_ne hsame] using he'
    exact absurd (Option.some.inj ((hi.pointed e' hold).symm.trans hsome)) hsame

theorem Inv.edit (hi : s.Inv) : Inv { s with model := s.model.edit id } := by
  obtain h | ⟨info, hnone, h⟩ := s.model.edit_cases
  · rwa [h]
  · rw [h]
    exact hi.openEditor hnone

theorem Inv.newMount (hi : s.Inv) : Inv { s with model := s.model.newMount uuid } := by
  obtain h | ⟨info, hnone, h⟩ := s.model.newMount_cases
  · rwa [h]
  · rw [h]
    exact hi.openEditor hnone

theorem Inv.set (hi : s.Inv) {e : Nat} {c : Setter} : Inv { s with model := s.model.set e c } := by
  refine hi.setModel rfl ?_
  intro e' he'
  by_cases hsame : e' = e
  · refine hi.pointed e' ?_
    simpa [MountListModel.set, hsame] using he'
  · refine hi.pointed e' ?_
    simpa [MountListModel.set, Function.update_of_ne hsame] using he'

/-- An accepted mount takes the place of the one with its uuid, or is new at the end. -/
theorem accept_cases (s : ApplicationUI) (info : MountInfo) :
    s.accept info = s.setList (Keyed.replace MountListModel.rowUuid info.uuid (.ofInfo info)
      s.model.modelList) ∨
    Keyed.first MountListModel.rowUuid s.model.modelList info.uuid = none ∧
      s.accept info = s.setList (s.model.modelList ++ [.ofInfo info]) := by
  unfold ApplicationUI.accept
  split
  · exact .inl rfl
  · next hnew => exact .inr ⟨hnew, rfl⟩

theorem editaccepted_cases : s.editaccepted = s ∨ ∃ e info, s.model.editor = some e ∧
    s.editaccepted = { s.accept info with model := (s.accept info).model.closeEditor e } := by
  unfold ApplicationUI.editaccepted
  split
  · exact .inl rfl
  · next e he =>
      split
      · exact .inl rfl
      · exact .inr ⟨e, _, he, rfl⟩

theorem Inv.accept (hi : s.Inv) : (s.accept info).Inv := by
  obtain h | ⟨hnew, h⟩ := s.accept_cases info
  · rw [h]
    exact hi.setList (hi.uuids.replace rfl)
  · rw [h]
    refine hi.setList ?_
    show ((s.model.modelList ++ [MountInfoExt.ofInfo info]).map MountListModel.rowUuid).Nodup
    rw [List.map_append, List.map_singleton, ← List.concat_eq_append]
    refine List.Nodup.concat ?_ hi.uuids
    intro hm
    obtain ⟨row, hr, hu⟩ := List.mem_map.mp hm
    exact Keyed.first_eq_none.mp hnew row hr hu

theorem accept_editor : (s.accept info).model.editor = s.model.editor := by
  obtain h | ⟨-, h⟩ := s.accept_cases info
  · rw [h]
    rfl
  · rw [h]
    rfl

theorem Inv.editaccepted (hi : s.Inv) : s.editaccepted.Inv := by
  obtain h | ⟨e, info, he, h⟩ := s.editaccepted_cases
  · rwa [h]
  · rw [h]
    exact hi.accept.closeEditor (accept_editor.trans he)

theorem Inv.editrejected (hi : s.Inv) : Inv { s with model := s.model.editrejected } := by
  obtain h | ⟨e, he, h⟩ := s.model.editrejected_cases
  · rwa [h]
  · rw [h]
    exact hi.closeEditor he

/-- Running flags are no part of what is stored. -/
theorem setRunning_sameButRunning :
    SameButRunning s { s with model := s.model.setRunning id running } := by
  refine ⟨?_, rfl, rfl, rfl⟩
  show (s.model.modelList.map _).map MountInfoExt.toMountInfo = s.model.modelList.map MountInfoExt.toMountInfo
  rw [List.map_map]
  refine List.map_congr_left ?_
  intro row _
  show (ite _ _ _ : MountInfoExt).toMountInfo = row.toMountInfo
  split <;> rfl

theorem Inv.setRunning (hi : s.Inv) : Inv { s with model := s.model.setRunning id running } := by
  have hsame : SameButRunning s { s with model := s.model.setRunning id running } :=
    setRunning_sameButRunning
  refine ⟨?_, hi.stored.trans hsame.list.symm, hi.pointed⟩
  have huuids : ∀ l : List MountInfoExt,
      l.map MountListModel.rowUuid = (l.map MountInfoExt.toMountInfo).map MountInfo.uuid := by
    intro l
    rw [List.map_map]
    rfl
  have hlist := congrArg (List.map MountInfo.uuid) hsame.list
  show ((s.model.setRunning id running).modelList.map MountListModel.rowUuid).Nodup
  rw [huuids, show (s.model.setRunning id running).modelList.map MountInfoExt.toMountInfo =
    s.model.modelList.map MountInfoExt.toMountInfo from hsame.list, ← huuids]
  exact hi.uuids

/-- **One action** keeps the model in order. -/
theorem Inv.act (hi : s.Inv) (a : Action) : (s.act a).Inv := by
  cases a with
  | remove id => exact hi.remove
  | start id => exact hi.switch
  | stop id => exact hi.switch
  | edit id => exact hi.edit
  | newMount uuid => exact hi.newMount
  | setRunning id running => exact hi.setRunning
  | set e c => exact hi.set
  | accepted => exact hi.editaccepted
  | rejected => exact hi.editrejected

end

/-- **The edited list.**  From a stored list of different uuids, whatever the user does, the
list shown is the one stored, its uuids differ, at most one editor is open, and `setRunning`
changes running flags only.  New uuids need not be fresh for that. -/
theorem inOrder_along (stored : List MountInfo) (hu : (stored.map MountInfo.uuid).Nodup)
    (actions : List Action) :
    InOrder (init stored) ∧
      History.Along
        (fun s a s' => InOrder s' ∧ ∀ id running, a = .setRunning id running → SameButRunning s s')
        (init stored) (History.trace act (init stored) actions) := by
  refine ⟨(init_inv hu).inOrder, ?_⟩
  refine History.Path.along_all (I := Inv) ?_ (init_inv hu) (History.path_trace actions _)
  rintro s a _ hi rfl
  refine ⟨⟨(hi.act a).inOrder, ?_⟩, hi.act a⟩
  rintro id running rfl
  exact setRunning_sameButRunning

/-- A mount is removed while it is edited, and comes back with the edit. -/
theorem inOrder_along_removed :
    ([({ uuid := 1 } : MountInfo), { uuid := 2 }].map MountInfo.uuid).Nodup ∧
      InOrder (init [{ uuid := 1 }, { uuid := 2 }]) ∧
      History.Along
        (fun s a s' => InOrder s' ∧ ∀ id running, a = .setRunning id running → SameButRunning s s')
        (init [{ uuid := 1 }, { uuid := 2 }])
        (History.trace act (init [{ uuid := 1 }, { uuid := 2 }])
          [.edit 1, .setRunning 1 true, .remove 1, .set 0 (.setDebug true), .accepted]) :=
  ⟨by decide, inOrder_along [{ uuid := 1 }, { uuid := 2 }] (by decide) _⟩

end ApplicationUI

end SeamlessSmb
