/-
# `Controller.View` — what the list view shows

`MountListModel` is a `QAbstractListModel`: the view in `main.qml` keeps the rows it has, and changes
them by what the slots announce with `beginRemoveRows`, `beginInsertRows` and `beginResetModel`.

| slot | notices |
| :-- | :-- |
| `remove` | the row of the uuid, if there is one |
| `start`, `stop`, `editaccepted` | a reset |
| `setRunning` | a reset for each row it changes |
| `insertRows` | one row at the end, whatever it is asked for |
| `removeRows` | from the row to row 1 |

What the view shows of a row is what `data` returns for it; the fields of a row by their roles are one
thing here.

**Proved here:** the view shows the list after every slot exactly if `removeRows`, which nothing in the
controller calls, is called for row 1 or for no row there is (`mirrored_along_iff`).
-/
import SeamlessSmb.Controller.MountListModel
import SeamlessSmb.Lib.Rows

namespace SeamlessSmb

open Rows

/-- What `data` returns: the fields of a row, `QVariant()`, or what is behind the list. -/
inductive RowData
  | row (info : MountInfoExt)
  | invalid
  | outside

/-- `MountListModel::data`. -/
def MountListModel.data (modelList : List MountInfoExt) (row : ℕ) : RowData :=
  if row > modelList.length then .invalid
  else
    match modelList[row]? with
    | some info => .row info
    | none => .outside

/-- A row that is there is answered with. -/
theorem MountListModel.answers_data (modelList : List MountInfoExt) :
    Answers RowData.row modelList (MountListModel.data modelList) := by
  intro i info h
  have hi : i < modelList.length := by
    by_contra hi
    rw [List.getElem?_eq_none (Nat.le_of_not_lt hi)] at h
    cases h
  unfold data
  rw [if_neg (Nat.not_lt.mpr (Nat.le_of_lt hi)), h]

namespace ApplicationUI

/-- A notice, the number of rows when it is announced, and the list when it is given. -/
structure Told where
  size : ℕ
  notice : Notice
  modelList : List MountInfoExt

/-- The lists `setRunning` resets to, one for each row it changes. -/
def runningResets (id : BitVec 128) (running : Bool) :
    (before rest : List MountInfoExt) → List (List MountInfoExt)
  | _, [] => []
  | before, row :: rest =>
      if row.uuid = id ∧ row.running ≠ running then
        let changed := { row with running := running }
        (before ++ changed :: rest) :: runningResets id running (before ++ [changed]) rest
      else runningResets id running (before ++ [row]) rest

/-- `beginResetModel`, and `endResetModel` when the slot is through. -/
def resets (s s' : ApplicationUI) : List Told :=
  [⟨s.model.modelList.length, .reset, s'.model.modelList⟩]

/-- `beginRemoveRows(model, i, i)` for the first row of the uuid. -/
def removes (s : ApplicationUI) (id : BitVec 128) : List Told :=
  match Keyed.first MountListModel.rowUuid s.model.modelList id with
  | none => []
  | some _ =>
      let i := s.model.modelList.findIdx fun row => row.uuid = id
      [⟨s.model.modelList.length, .removed i i, (s.remove id).model.modelList⟩]

/-- `editaccepted` announces nothing without an editor. -/
def accepts (s : ApplicationUI) : List Told :=
  match s.model.editor with
  | none => []
  | some _ => s.resets s.editaccepted

/-- What the slots announce. -/
def told (s : ApplicationUI) : Action → List Told
  | .remove id => s.removes id
  | .start id => s.resets (s.start id)
  | .stop id => s.resets (s.stop id)
  | .setRunning id running =>
      (runningResets id running [] s.model.modelList).map fun l =>
        ⟨s.model.modelList.length, .reset, l⟩
  | .accepted => s.accepts
  | .edit _ | .newMount _ | .set _ _ | .rejected => []

end ApplicationUI

/-- The application and what the view shows. -/
structure Viewed where
  app : ApplicationUI
  view : List RowData

namespace Viewed

inductive Action
  | slot (a : ApplicationUI.Action)
  /-- `uuid` is that of the `MountInfoExt()` that is appended. -/
  | insertRows (uuid : BitVec 128)
  /-- `left` is what becomes of the list if the row is negative, which is not defined. -/
  | removeRows (row : ℤ) (left : List MountInfoExt)

def list (s : Viewed) : List MountInfoExt := s.app.model.modelList

def setList (s : Viewed) (modelList : List MountInfoExt) : ApplicationUI :=
  { s.app with model := { s.app.model with modelList := modelList } }

/-- What becomes of the application, and what is announced. -/
def slot (s : Viewed) : Action → ApplicationUI × List ApplicationUI.Told
  | .slot a => (s.app.act a, s.app.told a)
  | .insertRows uuid =>
      let modelList := s.list ++ [{ uuid := uuid }]
      (s.setList modelList, [⟨s.list.length, .inserted s.list.length s.list.length, modelList⟩])
  | .removeRows row left =>
      if row ≥ s.list.length then (s.app, [])
      else
        let modelList := if 0 ≤ row then s.list.eraseIdx row.toNat else left
        (s.setList modelList, [⟨s.list.length, .removed row 1, modelList⟩])

/-- The view follows. -/
def follow (view : List RowData) (t : ApplicationUI.Told) : List RowData :=
  t.notice.follow t.modelList.length (MountListModel.data t.modelList) view

def act (s : Viewed) (a : Action) : Viewed where
  app := (s.slot a).1
  view := (s.slot a).2.foldl follow s.view

/-- The constructors: the view asks for everything. -/
def start (stored : List MountInfo) : Viewed where
  app := .init stored
  view := (stored.map MountInfoExt.ofInfo).map .row

/-- The view shows the rows of the list. -/
def Mirrored (s : Viewed) : Prop := s.view = s.list.map .row

/-- The notices of a slot keep what they promise, and the view shows the list after it. -/
def Mirrors (s : Viewed) (a : Action) (s' : Viewed) : Prop :=
  (∀ t ∈ (s.slot a).2, t.notice.Proper t.size) ∧ s'.Mirrored

/-- `removeRows` is called for row 1, or for no row there is. -/
def RemovesProperly (s : Viewed) (a : Action) (_ : Viewed) : Prop :=
  ∀ row left, a = .removeRows row left → row ≥ s.list.length ∨ row = 1

/-! ## The slots -/

section

variable {s : Viewed} {view : List RowData} {modelList l : List MountInfoExt} {id : BitVec 128}
  {running : Bool} {size : ℕ}

theorem follow_reset (view : List RowData) : follow view ⟨size, .reset, modelList⟩ = modelList.map .row :=
  Rows.follow_reset (MountListModel.answers_data modelList)

/-- The row `remove` announces is the one that goes. -/
theorem erase_eq_eraseIdx : Keyed.erase MountListModel.rowUuid id l =
    l.eraseIdx (l.findIdx fun row => row.uuid = id) := by
  induction l with
  | nil => rfl
  | cons row l ih =>
      rw [List.findIdx_cons]
      by_cases hid : row.uuid = id
      · rw [decide_eq_true hid]
        exact if_pos hid
      · rw [decide_eq_false hid]
        show (if row.uuid = id then l else row :: Keyed.erase MountListModel.rowUuid id l) = _
        rw [if_neg hid, ih]
        rfl

theorem findIdx_lt {row : MountInfoExt} (h : Keyed.first MountListModel.rowUuid l id = some row) :
    l.findIdx (fun row => row.uuid = id) < l.length := by
  have hid : MountListModel.rowUuid row = id := Keyed.first_key h
  exact List.findIdx_lt_length_of_exists ⟨row, Keyed.first_mem h, decide_eq_true hid⟩

/-- Of some resets it is the last that counts. -/
theorem foldl_resets {lists : List (List MountInfoExt)} :
    ∀ {view : List RowData}, (lists.map fun l => (⟨size, .reset, l⟩ : ApplicationUI.Told)).foldl follow view =
      (lists.getLast?.map (List.map RowData.row)).getD view := by
  induction lists with
  | nil =>
      intro view
      rfl
  | cons l lists ih =>
      intro view
      rw [List.map_cons, List.foldl_cons, follow_reset, ih]
      cases lists with
      | nil => rfl
      | cons l' lists => rfl

/-- The loop of `setRunning`: the last reset is to the list it leaves, and without one it leaves the
list as it was. -/
theorem runningResets_last {rest : List MountInfoExt} :
    ∀ before : List MountInfoExt,
      let after := rest.map fun row => if row.uuid = id then { row with running := running } else row
      (ApplicationUI.runningResets id running before rest = [] ∧ after = rest) ∨
        (ApplicationUI.runningResets id running before rest).getLast? = some (before ++ after) := by
  induction rest with
  | nil =>
      intro before
      exact .inl ⟨rfl, rfl⟩
  | cons row rest ih =>
      intro before
      unfold ApplicationUI.runningResets
      simp only [List.map_cons]
      split
      · next hchanged =>
          rw [if_pos hchanged.1]
          rcases ih (before ++ [{ row with running := running }]) with ⟨hnone, hsame⟩ | hlast
          · rw [hnone, hsame]
            exact .inr rfl
          · refine .inr ?_
            rw [List.getLast?_cons, hlast]
            simp
      · next hkept =>
          have hrow : (if row.uuid = id then { row with running := running } else row) = row := by
            split
            · next hid =>
                have hrunning : row.running = running := by
                  by_contra hne
                  exact hkept ⟨hid, hne⟩
                rw [← hrunning]
            · rfl
          rw [hrow]
          rcases ih (before ++ [row]) with ⟨hnone, hsame⟩ | hlast
          · rw [hnone, hsame]
            exact .inl ⟨rfl, rfl⟩
          · refine .inr ?_
            rw [hlast]
            simp

/-- From what it shows now, the notices take the view to the list. -/
def Announces (told : List ApplicationUI.Told) (view : List RowData) (modelList : List MountInfoExt) : Prop :=
  (∀ t ∈ told, t.notice.Proper t.size) ∧ told.foldl follow view = modelList.map .row

theorem mirrors_act {a : Action} : Mirrors s a (s.act a) ↔
    Announces (s.slot a).2 s.view (s.slot a).1.model.modelList := Iff.rfl

/-- A slot that announces nothing and keeps the list. -/
theorem announces_nothing (hm : s.Mirrored) (hlist : l = s.list) : Announces [] s.view l := by
  refine ⟨fun t ht => absurd ht List.not_mem_nil, ?_⟩
  rw [hlist]
  exact hm

/-- A slot that resets. -/
theorem announces_resets {app app' : ApplicationUI} :
    Announces (app.resets app') view app'.model.modelList := by
  constructor
  · intro t ht
    cases List.mem_singleton.mp ht
    trivial
  · exact follow_reset view

theorem announces_removes (hm : s.Mirrored) :
    Announces (s.app.removes id) s.view (s.app.remove id).model.modelList := by
  unfold ApplicationUI.removes ApplicationUI.remove
  cases hfirst : Keyed.first MountListModel.rowUuid s.app.model.modelList id with
  | none => exact announces_nothing hm rfl
  | some row =>
      constructor
      · intro t ht
        cases List.mem_singleton.mp ht
        exact ⟨Int.natCast_nonneg _, Int.le_refl _, Int.ofNat_lt.mpr (findIdx_lt hfirst)⟩
      · let i := s.list.findIdx fun row => row.uuid = id
        let modelList := Keyed.erase MountListModel.rowUuid id s.list
        show follow s.view ⟨s.list.length, .removed i i, modelList⟩ = modelList.map .row
        have hlist : modelList = s.list.eraseIdx i := erase_eq_eraseIdx
        rw [hm, hlist]
        exact follow_removed

theorem announces_running (hm : s.Mirrored) :
    Announces (s.app.told (.setRunning id running)) s.view (s.app.model.setRunning id running).modelList := by
  constructor
  · intro t ht
    obtain ⟨l, -, rfl⟩ := List.mem_map.mp ht
    trivial
  · refine foldl_resets.trans ?_
    have hloop : (ApplicationUI.runningResets id running [] s.app.model.modelList = [] ∧
        (s.app.model.setRunning id running).modelList = s.app.model.modelList) ∨
          (ApplicationUI.runningResets id running [] s.app.model.modelList).getLast? =
            some (s.app.model.setRunning id running).modelList := runningResets_last []
    rcases hloop with ⟨hnone, hsame⟩ | hlast
    · rw [hnone, hsame]
      exact hm
    · rw [hlast]
      rfl

theorem announces_accepts (hm : s.Mirrored) :
    Announces s.app.accepts s.view s.app.editaccepted.model.modelList := by
  unfold ApplicationUI.accepts
  cases heditor : s.app.model.editor with
  | none =>
      refine announces_nothing hm ?_
      unfold ApplicationUI.editaccepted
      rw [heditor]
      rfl
  | some e => exact announces_resets

/-- Opening and closing an editor leaves the list alone. -/
theorem edit_list : (s.app.model.edit id).modelList = s.list := by
  obtain h | ⟨info, -, h⟩ := s.app.model.edit_cases
  · rw [h]
    rfl
  · rw [h]
    rfl

theorem newMount_list : (s.app.model.newMount id).modelList = s.list := by
  obtain h | ⟨info, -, h⟩ := s.app.model.newMount_cases
  · rw [h]
    rfl
  · rw [h]
    rfl

theorem editrejected_list : s.app.model.editrejected.modelList = s.list := by
  obtain h | ⟨e, -, h⟩ := s.app.model.editrejected_cases
  · rw [h]
    rfl
  · rw [h]
    rfl

/-- `removeRows` names the rows from the one it removes to row 1. -/
theorem announces_removeRows_iff {row : ℤ} {left : List MountInfoExt} (hm : s.Mirrored) :
    Mirrors s (.removeRows row left) (s.act (.removeRows row left)) ↔ row ≥ s.list.length ∨ row = 1 := by
  rw [mirrors_act]
  by_cases hrow : row ≥ s.list.length
  · have hslot : s.slot (.removeRows row left) = (s.app, []) := if_pos hrow
    rw [hslot]
    exact iff_of_true (announces_nothing hm rfl) (.inl hrow)
  · have hslot : s.slot (.removeRows row left) =
        (s.setList (if 0 ≤ row then s.list.eraseIdx row.toNat else left),
          [⟨s.list.length, .removed row 1, if 0 ≤ row then s.list.eraseIdx row.toNat else left⟩]) :=
      if_neg hrow
    rw [hslot, or_iff_right hrow]
    by_cases hneg : 0 ≤ row
    · lift row to ℕ using hneg with row
      have hlt : row < s.list.length := Int.ofNat_lt.mp (Int.not_le.mp hrow)
      have hremoved : (Notice.removed row 1).Proper s.list.length ∧
          follow (s.list.map .row) ⟨s.list.length, .removed row 1, s.list.eraseIdx row⟩ =
            (s.list.eraseIdx row).map .row ↔ (1 : ℤ) = row := follow_removed_iff hlt
      rw [if_pos (Int.natCast_nonneg row), Int.toNat_natCast, eq_comm (a := (row : ℤ)), ← hremoved, ← hm]
      constructor
      · rintro ⟨hproper, hfollow⟩
        exact ⟨hproper _ List.mem_cons_self, hfollow⟩
      · rintro ⟨hproper, hfollow⟩
        refine ⟨?_, hfollow⟩
        intro t ht
        cases List.mem_singleton.mp ht
        exact hproper
    · -- the first of the rows named is none
      refine iff_of_false (fun h => ?_) fun h => by omega
      exact hneg (h.1 _ List.mem_cons_self).1

/-- **One slot.** -/
theorem mirrors_iff (hm : s.Mirrored) (a : Action) :
    Mirrors s a (s.act a) ↔ RemovesProperly s a (s.act a) := by
  cases a with
  | slot a =>
      refine iff_of_true (mirrors_act.mpr ?_) fun row left h => by cases h
      cases a with
      | remove id => exact announces_removes hm
      | start id => exact announces_resets
      | stop id => exact announces_resets
      | setRunning id running => exact announces_running hm
      | edit id => exact announces_nothing hm edit_list
      | newMount uuid => exact announces_nothing hm newMount_list
      | set e c => exact announces_nothing hm rfl
      | accepted => exact announces_accepts hm
      | rejected => exact announces_nothing hm editrejected_list
  | insertRows uuid =>
      refine iff_of_true (mirrors_act.mpr ⟨?_, ?_⟩) fun row left h => by cases h
      · intro t ht
        cases List.mem_singleton.mp ht
        exact ⟨Nat.le_refl _, Nat.le_refl _⟩
      · let modelList : List MountInfoExt := s.list ++ [{ uuid := uuid }]
        show follow s.view ⟨s.list.length, .inserted s.list.length s.list.length, modelList⟩ =
          modelList.map .row
        rw [hm]
        exact follow_inserted (MountListModel.answers_data modelList)
  | removeRows row left =>
      rw [announces_removeRows_iff hm]
      constructor
      · rintro h _ _ ⟨⟩
        exact h
      · exact fun h => h row left rfl

end

/-- **The view.**  However slots follow on each other, the view shows the list after each of them, by
notices that keep what they promise, exactly if each call of `removeRows` is refused or for row 1. -/
theorem mirrored_along_iff (stored : List MountInfo) (actions : List Action) :
    History.Along Mirrors (start stored) (History.trace act (start stored) actions) ↔
      History.Along RemovesProperly (start stored) (History.trace act (start stored) actions) := by
  refine History.Path.along_iff (I := Mirrored) ?_ ?_ rfl (History.path_trace actions _)
  · rintro s a _ hm rfl
    exact mirrors_iff hm a
  · rintro s a _ - rfl h
    exact h.2

end Viewed

end SeamlessSmb
