/-
# `Controller.Editing` — an edit against what happens meanwhile

A `MountEditor` works on a copy of the mount, taken when it was opened.  The list behind it stays
open to `start`, `stop` and `remove`, and accepting the editor writes the whole copy back, or
appends it where the mount is gone.

| source | here |
| :-- | :-- |
| `edit(id)` up to `accepted` | `Session`; whatever else happened before and between |
| the setters called on the editor | `Session.setters` |
| the members of `MountInfo` | `Member` |

**Proved here:** the edit comes out as its setters on the mount as it is stored by then, exactly if
the mount is still there and agrees with the copy wherever no setter was called
(`Session.amends_iff`).
-/
import SeamlessSmb.Controller.MountListModel

namespace SeamlessSmb

/-! ## Members and setters -/

/-- The members of a `MountInfo`. -/
inductive Member
  | rootDirectory | mountPoint | uncName | volname | caseSensitive | impersonateCallerUser
  | hasSeSecurityPrivilege | uuid | enabled | keepAlive | debug | cerr | singlethreaded | options

/-- The two have the same value there. -/
def Member.Agree (a b : MountInfo) : Member → Prop
  | .rootDirectory => a.rootDirectory = b.rootDirectory
  | .mountPoint => a.mountPoint = b.mountPoint
  | .uncName => a.uncName = b.uncName
  | .volname => a.volname = b.volname
  | .caseSensitive => a.caseSensitive = b.caseSensitive
  | .impersonateCallerUser => a.impersonateCallerUser = b.impersonateCallerUser
  | .hasSeSecurityPrivilege => a.hasSeSecurityPrivilege = b.hasSeSecurityPrivilege
  | .uuid => a.uuid = b.uuid
  | .enabled => a.enabled = b.enabled
  | .keepAlive => a.keepAlive = b.keepAlive
  | .debug => a.debug = b.debug
  | .cerr => a.cerr = b.cerr
  | .singlethreaded => a.singlethreaded = b.singlethreaded
  | .options => a.options = b.options

namespace Setter

/-- The member a setter is for. -/
def member : Setter → Member
  | .setRootDirectory _ => .rootDirectory
  | .setMountPoint _ => .mountPoint
  | .setUNCName _ => .uncName
  | .setVolname _ => .volname
  | .setCaseSensitive _ => .caseSensitive
  | .setImpersonateCallerUser _ => .impersonateCallerUser
  | .setEnabled _ => .enabled
  | .setKeepAlive _ => .keepAlive
  | .setDebug _ => .debug
  | .setSinglethreaded _ => .singlethreaded
  | .setOptions _ => .options

/-- All the setters, in the order they were called. -/
def applyAll (setters : List Setter) (info : MountInfo) : MountInfo := setters.foldl apply info

variable {a b : MountInfo} {c : Setter} {f : Member}

theorem agree_apply : c.member.Agree (c.apply a) (c.apply b) := by
  cases c <;> rfl

/-- A setter leaves the other members alone. -/
theorem agree_apply_of_ne (h : c.member ≠ f) :
    f.Agree (c.apply a) (c.apply b) ↔ f.Agree a b := by
  cases c <;> cases f <;> first | exact absurd rfl h | exact Iff.rfl

theorem agree_applyAll {setters : List Setter} :
    f.Agree (applyAll setters a) (applyAll setters b) ↔
      (∃ c ∈ setters, c.member = f) ∨ f.Agree a b := by
  induction setters generalizing a b with
  | nil => simp [applyAll]
  | cons c setters ih =>
    show f.Agree (applyAll setters (c.apply a)) (applyAll setters (c.apply b)) ↔ _
    rw [ih, List.exists_mem_cons_iff]
    by_cases hf : c.member = f
    · subst hf
      simp [agree_apply]
    · simp [agree_apply_of_ne hf, hf]

theorem eq_iff_agree : a = b ↔ ∀ f, Member.Agree a b f := by
  constructor
  · rintro rfl f
    cases f <;> rfl
  · intro h
    obtain ⟨⟩ := a
    obtain ⟨⟩ := b
    rw [MountInfo.mk.injEq]
    exact ⟨h .rootDirectory, h .mountPoint, h .uncName, h .volname, h .caseSensitive,
      h .impersonateCallerUser, h .hasSeSecurityPrivilege, h .uuid, h .enabled, h .keepAlive, h .debug,
      h .cerr, h .singlethreaded, h .options⟩

/-- Setters make the same of two mounts that agree wherever no setter is called. -/
theorem applyAll_eq_iff {setters : List Setter} :
    applyAll setters a = applyAll setters b ↔
      ∀ f, (∃ c ∈ setters, c.member = f) ∨ Member.Agree a b f := by
  rw [eq_iff_agree]
  exact forall_congr' fun f => agree_applyAll

theorem applyAll_uuid {setters : List Setter} : (applyAll setters a).uuid = a.uuid := by
  induction setters generalizing a with
  | nil => rfl
  | cons c setters ih => exact ih.trans (apply_uuid a c)

end Setter

/-! ## From opening to accepting -/

namespace ApplicationUI

/-- The editor is neither accepted nor rejected. -/
def Action.Meanwhile : Action → Prop
  | .accepted | .rejected => False
  | _ => True

/-- The setter called on an editor. -/
def Action.setter (e : Nat) : Action → Option Setter
  | .set e' c => if e' = e then some c else none
  | _ => none

/-- `e` is the editor that is open, with this `m_info`. -/
structure EditorOpen (s : ApplicationUI) (e : Nat) (info : MountInfo) : Prop where
  pointed : s.model.editor = some e
  holds : s.model.editors e = some info

/-- The list is stored as it is shown. -/
def Kept (s : ApplicationUI) : Prop := s.mounts = s.model.getModelList

variable {s : ApplicationUI} {e : Nat} {info : MountInfo}

theorem kept_setList {l : List MountInfoExt} : (s.setList l).Kept := rfl

theorem Kept.setModel (h : s.Kept) {m : MountListModel} (hm : m.modelList = s.model.modelList) :
    Kept { s with model := m } := by
  show s.mounts = m.modelList.map MountInfoExt.toMountInfo
  rw [hm]
  exact h

theorem Kept.switch (h : s.Kept) {id : BitVec 128} {enabled : Bool} : (s.switch id enabled).Kept := by
  obtain hs | ⟨row, -, hs⟩ := s.switch_cases id enabled
  · rwa [hs]
  · rw [hs]
    exact kept_setList

theorem kept_accept : (s.accept info).Kept := by
  obtain hs | ⟨-, hs⟩ := s.accept_cases info
  · rw [hs]
    exact kept_setList
  · rw [hs]
    exact kept_setList

/-- **One action** keeps the list stored, whatever the uuids are. -/
theorem Kept.act (h : s.Kept) (a : Action) : (s.act a).Kept := by
  cases a with
  | remove id =>
    show (s.remove id).Kept
    obtain hs | hs := s.remove_cases id
    · rwa [hs]
    · rw [hs]
      exact kept_setList
  | start id => exact h.switch
  | stop id => exact h.switch
  | edit id =>
    refine h.setModel ?_
    obtain hm | ⟨info, -, hm⟩ := s.model.edit_cases
    · rw [hm]
    · rw [hm]
      rfl
  | newMount uuid =>
    refine h.setModel ?_
    obtain hm | ⟨info, -, hm⟩ := s.model.newMount_cases
    · rw [hm]
    · rw [hm]
      rfl
  | setRunning id running => exact h.trans setRunning_sameButRunning.list.symm
  | set e c => exact h.setModel rfl
  | accepted =>
    show s.editaccepted.Kept
    obtain hs | ⟨e, info, -, hs⟩ := s.editaccepted_cases
    · rwa [hs]
    · rw [hs]
      exact kept_accept.setModel rfl
  | rejected =>
    refine h.setModel ?_
    obtain hm | ⟨e, -, hm⟩ := s.model.editrejected_cases
    · rw [hm]
    · rw [hm]
      rfl

theorem kept_init {stored : List MountInfo} : (init stored).Kept := by
  show stored = (stored.map MountInfoExt.ofInfo).map MountInfoExt.toMountInfo
  rw [List.map_map]
  exact (List.map_id stored).symm

theorem Kept.run (h : s.Kept) (actions : List Action) : (actions.foldl ApplicationUI.act s).Kept := by
  induction actions generalizing s with
  | nil => exact h
  | cons a actions ih => exact ih (h.act a)

theorem EditorOpen.switch (h : s.EditorOpen e info) {id : BitVec 128} {enabled : Bool} :
    (s.switch id enabled).EditorOpen e info := by
  obtain hs | ⟨row, -, hs⟩ := s.switch_cases id enabled
  · rwa [hs]
  · rw [hs]
    exact ⟨h.pointed, h.holds⟩

/-- While there is an editor no other is opened. -/
theorem EditorOpen.setModel (h : s.EditorOpen e info) {m : MountListModel}
    (hm : m = s.model ∨ ∃ info', s.model.editor = none ∧ m = s.model.openEditor info') :
    EditorOpen { s with model := m } e info := by
  obtain rfl | ⟨info', hnone, -⟩ := hm
  · exact h
  · rw [h.pointed] at hnone
    cases hnone

/-- **One action** other than its own end changes the editor by its setters only. -/
theorem EditorOpen.act (h : s.EditorOpen e info) {a : Action} (ha : a.Meanwhile) :
    (s.act a).EditorOpen e (Setter.applyAll (a.setter e).toList info) := by
  cases a with
  | remove id =>
    show (s.remove id).EditorOpen e info
    obtain hs | hs := s.remove_cases id
    · rwa [hs]
    · rw [hs]
      exact ⟨h.pointed, h.holds⟩
  | start id => exact h.switch
  | stop id => exact h.switch
  | edit id => exact h.setModel s.model.edit_cases
  | newMount uuid => exact h.setModel s.model.newMount_cases
  | setRunning id running => exact ⟨h.pointed, h.holds⟩
  | set e' c =>
    refine ⟨h.pointed, ?_⟩
    have hholds := h.holds
    by_cases he : e' = e
    · subst he
      simp [ApplicationUI.act, MountListModel.set, Action.setter, hholds, Setter.applyAll]
    · have hne : e ≠ e' := Ne.symm he
      simp [ApplicationUI.act, MountListModel.set, Action.setter, he, hne, hholds, Setter.applyAll]
  | accepted => exact ha.elim
  | rejected => exact ha.elim

theorem EditorOpen.run (h : s.EditorOpen e info) {actions : List Action}
    (ha : ∀ a ∈ actions, a.Meanwhile) :
    (actions.foldl ApplicationUI.act s).EditorOpen e
      (Setter.applyAll (actions.filterMap (Action.setter e)) info) := by
  induction actions generalizing s info with
  | nil => exact h
  | cons a actions ih =>
    have hrest := ih (h.act (ha a List.mem_cons_self)) fun b hb => ha b (List.mem_cons_of_mem a hb)
    cases hset : a.setter e with
    | none =>
      rw [hset] at hrest
      rwa [List.filterMap_cons_none hset]
    | some c =>
      rw [hset] at hrest
      rwa [List.filterMap_cons_some hset]

/-- The first stored mount of the uuid, if there is one, with the setters called on it. -/
def amend (setters : List Setter) (id : BitVec 128) (mounts : List MountInfo) : List MountInfo :=
  match Keyed.first MountInfo.uuid mounts id with
  | none => mounts
  | some info => Keyed.replace MountInfo.uuid id (Setter.applyAll setters info) mounts

/-- The application has run over some stored list, no editor is open, and the mount `id` is opened.
Then other things happen, and the editor is accepted. -/
structure Session where
  stored : List MountInfo
  earlier : List Action
  id : BitVec 128
  copied : MountInfoExt
  meanwhile : List Action
  closed : (earlier.foldl act (init stored)).model.editor = none
  found : Keyed.first MountListModel.rowUuid (earlier.foldl act (init stored)).model.modelList id =
    some copied
  open_ : ∀ a ∈ meanwhile, a.Meanwhile

namespace Session

/-- Before the mount is opened. -/
def start (w : Session) : ApplicationUI := w.earlier.foldl act (init w.stored)

/-- When the editor is accepted. -/
def atAccept (w : Session) : ApplicationUI := w.meanwhile.foldl act (w.start.act (.edit w.id))

/-- The setters that were called on the editor. -/
def setters (w : Session) : List Setter := w.meanwhile.filterMap (Action.setter w.start.model.next)

/-- The edit comes out as its setters on the mount as it is stored. -/
def Amends (w : Session) : Prop :=
  (w.atAccept.act .accepted).mounts = amend w.setters w.id w.atAccept.mounts

variable (w : Session)

theorem editorOpen : w.atAccept.EditorOpen w.start.model.next
    (Setter.applyAll w.setters w.copied.toMountInfo) := by
  have hopen : (w.start.act (.edit w.id)).EditorOpen w.start.model.next w.copied.toMountInfo := by
    have hclosed : w.start.model.editor = none := w.closed
    have hfound : Keyed.first MountListModel.rowUuid w.start.model.modelList w.id = some w.copied :=
      w.found
    show EditorOpen { w.start with model := w.start.model.edit w.id } _ _
    unfold MountListModel.edit
    rw [hclosed, hfound]
    exact ⟨rfl, Function.update_self _ _ _⟩
  exact hopen.run w.open_

theorem atAccept_kept : w.atAccept.Kept := ((kept_init.run w.earlier).act (.edit w.id)).run w.meanwhile

theorem edited_uuid : (Setter.applyAll w.setters w.copied.toMountInfo).uuid = w.id := by
  have hcopied : MountListModel.rowUuid w.copied = w.id := Keyed.first_key w.found
  exact Setter.applyAll_uuid.trans hcopied

/-- The stored list after the editor is accepted. -/
theorem accepted_mounts : (w.atAccept.act .accepted).mounts =
    if (Keyed.first MountInfo.uuid w.atAccept.mounts w.id).isSome then
      Keyed.replace MountInfo.uuid w.id (Setter.applyAll w.setters w.copied.toMountInfo) w.atAccept.mounts
    else w.atAccept.mounts ++ [Setter.applyAll w.setters w.copied.toMountInfo] := by
  have hlist : w.atAccept.mounts = w.atAccept.model.modelList.map MountInfoExt.toMountInfo :=
    w.atAccept_kept
  rw [hlist, Keyed.first_map, Option.isSome_map]
  show w.atAccept.editaccepted.mounts = _
  simp only [editaccepted, w.editorOpen.pointed, w.editorOpen.holds, accept, w.edited_uuid]
  cases hrow : Keyed.first MountListModel.rowUuid w.atAccept.model.modelList w.id with
  | none =>
    have hnone : Keyed.first (MountInfo.uuid ∘ MountInfoExt.toMountInfo) w.atAccept.model.modelList w.id =
        none := hrow
    rw [hnone]
    exact List.map_append
  | some row =>
    have hsome : Keyed.first (MountInfo.uuid ∘ MountInfoExt.toMountInfo) w.atAccept.model.modelList w.id =
        some row := hrow
    rw [hsome]
    exact Keyed.map_replace

theorem amends_iff (w : Session) :
    w.Amends ↔ ∃ info, Keyed.first MountInfo.uuid w.atAccept.mounts w.id = some info ∧
      ∀ f, (∃ c ∈ w.setters, c.member = f) ∨ Member.Agree w.copied.toMountInfo info f := by
  unfold Amends amend
  rw [w.accepted_mounts]
  cases hinfo : Keyed.first MountInfo.uuid w.atAccept.mounts w.id with
  | none => simp
  | some info =>
    have huuid : info.uuid = w.id := Keyed.first_key hinfo
    have hsome : (Keyed.first MountInfo.uuid w.atAccept.mounts w.id).isSome := by rw [hinfo]; rfl
    rw [Option.isSome_some, if_pos rfl,
      Keyed.replace_inj w.edited_uuid (Setter.applyAll_uuid.trans huuid) hsome,
      Setter.applyAll_eq_iff]
    simp

/-- The mount 1 is stopped while its `debug` is set in the editor. -/
def stopped : Session where
  stored := [{ uuid := 1, enabled := true }]
  earlier := []
  id := 1
  copied := { uuid := 1, enabled := true }
  meanwhile := [.stop 1, .set 0 (.setDebug true)]
  closed := rfl
  found := rfl
  open_ := by simp [Action.Meanwhile]

theorem not_amends : ¬ stopped.Amends := by
  intro h
  have henabled : ([true] : List Bool) = [false] := congrArg (List.map MountInfo.enabled) h
  cases henabled

end Session

end ApplicationUI

end SeamlessSmb
