/-
# `Daemon` — reloading the stored mounts

The service runs one process for each mount.  When the stored list changes,
`reloadMounts` compares it with the list of running mounts, uuid by uuid, and makes
three lists of the differences: what to add, what to modify, what to remove.  Then each
list is worked off, by a scan of the running mounts for every element.

| source | here |
| :-- | :-- |
| `QProcess` | `QProcess`; the object is its `address` |
| `QPair<std::shared_ptr<QProcess>, MountInfo>` | `Mount` |
| `MountInfo::operator==`, `operator!=` | `MountInfo.operatorEq`, `MountInfo.operatorNe` |
| `Daemon::reloadMounts` up to `mountAll` | `Daemon.reloadMounts` |

A process object is made for every entry anew, so entries do not share one: that is part
of a `Daemon` here.  `terminated` lists the objects that were sent `terminate`, in order.

**Proved here:** after a reload the running mounts are the stored ones, unchanged mounts
keep their process, and every other old process was told to terminate once
(`reload_reloads`).  Unchanged means equal by `operator==`, which skips three fields: an
edit takes effect exactly when it touches another one (`reload_applies_iff`).
-/
import SeamlessSmb.Mount
import SeamlessSmb.Lib.KeyedList

namespace SeamlessSmb

/-! ## Comparing settings -/

namespace MountInfo

/-- `MountInfo::operator==`. -/
def operatorEq (a b : MountInfo) : Bool :=
  a.rootDirectory = b.rootDirectory && a.mountPoint = b.mountPoint && a.uncName = b.uncName &&
    a.volname = b.volname && a.caseSensitive = b.caseSensitive &&
    a.impersonateCallerUser = b.impersonateCallerUser &&
    a.hasSeSecurityPrivilege = b.hasSeSecurityPrivilege && a.enabled = b.enabled &&
    a.keepAlive = b.keepAlive && a.options = b.options

/-- `MountInfo::operator!=`. -/
def operatorNe (a b : MountInfo) : Bool := !a.operatorEq b

theorem operatorEq_comm {a b : MountInfo} : a.operatorEq b = b.operatorEq a := by
  simp only [operatorEq, eq_comm]

theorem operatorEq_self {a : MountInfo} : a.operatorEq a = true := by
  simp [operatorEq]

/-- Equal settings are settings that differ in the uuid and three more fields at most. -/
theorem operatorEq_iff {a b : MountInfo} :
    a.operatorEq b = true ↔
      { a with uuid := b.uuid, debug := b.debug, cerr := b.cerr,
               singlethreaded := b.singlethreaded } = b := by
  cases a
  cases b
  simp [operatorEq, and_assoc]

end MountInfo

/-! ## The state -/

/-- A process object: where it is, and the arguments it was given, the settings file and
the uuid of its mount. -/
structure QProcess where
  address : Nat
  fileName : WString
  uuid : BitVec 128
  deriving DecidableEq

/-- An entry of `mounts`. -/
abbrev Mount := QProcess × MountInfo

/-- The key the entries are searched by. -/
def Mount.uuid (m : Mount) : BitVec 128 := m.2.uuid

def Mount.address (m : Mount) : Nat := m.1.address

/-- `Daemon`. -/
structure Daemon where
  fileName : WString
  mounts : List Mount
  next : Nat
  terminated : List Nat
  processes : Keyed.Distinct Mount.address mounts
  allocated : ∀ m ∈ mounts, m.address < next

namespace Daemon

/-- The entry of a uuid: what the scans of `mounts` stop at. -/
def entry (d : Daemon) (uuid : BitVec 128) : Option Mount := Keyed.first Mount.uuid d.mounts uuid

/-- No two entries have the same uuid. -/
def Distinct (d : Daemon) : Prop := Keyed.Distinct Mount.uuid d.mounts

instance (d : Daemon) : Decidable d.Distinct := inferInstanceAs (Decidable (Keyed.Distinct _ _))

/-- `std::make_shared<QProcess>`, with its arguments. -/
def makeProcess (d : Daemon) (info : MountInfo) : QProcess :=
  { address := d.next, fileName := d.fileName, uuid := info.uuid }

/-! ## Reloading -/

/-- `toaddModify`: the two lists it fills. -/
def toaddModify (d : Daemon) : List MountInfo → List MountInfo × List MountInfo
  | [] => ([], [])
  | info :: newlist =>
      let (toadd, tomodify) := d.toaddModify newlist
      match d.entry info.uuid with
      | some mount => if info.operatorNe mount.2 then (toadd, info :: tomodify) else (toadd, tomodify)
      | none => (info :: toadd, tomodify)

/-- `toRemove`. -/
def toRemove (d : Daemon) (newlist : List MountInfo) : List MountInfo :=
  (d.mounts.filter fun mount => (newlist.find? fun info => info.uuid = mount.2.uuid).isNone).map
    Prod.snd

/-- `remove` of one entry. -/
def removeOne (d : Daemon) (info : MountInfo) : Daemon :=
  match d.entry info.uuid with
  | none => d
  | some mount =>
      { d with
        mounts := Keyed.erase Mount.uuid info.uuid d.mounts
        terminated := d.terminated ++ [mount.address]
        processes := d.processes.erase
        allocated := fun m hm => d.allocated m (Keyed.erase_sublist.subset hm) }

/-- `add` of one entry. -/
def addOne (d : Daemon) (info : MountInfo) : Daemon :=
  { d with
    mounts := d.mounts ++ [(d.makeProcess info, info)]
    next := d.next + 1
    processes := by
      unfold Keyed.Distinct
      rw [List.map_append, List.map_singleton, ← List.concat_eq_append]
      refine List.Nodup.concat ?_ d.processes
      intro hm
      obtain ⟨m, hm, he⟩ := List.mem_map.mp hm
      exact absurd he (Nat.ne_of_lt (d.allocated m hm))
    allocated := by
      intro m hm
      rcases List.mem_append.mp hm with hm | hm
      · exact Nat.lt_succ_of_lt (d.allocated m hm)
      · rw [List.mem_singleton.mp hm]
        exact Nat.lt_succ_self d.next }

/-- `modify` of one entry. -/
def modifyOne (d : Daemon) (info : MountInfo) : Daemon :=
  match d.entry info.uuid with
  | none => d
  | some mount =>
      { d with
        mounts := Keyed.replace Mount.uuid info.uuid (d.makeProcess info, info) d.mounts
        next := d.next + 1
        terminated := d.terminated ++ [mount.address]
        processes := d.processes.replace_fresh fun m hm => Nat.ne_of_lt (d.allocated m hm)
        allocated := by
          intro m hm
          rcases Keyed.mem_replace hm with rfl | hm
          · exact Nat.lt_succ_self d.next
          · exact Nat.lt_succ_of_lt (d.allocated m hm) }

/-- `remove`. -/
def remove (d : Daemon) (rm : List MountInfo) : Daemon := rm.foldl removeOne d

/-- `add`. -/
def add (d : Daemon) (toadd : List MountInfo) : Daemon := toadd.foldl addOne d

/-- `modify`. -/
def modify (d : Daemon) (mod : List MountInfo) : Daemon := mod.foldl modifyOne d

/-- `reloadMounts` with the stored list `mountlist`, before `mountAll` starts what does
not run. -/
def reloadMounts (d : Daemon) (mountlist : List MountInfo) : Daemon :=
  let (addl, modifyl) := d.toaddModify mountlist
  let rm := d.toRemove mountlist
  ((d.remove rm).add addl).modify modifyl

/-! ## What one element of a list does -/

section

variable {d d' : Daemon} {info : MountInfo} {infos rm N : List MountInfo} {m : Mount}
  {uuid : BitVec 128}

theorem entry_eq_some (hd : d.Distinct) : d.entry uuid = some m ↔ m ∈ d.mounts ∧ m.uuid = uuid :=
  Keyed.Distinct.first_eq_some hd

theorem removeOne_distinct (hd : d.Distinct) : (d.removeOne info).Distinct := by
  simp only [removeOne]
  split
  · exact hd
  · exact Keyed.Distinct.erase hd

theorem removeOne_entry (hd : d.Distinct) :
    (d.removeOne info).entry = Function.update d.entry info.uuid none := by
  simp only [removeOne]
  split
  · next h => rw [← h, Function.update_eq_self]
  · exact Keyed.Distinct.first_erase hd

/-- The process objects behind the entries with the uuids of `infos`. -/
def processesOf (d : Daemon) (infos : List MountInfo) : List Nat :=
  infos.filterMap fun info => (d.entry info.uuid).map Mount.address

theorem removeOne_terminated :
    (d.removeOne info).terminated = d.terminated ++ d.processesOf [info] := by
  simp only [removeOne]
  split
  · next h => simp [processesOf, h]
  · next mount h => simp [processesOf, h]

/-- One entry was put in, with a new process; it is now the one of its uuid. -/
structure PutOne (d : Daemon) (info : MountInfo) (d' : Daemon) : Prop where
  distinct : d'.Distinct
  entry : d'.entry = Function.update d.entry info.uuid (some (d.makeProcess info, info))
  next : d.next ≤ d'.next

theorem addOne_put (hd : d.Distinct) (hnew : (d.entry info.uuid).isSome = false) :
    PutOne d info (d.addOne info) := by
  have hfree : Keyed.first Mount.uuid d.mounts info.uuid = none :=
    Option.isSome_eq_false_iff.mp hnew |> Option.isNone_iff_eq_none.mp
  refine ⟨?_, Keyed.first_concat (q := (d.makeProcess info, info)) hfree, Nat.le_succ d.next⟩
  show ((d.mounts ++ [(d.makeProcess info, info)]).map Mount.uuid).Nodup
  rw [List.map_append, List.map_singleton, ← List.concat_eq_append]
  refine List.Nodup.concat ?_ hd
  intro hm
  obtain ⟨m, hm, he⟩ := List.mem_map.mp hm
  exact Keyed.first_eq_none.mp hfree m hm he

theorem modifyOne_put (hd : d.Distinct) (hold : (d.entry info.uuid).isSome = true) :
    PutOne d info (d.modifyOne info) := by
  obtain ⟨m, hm⟩ := Option.isSome_iff_exists.mp hold
  simp only [modifyOne, hm]
  exact ⟨Keyed.Distinct.replace hd rfl, Keyed.first_replace rfl hold, Nat.le_succ d.next⟩

theorem modifyOne_terminated :
    (d.modifyOne info).terminated = d.terminated ++ d.processesOf [info] := by
  simp only [modifyOne]
  split
  · next h => simp [processesOf, h]
  · next mount h => simp [processesOf, h]

/-! ## What a whole list does -/

/-- Elements with other uuids have their processes still. -/
theorem processesOf_congr (h : ∀ info ∈ infos, d'.entry info.uuid = d.entry info.uuid) :
    d'.processesOf infos = d.processesOf infos := by
  refine List.filterMap_congr ?_
  intro info hinfo
  rw [h info hinfo]

theorem uuid_ne_of_nodup (h : ((info :: infos).map MountInfo.uuid).Nodup) :
    ∀ other ∈ infos, other.uuid ≠ info.uuid := by
  intro other hother he
  exact (List.nodup_cons.mp h).1 (List.mem_map.mpr ⟨other, hother, he⟩)

/-- A loop that tells the process of each element to terminate, and changes the entries
with the uuids it is at only, tells the processes there were in the beginning. -/
theorem foldl_terminated {f : Daemon → MountInfo → Daemon} {P : Daemon → MountInfo → Prop}
    (hsent : ∀ d info, (f d info).terminated = d.terminated ++ d.processesOf [info])
    (hother : ∀ d info uuid, P d info → uuid ≠ info.uuid → (f d info).entry uuid = d.entry uuid)
    (hkeep : ∀ d info other, P d info → P d other → other.uuid ≠ info.uuid → P (f d info) other)
    (hP : ∀ info ∈ infos, P d info) (hn : (infos.map MountInfo.uuid).Nodup) :
    (infos.foldl f d).terminated = d.terminated ++ d.processesOf infos := by
  induction infos generalizing d with
  | nil => simp [processesOf]
  | cons info infos ih =>
      have hne := uuid_ne_of_nodup hn
      have hhead : P d info := hP info List.mem_cons_self
      have htail : ∀ other ∈ infos, P (f d info) other := fun other ho =>
        hkeep d info other hhead (hP other (List.mem_cons_of_mem info ho)) (hne other ho)
      have hsame : (f d info).processesOf infos = d.processesOf infos :=
        processesOf_congr fun other ho => hother d info other.uuid hhead (hne other ho)
      rw [List.foldl_cons, ih htail (List.nodup_cons.mp hn).2, hsent, hsame, List.append_assoc]
      congr 1
      exact (List.filterMap_append (l := [info])).symm

theorem remove_distinct (hd : d.Distinct) : (d.remove rm).Distinct := by
  induction rm generalizing d with
  | nil => exact hd
  | cons info rm ih => exact ih (removeOne_distinct hd)

theorem remove_entry (hd : d.Distinct) :
    (d.remove rm).entry uuid = if uuid ∈ rm.map MountInfo.uuid then none else d.entry uuid := by
  induction rm generalizing d with
  | nil => rfl
  | cons info rm ih =>
      show ((d.removeOne info).remove rm).entry uuid = _
      rw [ih (removeOne_distinct hd), removeOne_entry hd, List.map_cons]
      by_cases hu : uuid = info.uuid
      · simp [hu]
      · simp [hu]

theorem remove_terminated (hd : d.Distinct) (hn : (rm.map MountInfo.uuid).Nodup) :
    (d.remove rm).terminated = d.terminated ++ d.processesOf rm := by
  refine foldl_terminated (P := fun d _ => d.Distinct) (fun _ _ => removeOne_terminated) ?_ ?_
    (fun _ _ => hd) hn
  · intro d info uuid hd hne
    rw [removeOne_entry hd, Function.update_of_ne hne]
  · exact fun d info other hd _ _ => removeOne_distinct hd

/-- `d'` has an entry with a new process for each of `infos`, and the other entries of `d`
besides. -/
structure PutAll (d : Daemon) (infos : List MountInfo) (d' : Daemon) : Prop where
  distinct : d'.Distinct
  put : ∀ info ∈ infos, ∃ p, d'.entry info.uuid = some (p, info) ∧ d.next ≤ p.address
  other : ∀ uuid, uuid ∉ infos.map MountInfo.uuid → d'.entry uuid = d.entry uuid

/-- A loop that puts one entry in after the other.  `b` says whether the uuids are in use
before. -/
theorem foldl_putAll {f : Daemon → MountInfo → Daemon} {b : Bool}
    (hput : ∀ d info, d.Distinct → (d.entry info.uuid).isSome = b → PutOne d info (f d info))
    (hd : d.Distinct) (hb : ∀ info ∈ infos, (d.entry info.uuid).isSome = b)
    (hn : (infos.map MountInfo.uuid).Nodup) : PutAll d infos (infos.foldl f d) := by
  induction infos generalizing d with
  | nil => exact ⟨hd, fun info h => absurd h List.not_mem_nil, fun uuid _ => rfl⟩
  | cons info infos ih =>
      have hne := uuid_ne_of_nodup hn
      have hone := hput d info hd (hb info List.mem_cons_self)
      have hb' : ∀ other ∈ infos, ((f d info).entry other.uuid).isSome = b := by
        intro other ho
        rw [hone.entry, Function.update_of_ne (hne other ho)]
        exact hb other (List.mem_cons_of_mem info ho)
      have hall := ih hone.distinct hb' (List.nodup_cons.mp hn).2
      refine ⟨hall.distinct, ?_, ?_⟩
      · intro other ho
        rcases List.mem_cons.mp ho with rfl | ho
        · -- the rest of the loop leaves this entry alone
          have hout : other.uuid ∉ infos.map MountInfo.uuid := (List.nodup_cons.mp hn).1
          refine ⟨d.makeProcess other, ?_, Nat.le_refl d.next⟩
          rw [List.foldl_cons, hall.other other.uuid hout, hone.entry, Function.update_self]
        · obtain ⟨p, hp, hnew⟩ := hall.put other ho
          exact ⟨p, hp, Nat.le_trans hone.next hnew⟩
      · intro uuid hu
        rw [List.map_cons, List.mem_cons, not_or] at hu
        rw [List.foldl_cons, hall.other uuid hu.2, hone.entry, Function.update_of_ne hu.1]

theorem add_putAll (hd : d.Distinct) (hnew : ∀ info ∈ infos, d.entry info.uuid = none)
    (hn : (infos.map MountInfo.uuid).Nodup) : PutAll d infos (d.add infos) := by
  refine foldl_putAll (fun _ _ => addOne_put) hd ?_ hn
  intro info hinfo
  rw [hnew info hinfo]
  rfl

theorem add_terminated : (d.add infos).terminated = d.terminated := by
  induction infos generalizing d with
  | nil => rfl
  | cons info infos ih => exact ih

theorem add_next : d.next ≤ (d.add infos).next := by
  induction infos generalizing d with
  | nil => exact Nat.le_refl _
  | cons info infos ih => exact Nat.le_trans (Nat.le_succ d.next) (ih (d := d.addOne info))

theorem modify_putAll (hd : d.Distinct) (hold : ∀ info ∈ infos, (d.entry info.uuid).isSome = true)
    (hn : (infos.map MountInfo.uuid).Nodup) : PutAll d infos (d.modify infos) :=
  foldl_putAll (fun _ _ => modifyOne_put) hd hold hn

theorem modify_terminated (hd : d.Distinct)
    (hold : ∀ info ∈ infos, (d.entry info.uuid).isSome = true)
    (hn : (infos.map MountInfo.uuid).Nodup) :
    (d.modify infos).terminated = d.terminated ++ d.processesOf infos := by
  refine foldl_terminated (P := fun d info => d.Distinct ∧ (d.entry info.uuid).isSome = true)
    (fun _ _ => modifyOne_terminated) ?_ ?_ (fun info hinfo => ⟨hd, hold info hinfo⟩) hn
  · intro d info uuid ⟨hd, hsome⟩ hne
    rw [(modifyOne_put hd hsome).entry, Function.update_of_ne hne]
  · intro d info other ⟨hd, hsome⟩ ⟨_, hother⟩ hne
    refine ⟨(modifyOne_put hd hsome).distinct, ?_⟩
    rw [(modifyOne_put hd hsome).entry, Function.update_of_ne hne]
    exact hother

/-! ## The three lists -/

theorem toaddModify_eq :
    d.toaddModify N = (N.filter fun info => (d.entry info.uuid).isNone,
      N.filter fun info => (d.entry info.uuid).any fun mount => info.operatorNe mount.2) := by
  induction N with
  | nil => rfl
  | cons info N ih =>
      simp only [toaddModify, ih]
      cases hentry : d.entry info.uuid with
      | none => simp [hentry]
      | some mount => cases hne : info.operatorNe mount.2 <;> simp [hentry, hne]

theorem mem_toadd : info ∈ (d.toaddModify N).1 ↔ info ∈ N ∧ d.entry info.uuid = none := by
  simp [toaddModify_eq]

theorem mem_tomodify :
    info ∈ (d.toaddModify N).2 ↔
      info ∈ N ∧ ∃ mount, d.entry info.uuid = some mount ∧ info.operatorNe mount.2 = true := by
  simp [toaddModify_eq, Option.any_eq_true]

theorem mem_toRemove :
    info ∈ d.toRemove N ↔ info.uuid ∉ N.map MountInfo.uuid ∧ ∃ mount ∈ d.mounts, mount.2 = info := by
  simp only [toRemove, List.mem_map, List.mem_filter, Option.isNone_iff_eq_none,
    List.find?_eq_none, decide_eq_true_eq]
  constructor
  · rintro ⟨mount, ⟨hm, hout⟩, rfl⟩
    exact ⟨fun ⟨other, ho, he⟩ => hout other ho he, mount, hm, rfl⟩
  · rintro ⟨hout, mount, hm, rfl⟩
    exact ⟨mount, ⟨hm, fun other ho he => hout ⟨other, ho, he⟩⟩, rfl⟩

theorem uuid_toadd (h : uuid ∈ (d.toaddModify N).1.map MountInfo.uuid) :
    uuid ∈ N.map MountInfo.uuid ∧ d.entry uuid = none := by
  obtain ⟨info, hinfo, rfl⟩ := List.mem_map.mp h
  obtain ⟨hin, hnone⟩ := mem_toadd.mp hinfo
  exact ⟨List.mem_map_of_mem hin, hnone⟩

theorem uuid_tomodify (h : uuid ∈ (d.toaddModify N).2.map MountInfo.uuid) :
    ∃ info ∈ N, info.uuid = uuid ∧
      ∃ mount, d.entry uuid = some mount ∧ info.operatorNe mount.2 = true := by
  obtain ⟨info, hinfo, rfl⟩ := List.mem_map.mp h
  obtain ⟨hin, hmount⟩ := mem_tomodify.mp hinfo
  exact ⟨info, hin, rfl, hmount⟩

theorem toadd_nodup (hN : (N.map MountInfo.uuid).Nodup) :
    ((d.toaddModify N).1.map MountInfo.uuid).Nodup := by
  rw [toaddModify_eq]
  exact hN.sublist (List.filter_sublist.map MountInfo.uuid)

theorem tomodify_nodup (hN : (N.map MountInfo.uuid).Nodup) :
    ((d.toaddModify N).2.map MountInfo.uuid).Nodup := by
  rw [toaddModify_eq]
  exact hN.sublist (List.filter_sublist.map MountInfo.uuid)

theorem toRemove_nodup (hd : d.Distinct) : ((d.toRemove N).map MountInfo.uuid).Nodup := by
  simp only [toRemove, List.map_map]
  exact List.Nodup.sublist (List.filter_sublist.map Mount.uuid) hd

/-! ## The whole reload -/

/-- What becomes of an entry: the ones of no stored uuid go, equal ones stay, and the
others are put in anew.  `sent` are the processes told to terminate. -/
structure Reload (d : Daemon) (N : List MountInfo) (d' : Daemon) (sent : List Nat) : Prop where
  distinct : d'.Distinct
  gone : ∀ uuid, uuid ∉ N.map MountInfo.uuid → d'.entry uuid = none
  kept : ∀ info ∈ N, ∀ m, d.entry info.uuid = some m → info.operatorEq m.2 = true →
    d'.entry info.uuid = some m
  put : ∀ info ∈ N, (∀ m, d.entry info.uuid = some m → info.operatorEq m.2 = false) →
    ∃ p, d'.entry info.uuid = some (p, info) ∧ d.next ≤ p.address
  terminated : d'.terminated = d.terminated ++ sent
  sent : sent = d.processesOf (d.toRemove N ++ (d.toaddModify N).2)

/-- After the removal the entries of stored uuids are left. -/
theorem remove_toRemove_entry (hd : d.Distinct) :
    (d.remove (d.toRemove N)).entry uuid = if uuid ∈ N.map MountInfo.uuid then d.entry uuid else none := by
  rw [remove_entry hd]
  by_cases hN : uuid ∈ N.map MountInfo.uuid
  · have hout : uuid ∉ (d.toRemove N).map MountInfo.uuid := by
      intro hu
      obtain ⟨info, hinfo, rfl⟩ := List.mem_map.mp hu
      exact (mem_toRemove.mp hinfo).1 hN
    rw [if_neg hout, if_pos hN]
  · rw [if_neg hN]
    cases hentry : d.entry uuid with
    | none => exact ite_self none
    | some m =>
        have ⟨hm, hu⟩ := (entry_eq_some hd).mp hentry
        refine if_pos (List.mem_map.mpr ⟨m.2, mem_toRemove.mpr ⟨?_, m, hm, rfl⟩, hu⟩)
        rw [show m.2.uuid = uuid from hu]
        exact hN

theorem remove_next : (d.remove rm).next = d.next := by
  induction rm generalizing d with
  | nil => rfl
  | cons info rm ih =>
      refine ih.trans ?_
      simp only [removeOne]
      split <;> rfl

/-- After the adding the entries that were there are as they were. -/
theorem add_toadd (hd : d.Distinct) (hN : (N.map MountInfo.uuid).Nodup) :
    PutAll (d.remove (d.toRemove N)) (d.toaddModify N).1
        ((d.remove (d.toRemove N)).add (d.toaddModify N).1) ∧
      ∀ info ∈ N, ∀ m, d.entry info.uuid = some m →
        ((d.remove (d.toRemove N)).add (d.toaddModify N).1).entry info.uuid = some m := by
  have hstored : ∀ info ∈ N, (d.remove (d.toRemove N)).entry info.uuid = d.entry info.uuid := by
    intro info hinfo
    rw [remove_toRemove_entry hd, if_pos (List.mem_map_of_mem hinfo)]
  have hadd : PutAll (d.remove (d.toRemove N)) (d.toaddModify N).1
      ((d.remove (d.toRemove N)).add (d.toaddModify N).1) := by
    refine add_putAll (remove_distinct hd) ?_ (toadd_nodup hN)
    intro info hinfo
    have ⟨hin, hnone⟩ := mem_toadd.mp hinfo
    rw [hstored info hin, hnone]
  refine ⟨hadd, ?_⟩
  intro info hinfo m hm
  have hapart : info.uuid ∉ (d.toaddModify N).1.map MountInfo.uuid := by
    intro hu
    rw [(uuid_toadd hu).2] at hm
    cases hm
  rw [hadd.other _ hapart, hstored info hinfo, hm]

/-- **One reload**, entry by entry. -/
theorem reload_entries (hd : d.Distinct) (hN : (N.map MountInfo.uuid).Nodup) :
    ∃ sent, Reload d N (d.reloadMounts N) sent := by
  have hrm := toRemove_nodup (N := N) hd
  have hnext : (d.remove (d.toRemove N)).next = d.next := remove_next
  -- the daemon before the last stage
  let d₂ := (d.remove (d.toRemove N)).add (d.toaddModify N).1
  obtain ⟨hadd, hold⟩ := add_toadd hd hN
  have hsome : ∀ info ∈ (d.toaddModify N).2, (d₂.entry info.uuid).isSome = true := by
    intro info hinfo
    obtain ⟨hin, m, hm, -⟩ := mem_tomodify.mp hinfo
    rw [hold info hin m hm]
    rfl
  have hmod : PutAll d₂ (d.toaddModify N).2 (d.reloadMounts N) :=
    modify_putAll hadd.distinct hsome (tomodify_nodup hN)
  refine ⟨_, hmod.distinct, ?_, ?_, ?_, ?_, rfl⟩
  · intro uuid hu
    have hout : uuid ∉ (d.toaddModify N).2.map MountInfo.uuid := by
      intro hm
      obtain ⟨info, hinfo, rfl, -⟩ := uuid_tomodify hm
      exact hu (List.mem_map_of_mem hinfo)
    rw [hmod.other uuid hout, hadd.other uuid fun hm => hu (uuid_toadd hm).1, remove_toRemove_entry hd,
      if_neg hu]
  · intro info hinfo m hm heq
    have hout : info.uuid ∉ (d.toaddModify N).2.map MountInfo.uuid := by
      intro hu
      obtain ⟨other, ho, he, m', hm', hne⟩ := uuid_tomodify hu
      -- distinct uuids: the modified one is this one
      have hsame : other = info := Keyed.Distinct.inj hN ho hinfo he
      rw [hm] at hm'
      cases hm'
      rw [hsame, MountInfo.operatorNe, heq] at hne
      cases hne
    rw [hmod.other _ hout, hold info hinfo m hm]
  · intro info hinfo hne
    cases hentry : d.entry info.uuid with
    | none =>
        obtain ⟨p, hp, hnew⟩ := hadd.put info (mem_toadd.mpr ⟨hinfo, hentry⟩)
        have hout : info.uuid ∉ (d.toaddModify N).2.map MountInfo.uuid := by
          intro hu
          obtain ⟨-, -, -, m, hm, -⟩ := uuid_tomodify hu
          rw [hentry] at hm
          cases hm
        refine ⟨p, (hmod.other _ hout).trans hp, ?_⟩
        rw [← hnext]
        exact hnew
    | some m =>
        have hmem : info ∈ (d.toaddModify N).2 :=
          mem_tomodify.mpr ⟨hinfo, m, hentry, by simp [MountInfo.operatorNe, hne m hentry]⟩
        obtain ⟨p, hp, hnew⟩ := hmod.put info hmem
        refine ⟨p, hp, Nat.le_trans ?_ hnew⟩
        rw [← hnext]
        exact add_next
  · show (d₂.modify _).terminated = _
    have hsame : d₂.processesOf (d.toaddModify N).2 = d.processesOf (d.toaddModify N).2 := by
      refine processesOf_congr ?_
      intro info hinfo
      obtain ⟨hin, m, hm, -⟩ := mem_tomodify.mp hinfo
      rw [hold info hin m hm, hm]
    rw [modify_terminated hadd.distinct hsome (tomodify_nodup hN), add_terminated,
      remove_terminated hd hrm, hsame, List.append_assoc, processesOf, processesOf, processesOf,
      List.filterMap_append]

/-! ## What a reload should do -/

/-- The running mounts are the stored ones: entries whose settings did not change are the
same as before, and all other old processes were told to terminate, once each. -/
structure Reloaded (d : Daemon) (N : List MountInfo) (d' : Daemon) (sent : List Nat) : Prop where
  uuids : (d'.mounts.map Mount.uuid).Perm (N.map MountInfo.uuid)
  settings : ∀ m ∈ d'.mounts, ∃ info ∈ N, info.uuid = m.uuid ∧ m.2.operatorEq info = true
  kept : ∀ m ∈ d.mounts, ∀ info ∈ N, info.uuid = m.uuid → m.2.operatorEq info = true →
    m ∈ d'.mounts ∧ m.address ∉ sent
  stopped : ∀ m ∈ d.mounts,
    (∀ info ∈ N, info.uuid = m.uuid → m.2.operatorEq info = false) → sent.count m.address = 1
  terminated : d'.terminated = d.terminated ++ sent

theorem mem_processesOf (hd : d.Distinct) (hm : m ∈ d.mounts) :
    m.address ∈ d.processesOf infos ↔ m.uuid ∈ infos.map MountInfo.uuid := by
  simp only [processesOf, List.mem_filterMap, Option.map_eq_some_iff, List.mem_map]
  constructor
  · rintro ⟨info, hinfo, m', hm', ha⟩
    have ⟨hmem, hu⟩ := (entry_eq_some hd).mp hm'
    have hsame : m' = m := Keyed.Distinct.inj d.processes hmem hm ha
    exact ⟨info, hinfo, by rw [← hu, hsame]⟩
  · rintro ⟨info, hinfo, hu⟩
    exact ⟨info, hinfo, m, (entry_eq_some hd).mpr ⟨hm, hu.symm⟩, rfl⟩

theorem processesOf_nodup (hd : d.Distinct) (hn : (infos.map MountInfo.uuid).Nodup) :
    (d.processesOf infos).Nodup := by
  induction infos with
  | nil => exact List.nodup_nil
  | cons info infos ih =>
      have ⟨hout, hrest⟩ := List.nodup_cons.mp hn
      cases hentry : d.entry info.uuid with
      | none =>
          have hskip : d.processesOf (info :: infos) = d.processesOf infos := by
            simp [processesOf, hentry]
          rw [hskip]
          exact ih hrest
      | some m =>
          have hcons : d.processesOf (info :: infos) = m.address :: d.processesOf infos := by
            simp [processesOf, hentry]
          have ⟨hm, hu⟩ := (entry_eq_some hd).mp hentry
          rw [hcons]
          refine List.nodup_cons.mpr ⟨?_, ih hrest⟩
          intro ha
          rw [mem_processesOf hd hm, hu] at ha
          exact hout ha

/-- The uuids of what is removed and of what is modified. -/
theorem changed_nodup (hd : d.Distinct) (hN : (N.map MountInfo.uuid).Nodup) :
    ((d.toRemove N ++ (d.toaddModify N).2).map MountInfo.uuid).Nodup := by
  rw [List.map_append]
  refine List.Nodup.append (toRemove_nodup hd) (tomodify_nodup hN) ?_
  intro uuid hrm hmod
  obtain ⟨info, hinfo, rfl⟩ := List.mem_map.mp hrm
  obtain ⟨other, ho, he⟩ := List.mem_map.mp hmod
  refine (mem_toRemove.mp hinfo).1 ?_
  rw [← he]
  exact List.mem_map_of_mem (mem_tomodify.mp ho).1

/-- An old process is told to terminate exactly if its entry is removed or changed. -/
theorem mem_changed (hd : d.Distinct) (hm : m ∈ d.mounts) :
    m.uuid ∈ (d.toRemove N ++ (d.toaddModify N).2).map MountInfo.uuid ↔
      m.uuid ∉ N.map MountInfo.uuid ∨ ∃ info ∈ N, info.uuid = m.uuid ∧ m.2.operatorEq info = false := by
  rw [List.map_append, List.mem_append]
  constructor
  · rintro (hrm | hmod)
    · obtain ⟨info, hinfo, he⟩ := List.mem_map.mp hrm
      rw [← he]
      exact Or.inl (mem_toRemove.mp hinfo).1
    · obtain ⟨info, hinfo, he⟩ := List.mem_map.mp hmod
      obtain ⟨hin, m', hm', hne⟩ := mem_tomodify.mp hinfo
      rw [he, (entry_eq_some hd).mpr ⟨hm, rfl⟩] at hm'
      cases hm'
      refine Or.inr ⟨info, hin, he, ?_⟩
      rw [MountInfo.operatorEq_comm]
      simpa [MountInfo.operatorNe] using hne
  · rintro (hout | ⟨info, hin, he, hne⟩)
    · exact Or.inl (List.mem_map.mpr ⟨m.2, mem_toRemove.mpr ⟨hout, m, hm, rfl⟩, rfl⟩)
    · refine Or.inr (List.mem_map.mpr ⟨info, mem_tomodify.mpr ⟨hin, m, ?_, ?_⟩, he⟩)
      · exact (entry_eq_some hd).mpr ⟨hm, he.symm⟩
      · rw [MountInfo.operatorNe, MountInfo.operatorEq_comm, hne]
        rfl

theorem Reload.mem_sent {sent : List Nat} (h : Reload d N d' sent) (hd : d.Distinct)
    (hm : m ∈ d.mounts) :
    m.address ∈ sent ↔
      m.uuid ∉ N.map MountInfo.uuid ∨ ∃ info ∈ N, info.uuid = m.uuid ∧ m.2.operatorEq info = false := by
  rw [h.sent, mem_processesOf hd hm, mem_changed hd hm]

theorem Reload.reloaded {sent : List Nat} (h : Reload d N d' sent) (hd : d.Distinct)
    (hN : (N.map MountInfo.uuid).Nodup) : Reloaded d N d' sent := by
  have hstored : ∀ m ∈ d'.mounts, ∃ info ∈ N, info.uuid = m.uuid := by
    intro m hm
    by_contra hout
    have hnone := h.gone m.uuid fun hu =>
      hout (by obtain ⟨info, hinfo, he⟩ := List.mem_map.mp hu; exact ⟨info, hinfo, he⟩)
    rw [(entry_eq_some h.distinct).mpr ⟨hm, rfl⟩] at hnone
    cases hnone
  refine ⟨?_, ?_, ?_, ?_, h.terminated⟩
  · refine (List.perm_ext_iff_of_nodup h.distinct hN).mpr ?_
    intro uuid
    constructor
    · intro hu
      obtain ⟨m, hm, rfl⟩ := List.mem_map.mp hu
      obtain ⟨info, hinfo, he⟩ := hstored m hm
      exact List.mem_map.mpr ⟨info, hinfo, he⟩
    · intro hu
      obtain ⟨info, hinfo, rfl⟩ := List.mem_map.mp hu
      by_cases hkept : ∃ m, d.entry info.uuid = some m ∧ info.operatorEq m.2 = true
      · obtain ⟨m, hm, heq⟩ := hkept
        have ⟨hmem, hmu⟩ := (entry_eq_some h.distinct).mp (h.kept info hinfo m hm heq)
        exact List.mem_map.mpr ⟨m, hmem, hmu⟩
      · have hne : ∀ m, d.entry info.uuid = some m → info.operatorEq m.2 = false :=
          fun m hm => Bool.eq_false_iff.mpr fun heq => hkept ⟨m, hm, heq⟩
        obtain ⟨p, hp, -⟩ := h.put info hinfo hne
        have ⟨hmem, hmu⟩ := (entry_eq_some h.distinct).mp hp
        exact List.mem_map.mpr ⟨_, hmem, hmu⟩
  · intro m hm
    obtain ⟨info, hinfo, he⟩ := hstored m hm
    refine ⟨info, hinfo, he, ?_⟩
    have hentry : d'.entry info.uuid = some m := (entry_eq_some h.distinct).mpr ⟨hm, he.symm⟩
    by_cases hkept : ∃ m, d.entry info.uuid = some m ∧ info.operatorEq m.2 = true
    · obtain ⟨old, hold, heq⟩ := hkept
      rw [h.kept info hinfo old hold heq] at hentry
      cases hentry
      rw [MountInfo.operatorEq_comm]
      exact heq
    · have hne : ∀ m, d.entry info.uuid = some m → info.operatorEq m.2 = false :=
        fun m hm => Bool.eq_false_iff.mpr fun heq => hkept ⟨m, hm, heq⟩
      obtain ⟨p, hp, -⟩ := h.put info hinfo hne
      rw [hp] at hentry
      cases hentry
      exact MountInfo.operatorEq_self
  · intro m hm info hinfo he heq
    constructor
    · refine ((entry_eq_some h.distinct).mp (h.kept info hinfo m ?_ ?_)).1
      · exact (entry_eq_some hd).mpr ⟨hm, he.symm⟩
      · rw [MountInfo.operatorEq_comm]
        exact heq
    · rw [h.mem_sent hd hm]
      rintro (hout | ⟨other, ho, heo, hne⟩)
      · exact hout (List.mem_map.mpr ⟨info, hinfo, he⟩)
      · rw [Keyed.Distinct.inj hN ho hinfo (heo.trans he.symm), heq] at hne
        cases hne
  · intro m hm hall
    have hnodup : sent.Nodup := by
      rw [h.sent]
      exact processesOf_nodup hd (changed_nodup hd hN)
    refine List.count_eq_one_of_mem hnodup ((h.mem_sent hd hm).mpr ?_)
    by_cases hu : m.uuid ∈ N.map MountInfo.uuid
    · obtain ⟨info, hinfo, he⟩ := List.mem_map.mp hu
      exact Or.inr ⟨info, hinfo, he, hall info hinfo he⟩
    · exact Or.inl hu

/-- **Reloading** makes the running mounts the stored ones. -/
theorem reload_reloads (hd : d.Distinct) (hN : (N.map MountInfo.uuid).Nodup) :
    ∃ sent, Reloaded d N (d.reloadMounts N) sent := by
  obtain ⟨sent, h⟩ := reload_entries hd hN
  exact ⟨sent, h.reloaded hd hN⟩

end

/-- Three mounts run: the sample state. -/
def sample : Daemon where
  fileName := wide ['m', '.', 'i', 'n', 'i']
  mounts :=
    [(⟨0, wide ['m', '.', 'i', 'n', 'i'], 1⟩, { uuid := 1 }),
      (⟨1, wide ['m', '.', 'i', 'n', 'i'], 2⟩, { uuid := 2 }),
      (⟨2, wide ['m', '.', 'i', 'n', 'i'], 3⟩, { uuid := 3 })]
  next := 3
  terminated := []
  processes := by decide
  allocated := by decide

/-- The first mount stays, the second is changed, the third goes and a fourth comes. -/
theorem reload_sample :
    ∃ sent, Reloaded sample [{ uuid := 1 }, { uuid := 2, enabled := true }, { uuid := 4 }]
      (sample.reloadMounts [{ uuid := 1 }, { uuid := 2, enabled := true }, { uuid := 4 }]) sent :=
  reload_reloads (by decide) (by decide)

/-! ## Edited settings -/

section

variable {d : Daemon} {N : List MountInfo} {m : Mount} {info : MountInfo}

/-- The old process was told to terminate, and an entry has the new settings. -/
def Applies (d : Daemon) (m : Mount) (info : MountInfo) (d' : Daemon) : Prop :=
  (∃ sent, d'.terminated = d.terminated ++ sent ∧ m.address ∈ sent) ∧ ∃ p, (p, info) ∈ d'.mounts

/-- **An edit** of a running mount is applied exactly when it touches a field besides
`debug`, `cerr` and `singlethreaded`. -/
theorem reload_applies_iff (hd : d.Distinct) (hN : (N.map MountInfo.uuid).Nodup) (hm : m ∈ d.mounts)
    (hinfo : info ∈ N) (he : info.uuid = m.uuid) :
    Applies d m info (d.reloadMounts N) ↔
      { m.2 with debug := info.debug, cerr := info.cerr,
                 singlethreaded := info.singlethreaded } ≠ info := by
  obtain ⟨sent, h⟩ := reload_entries hd hN
  have hentry : d.entry info.uuid = some m := (entry_eq_some hd).mpr ⟨hm, he.symm⟩
  have heq : m.2.operatorEq info = true ↔
      { m.2 with debug := info.debug, cerr := info.cerr,
                 singlethreaded := info.singlethreaded } = info := by
    rw [MountInfo.operatorEq_iff, he]
    exact Iff.rfl
  rw [ne_eq, ← heq]
  constructor
  · rintro ⟨⟨sent', hsent, hmem⟩, -⟩ hsame
    rw [h.terminated] at hsent
    rw [← List.append_cancel_left hsent] at hmem
    exact ((h.reloaded hd hN).kept m hm info hinfo he hsame).2 hmem
  · intro hne
    have hne : m.2.operatorEq info = false := Bool.eq_false_iff.mpr hne
    refine ⟨⟨sent, h.terminated, (h.mem_sent hd hm).mpr (Or.inr ⟨info, hinfo, he, hne⟩)⟩, ?_⟩
    have hput : ∀ m', d.entry info.uuid = some m' → info.operatorEq m'.2 = false := by
      intro m' hm'
      rw [hentry] at hm'
      cases hm'
      rw [MountInfo.operatorEq_comm]
      exact hne
    obtain ⟨p, hp, -⟩ := h.put info hinfo hput
    exact ⟨p, ((entry_eq_some h.distinct).mp hp).1⟩

end

/-- Enabling the second mount of the sample is applied. -/
theorem reload_applies_enabled :
    Applies sample (⟨1, wide ['m', '.', 'i', 'n', 'i'], 2⟩, { uuid := 2 })
      { uuid := 2, enabled := true } (sample.reloadMounts [{ uuid := 2, enabled := true }]) :=
  (reload_applies_iff (d := sample) (N := [{ uuid := 2, enabled := true }]) (by decide) (by decide)
    (List.mem_cons_of_mem _ List.mem_cons_self) List.mem_cons_self rfl).mpr
    fun h => absurd (congrArg MountInfo.enabled h) (by decide)

/-- Turning `debug` on for it is not. -/
theorem not_reload_applies :
    ¬ ∀ (d : Daemon) (N : List MountInfo) (m : Mount) (info : MountInfo),
      d.Distinct → (N.map MountInfo.uuid).Nodup → m ∈ d.mounts → info ∈ N → info.uuid = m.uuid →
      info ≠ m.2 → Applies d m info (d.reloadMounts N) := by
  intro h
  obtain ⟨⟨sent, hsent, hmem⟩, -⟩ := h sample [{ uuid := 2, debug := true }]
    (⟨1, wide ['m', '.', 'i', 'n', 'i'], 2⟩, { uuid := 2 }) { uuid := 2, debug := true }
    (by decide) (by decide) (List.mem_cons_of_mem _ List.mem_cons_self) List.mem_cons_self rfl
    fun h => absurd (congrArg MountInfo.debug h) (by decide)
  rw [show (sample.reloadMounts [{ uuid := 2, debug := true }]).terminated = [0, 2] from by decide]
    at hsent
  rw [← show sample.terminated ++ sent = sent from rfl, ← hsent] at hmem
  exact absurd hmem (by decide)

end Daemon

end SeamlessSmb
