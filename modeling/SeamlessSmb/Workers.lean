/-
# `Workers` — starting processes from a copy of the list

The daemon starts no process in the loop that finds what to start.  `mountAll` and
`checkStatus` run in the thread pool, each over a copy of `mounts` of its own, and post
`mount` to the daemon thread for the uuids they find enabled; there the uuid is looked up
anew and its process started.  Meanwhile the daemon thread may reload.

| source | here |
| :-- | :-- |
| the daemon thread in `reloadMounts` | `reloading`, what is left to edit |
| `QtConcurrent::run` of a loop | `Worker` |
| `invokeMethod(this, "mount", Qt::BlockingQueuedConnection, …)` | `Worker.waiting` |
| `QDir::exists`, the state after `waitForStarted` | choices of `Action` |

A reload goes entry by entry, and a worker may copy the list between two edits; the edits
together are `Daemon.reloadMounts` (`foldl_edits`).  A process may stop and come up at any
moment.

**Proved here:** a worker's request starts nothing for a uuid that is gone, and starts the
process of a disabled entry exactly if the entry found says otherwise about `enabled` than
the copy did (`starts_enabled_along_iff`).
-/
import SeamlessSmb.Daemon
import SeamlessSmb.Lib.History

namespace SeamlessSmb

/-! ## The daemon thread -/

/-- One turn of the loops of `reloadMounts`. -/
inductive Edit
  | remove (info : MountInfo)
  | add (info : MountInfo)
  | modify (info : MountInfo)

def Edit.apply (d : Daemon) : Edit → Daemon
  | .remove info => d.removeOne info
  | .add info => d.addOne info
  | .modify info => d.modifyOne info

/-- What `reloadMounts` goes through for the stored list. -/
def Daemon.edits (d : Daemon) (mountlist : List MountInfo) : List Edit :=
  (d.toRemove mountlist).map .remove ++ (d.toaddModify mountlist).1.map .add ++
    (d.toaddModify mountlist).2.map .modify

theorem Daemon.foldl_edits (d : Daemon) (mountlist : List MountInfo) :
    (d.edits mountlist).foldl Edit.apply d = d.reloadMounts mountlist := by
  simp only [Daemon.edits, List.foldl_append, List.foldl_map]
  rfl

/-- `QProcess::ProcessState`. -/
inductive ProcessState
  | notRunning | starting | running
  deriving DecidableEq

/-! ## The workers -/

/-- What is run in the thread pool. -/
inductive Job
  | mountAll | checkStatus
  deriving DecidableEq

/-- A worker: queued in the pool, past its first statement, in its loop over what is left of
its copy, or in the loop with a request the daemon thread has not handled yet. -/
inductive Worker
  | queued (job : Job)
  | entered (job : Job)
  | looping (job : Job) (left : List Mount)
  | waiting (job : Job) (mount : Mount) (left : List Mount)
  | finished

/-- The service.  `started` are the processes that were started, in order, and `statuses`
what was given to `sendStatus`. -/
structure Service where
  daemon : Daemon
  reloading : Option (List Edit) := none
  mountAllrunning : Bool := false
  workers : List Worker := []
  state : Nat → ProcessState := fun _ => .notRunning
  started : List Nat := []
  statuses : List (BitVec 128 × Bool) := []

namespace Service

/-- After the constructor of `Daemon`. -/
def init (fileName : WString) : Service where
  daemon :=
    { fileName := fileName, mounts := [], next := 0, terminated := []
      processes := List.nodup_nil, allocated := fun _ h => absurd h List.not_mem_nil }

/-- `QtConcurrent::run`. -/
def spawn (s : Service) (job : Job) : Service := { s with workers := s.workers ++ [.queued job] }

def setWorker (s : Service) (i : Nat) (w : Worker) : Service :=
  { s with workers := s.workers.set i w }

/-- `QProcess::start`, which only warns if the process is not stopped.  `st` is the state
after `waitForStarted`. -/
def start (s : Service) (address : Nat) (st : ProcessState) : Service :=
  { s with
    state := Function.update s.state address st
    started := if s.state address = .notRunning then s.started ++ [address] else s.started }

/-- `mount`. -/
def mount (s : Service) (uuid : BitVec 128) (st : ProcessState) : Service :=
  match s.daemon.entry uuid with
  | none => s
  | some mount =>
      { s.start mount.address st with
        statuses := s.statuses ++ [(mount.uuid, decide (st = .running))] }

/-! ## Actions -/

/-- What happens next: on the daemon thread (`reload` to `mount`, and `handle` for the
request of a worker), in worker `i`, or to a process. -/
inductive Action
  | reload (mountlist : List MountInfo)
  | edit
  | timeout
  | mountAll
  | mount (uuid : BitVec 128) (st : ProcessState)
  | handle (i : Nat) (st : ProcessState)
  | enter (i : Nat)
  | copy (i : Nat)
  | look (i : Nat) (dirExists : Bool)
  | leave (i : Nat)
  | process (address : Nat) (st : ProcessState)

/-- The body of a worker's loop for one entry of its copy, up to the request. -/
def look (s : Service) (i : Nat) (dirExists : Bool) (job : Job) (mount : Mount)
    (left : List Mount) : Service :=
  match job with
  | .mountAll =>
      if dirExists && mount.2.enabled then s.setWorker i (.waiting job mount left)
      else s.setWorker i (.looping job left)
  | .checkStatus =>
      let running := decide (s.state mount.address = .running)
      let s := { s with statuses := s.statuses ++ [(mount.uuid, running)] }
      if !s.mountAllrunning && mount.2.enabled && mount.2.keepAlive && !running then
        s.setWorker i (.waiting job mount left)
      else s.setWorker i (.looping job left)

/-- One action.  One whose turn it is not changes nothing: the daemon thread takes up
nothing while it reloads, and a worker that waits does nothing else. -/
def act (s : Service) : Action → Service
  | .reload mountlist =>
      match s.reloading with
      | none => { s with reloading := some (s.daemon.edits mountlist) }
      | some _ => s
  | .edit =>
      match s.reloading with
      | none => s
      | some (e :: rest) => { s with daemon := e.apply s.daemon, reloading := some rest }
      | some [] => { s with reloading := none }.spawn .mountAll
  | .timeout => if s.reloading.isNone then s.spawn .checkStatus else s
  | .mountAll => if s.reloading.isNone then s.spawn .mountAll else s
  | .mount uuid st => if s.reloading.isNone then s.mount uuid st else s
  | .handle i st =>
      match s.reloading, s.workers[i]? with
      | none, some (.waiting job mount left) =>
          (s.mount mount.uuid st).setWorker i (.looping job left)
      | _, _ => s
  | .enter i =>
      match s.workers[i]? with
      | some (.queued .mountAll) =>
          { s with mountAllrunning := true }.setWorker i (.entered .mountAll)
      | some (.queued .checkStatus) => s.setWorker i (.entered .checkStatus)
      | _ => s
  | .copy i =>
      match s.workers[i]? with
      | some (.entered job) => s.setWorker i (.looping job s.daemon.mounts)
      | _ => s
  | .look i dirExists =>
      match s.workers[i]? with
      | some (.looping job (mount :: left)) => s.look i dirExists job mount left
      | _ => s
  | .leave i =>
      match s.workers[i]? with
      | some (.looping .mountAll []) => { s with mountAllrunning := false }.setWorker i .finished
      | some (.looping .checkStatus []) => s.setWorker i .finished
      | _ => s
  | .process address st => { s with state := Function.update s.state address st }

/-! ## Requests -/

/-- A worker that waits saw the entry enabled in its copy. -/
def SawEnabled (w : Worker) : Prop :=
  ∀ job mount left, w = .waiting job mount left → mount.2.enabled = true

def Inv (s : Service) : Prop := ∀ w ∈ s.workers, SawEnabled w

/-- The request of a worker starts no process but that of an enabled entry, one of the uuid
asked for. -/
def StartsEnabled (s : Service) (a : Action) (s' : Service) : Prop :=
  ∀ i st, a = .handle i st → ∀ job mount left, s.workers[i]? = some (.waiting job mount left) →
    ∀ address, s'.started = s.started ++ [address] →
      ∃ m ∈ s.daemon.mounts, m.address = address ∧ m.uuid = mount.uuid ∧ m.2.enabled = true

/-- The entry found for a request says of `enabled` what the copy says, unless its process is
not stopped. -/
def FindsCopied (s : Service) (a : Action) (_ : Service) : Prop :=
  ∀ i st, a = .handle i st → s.reloading = none →
    ∀ job mount left, s.workers[i]? = some (.waiting job mount left) →
      ∀ m, s.daemon.entry mount.uuid = some m → s.state m.address = .notRunning →
        m.2.enabled = mount.2.enabled

section

variable {s : Service} {i : Nat} {w : Worker} {job : Job} {m mount : Mount} {left : List Mount}
  {uuid : BitVec 128} {st : ProcessState} {a : Action}

theorem mount_workers : (s.mount uuid st).workers = s.workers := by
  unfold Service.mount
  split
  · rfl
  · rfl

theorem mount_of_none (h : s.daemon.entry uuid = none) : (s.mount uuid st).started = s.started := by
  simp only [Service.mount, h]

theorem mount_of_some (h : s.daemon.entry uuid = some m) :
    (s.mount uuid st).started =
      if s.state m.address = .notRunning then s.started ++ [m.address] else s.started := by
  simp only [Service.mount, h, start]

/-- A request is handled while the daemon thread is idle. -/
theorem act_handle (hidle : s.reloading = none) (hw : s.workers[i]? = some (.waiting job mount left)) :
    s.act (.handle i st) = (s.mount mount.uuid st).setWorker i (.looping job left) := by
  simp only [act, hidle, hw]

/-- **A request** starts the process of an enabled entry of its uuid, exactly if what is found
agrees with the copy. -/
theorem startsEnabled_iff (hi : s.Inv) : StartsEnabled s a (s.act a) ↔ FindsCopied s a (s.act a) := by
  constructor
  · rintro h i st rfl hidle job mount left hw m hm hstopped
    have hstarted : (s.act (.handle i st)).started = s.started ++ [m.address] := by
      rw [act_handle hidle hw]
      show (s.mount mount.uuid st).started = _
      rw [mount_of_some hm, if_pos hstopped]
    obtain ⟨m', hm', ha, -, henabled⟩ := h i st rfl job mount left hw m.address hstarted
    -- the address tells the entries apart, also if their uuids do not
    rw [Keyed.Distinct.inj s.daemon.processes hm' (Keyed.first_mem hm) ha] at henabled
    rw [henabled, hi _ (List.mem_of_getElem? hw) job mount left rfl]
  · rintro h i st rfl job mount left hw address hstarted
    cases hbusy : s.reloading with
    | some rest =>
        have hsame : (s.act (.handle i st)).started = s.started := by
          simp only [act, hbusy]
        simp [hsame] at hstarted
    | none =>
        rw [act_handle hbusy hw] at hstarted
        change (s.mount mount.uuid st).started = _ at hstarted
        cases hm : s.daemon.entry mount.uuid with
        | none => simp [mount_of_none hm] at hstarted
        | some m =>
            rw [mount_of_some hm] at hstarted
            by_cases hstopped : s.state m.address = .notRunning
            · rw [if_pos hstopped] at hstarted
              have ha : m.address = address := by simpa using hstarted
              have henabled := h i st rfl hbusy job mount left hw m hm hstopped
              rw [hi _ (List.mem_of_getElem? hw) job mount left rfl] at henabled
              exact ⟨m, Keyed.first_mem hm, ha, Keyed.first_key hm, henabled⟩
            · rw [if_neg hstopped] at hstarted
              simp at hstarted

/-! ## The invariant -/

theorem Inv.congr (hi : s.Inv) {s' : Service} (h : s'.workers = s.workers) : s'.Inv := by
  unfold Inv
  rw [h]
  exact hi

theorem Inv.setWorker (hi : s.Inv) (hw : SawEnabled w) : (s.setWorker i w).Inv := by
  intro v hv
  cases List.mem_or_eq_of_mem_set hv with
  | inl hold => exact hi v hold
  | inr hnew => exact hnew ▸ hw

theorem Inv.spawn (hi : s.Inv) : (s.spawn job).Inv := by
  intro w hw
  cases List.mem_append.mp hw with
  | inl hold => exact hi w hold
  | inr hnew =>
      rw [List.mem_singleton.mp hnew]
      rintro _ _ _ ⟨⟩

/-- A worker looks before it waits. -/
theorem Inv.look (hi : s.Inv) {dirExists : Bool} : (s.look i dirExists job mount left).Inv := by
  have hpass : SawEnabled (.looping job left) := by
    rintro _ _ _ ⟨⟩
  cases job with
  | mountAll =>
      simp only [Service.look]
      split
      · next h =>
          refine hi.setWorker ?_
          rintro _ _ _ ⟨⟩
          exact (Bool.and_eq_true_iff.mp h).2
      · exact hi.setWorker hpass
  | checkStatus =>
      simp only [Service.look]
      split
      · next h =>
          refine Inv.setWorker (hi.congr rfl) ?_
          rintro _ _ _ ⟨⟩
          simp only [Bool.and_eq_true] at h
          exact h.1.1.2
      · exact Inv.setWorker (hi.congr rfl) hpass

/-- Every action keeps it. -/
theorem Inv.act (hi : s.Inv) (a : Action) : (s.act a).Inv := by
  have hpass : ∀ w : Worker, (∀ job mount left, w ≠ .waiting job mount left) → SawEnabled w :=
    fun w hw job mount left he => absurd he (hw job mount left)
  cases a with
  | reload mountlist =>
      simp only [Service.act]
      split
      · exact hi.congr rfl
      · exact hi
  | edit =>
      simp only [Service.act]
      split
      · exact hi
      · exact hi.congr rfl
      · exact Inv.spawn (hi.congr rfl)
  | timeout =>
      simp only [Service.act]
      split
      · exact hi.spawn
      · exact hi
  | mountAll =>
      simp only [Service.act]
      split
      · exact hi.spawn
      · exact hi
  | mount uuid st =>
      simp only [Service.act]
      split
      · exact hi.congr mount_workers
      · exact hi
  | handle i st =>
      simp only [Service.act]
      split
      · exact Inv.setWorker (hi.congr mount_workers) (hpass _ (by simp))
      · exact hi
  | enter i =>
      simp only [Service.act]
      split
      · exact Inv.setWorker (hi.congr rfl) (hpass _ (by simp))
      · exact hi.setWorker (hpass _ (by simp))
      · exact hi
  | copy i =>
      simp only [Service.act]
      split
      · exact hi.setWorker (hpass _ (by simp))
      · exact hi
  | look i dirExists =>
      simp only [Service.act]
      split
      · exact hi.look
      · exact hi
  | leave i =>
      simp only [Service.act]
      split
      · exact Inv.setWorker (hi.congr rfl) (hpass _ (by simp))
      · exact hi.setWorker (hpass _ (by simp))
      · exact hi
  | process address st => exact hi.congr rfl

end

/-- **Requests of workers.**  Whatever the order of reloads, workers and requests, each request
starts the process of an enabled entry of its uuid or nothing, exactly if each time the entry
found says of `enabled` what the copy says. -/
theorem starts_enabled_along_iff (fileName : WString) (actions : List Action) :
    History.Along StartsEnabled (init fileName) (History.trace act (init fileName) actions) ↔
      History.Along FindsCopied (init fileName) (History.trace act (init fileName) actions) := by
  refine History.Path.along_iff (I := Inv) ?_ ?_ ?_ (History.path_trace actions _)
  · rintro s a _ hi rfl
    exact startsEnabled_iff hi
  · rintro s a _ hi rfl -
    exact hi.act a
  · intro w hw
    cases hw

/-- A mount is stored, `mountAll` sees it enabled, the user disables it, and the request is
handled. -/
theorem not_starts_enabled_along :
    ¬ ∀ (fileName : WString) (actions : List Action),
      History.Along StartsEnabled (init fileName) (History.trace act (init fileName) actions) := by
  intro h
  have hall := h [] [.reload [{ uuid := 1, enabled := true }], .edit, .edit, .enter 0, .copy 0,
    .look 0 true, .reload [{ uuid := 1 }], .edit, .edit, .handle 0 .running]
  obtain ⟨-, -, -, -, -, -, -, -, -, hlast, -⟩ := hall
  obtain ⟨m, hm, -, -, henabled⟩ := hlast 0 .running rfl _ _ _ rfl 1 rfl
  cases List.mem_singleton.mp hm
  cases henabled

end Service

end SeamlessSmb
