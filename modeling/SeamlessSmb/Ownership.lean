/-
# `Ownership` — how long a process lives

A `QProcess` is shared.  `mounts` has a reference to it, and so has the copy of `mounts` that a
worker goes through, until the loop is left.  The last one to let go destroys the object, and the
destructor kills what still runs.

| source | here |
| :-- | :-- |
| the references in a worker's copy | `held`, with the worker |
| `mount` going out of scope in `remove` and `modify`, and the copy at the end of a loop | `settle` |
| `QProcess::~QProcess` | `Holders.release` |
| `Daemon::~Daemon`, and the members going after it | `destruct` |

A process that was not started does not run: a stopped one may not come up by itself (`Possible`).

**Proved here:** whatever the order of reloads, requests and workers, a process that runs is that of an
entry or is held by a worker in its loop, and an edit that takes a process away leaves it running
only if a worker holds it (`owned_along`).  So while no worker is in its loop each process that runs
has an entry to itself, and was started for that (`onePerMount_along`), and the destructor leaves
none (`destruct_stops`).
-/
import SeamlessSmb.Workers
import SeamlessSmb.Lib.Holders

namespace SeamlessSmb

/-! ## What an action of the service does -/

/-- Past the copy and not past the loop. -/
def Worker.InLoop : Worker → Prop
  | .looping _ _ | .waiting _ _ _ => True
  | _ => False

namespace Service

/-- Worker `i` is in its loop. -/
def InLoop (s : Service) (i : Nat) : Prop := ∃ w, s.workers[i]? = some w ∧ w.InLoop

section

variable {s : Service} {i j k : Nat} {w : Worker} {a : Action} {job : Job} {m : Mount}
  {left : List Mount} {uuid : BitVec 128} {st : ProcessState}

theorem InLoop.congr (h : s.InLoop i) {s' : Service} (hs : s'.workers = s.workers) : s'.InLoop i := by
  unfold InLoop
  rw [hs]
  exact h

theorem InLoop.setWorker (h : s.InLoop i) (hw : j = i → w.InLoop) : (s.setWorker j w).InLoop i := by
  obtain ⟨v, hv, hloop⟩ := h
  by_cases hji : j = i
  · refine ⟨w, ?_, hw hji⟩
    obtain ⟨hlt, -⟩ := List.getElem?_eq_some_iff.mp hv
    show (s.workers.set j w)[i]? = some w
    rw [hji, List.getElem?_set_self hlt]
  · refine ⟨v, ?_, hloop⟩
    show (s.workers.set j w)[i]? = some v
    rw [List.getElem?_set_ne hji, hv]

theorem InLoop.spawn (h : s.InLoop i) : (s.spawn job).InLoop i := by
  obtain ⟨v, hv, hloop⟩ := h
  obtain ⟨hlt, -⟩ := List.getElem?_eq_some_iff.mp hv
  refine ⟨v, ?_, hloop⟩
  show (s.workers ++ [Worker.queued job])[i]? = some v
  rw [List.getElem?_append_left hlt, hv]

theorem InLoop.look (h : s.InLoop i) {dirExists : Bool} : (s.look j dirExists job m left).InLoop i := by
  cases job with
  | mountAll =>
      simp only [Service.look]
      split
      · exact h.setWorker fun _ => trivial
      · exact h.setWorker fun _ => trivial
  | checkStatus =>
      have hs : InLoop { s with statuses := s.statuses ++ [(m.uuid, decide (s.state m.address = .running))] } i :=
        h.congr rfl
      simp only [Service.look]
      split
      · exact hs.setWorker fun _ => trivial
      · exact hs.setWorker fun _ => trivial

/-- A loop is left by `leave` only. -/
theorem InLoop.act (h : s.InLoop i) (a : Action) :
    (s.act a).InLoop i ∨ (a = .leave i ∧ ∃ job, s.workers[i]? = some (.looping job [])) := by
  -- a worker that is not in its loop is another one
  have hother : ∀ {j : Nat} {v w : Worker}, s.workers[j]? = some v → ¬ v.InLoop → j = i → w.InLoop := by
    rintro j v w hv hout rfl
    obtain ⟨v', hv', hloop⟩ := h
    rw [hv] at hv'
    cases hv'
    exact absurd hloop hout
  have hleave : ∀ {j : Nat} {job : Job}, s.workers[j]? = some (.looping job []) → j = i →
      Action.leave j = .leave i ∧ ∃ job, s.workers[i]? = some (.looping job []) := by
    rintro j job hj rfl
    exact ⟨rfl, job, hj⟩
  cases a with
  | reload mountlist =>
      refine .inl ?_
      simp only [Service.act]
      split
      · exact h.congr rfl
      · exact h
  | edit =>
      refine .inl ?_
      simp only [Service.act]
      split
      · exact h
      · exact h.congr rfl
      · exact InLoop.spawn (h.congr rfl)
  | timeout =>
      refine .inl ?_
      simp only [Service.act]
      split
      · exact h.spawn
      · exact h
  | mountAll =>
      refine .inl ?_
      simp only [Service.act]
      split
      · exact h.spawn
      · exact h
  | mount uuid st =>
      refine .inl ?_
      simp only [Service.act]
      split
      · exact h.congr mount_workers
      · exact h
  | handle j st =>
      refine .inl ?_
      simp only [Service.act]
      split
      · exact InLoop.setWorker (h.congr mount_workers) fun _ => trivial
      · exact h
  | enter j =>
      refine .inl ?_
      simp only [Service.act]
      split
      · next hj => exact InLoop.setWorker (h.congr rfl) (hother hj id)
      · next hj => exact h.setWorker (hother hj id)
      · exact h
  | copy j =>
      refine .inl ?_
      simp only [Service.act]
      split
      · exact h.setWorker fun _ => trivial
      · exact h
  | look j dirExists =>
      refine .inl ?_
      simp only [Service.act]
      split
      · exact h.look
      · exact h
  | leave j =>
      by_cases hji : j = i
      · simp only [Service.act]
        split
        · next hj => exact .inr (hleave hj hji)
        · next hj => exact .inr (hleave hj hji)
        · exact .inl h
      · refine .inl ?_
        simp only [Service.act]
        split
        · exact InLoop.setWorker (h.congr rfl) fun he => absurd he hji
        · exact h.setWorker fun he => absurd he hji
        · exact h
  | process address st => exact .inl (h.congr rfl)

/-- What every action but a turn of a reload leaves alone: the entries, the edits to come, but for a
new reload, and the processes, but for one that is started for an entry or changes by itself. -/
structure Frame (s : Service) (a : Action) (s' : Service) : Prop where
  daemon : s'.daemon = s.daemon
  reloading : s'.reloading = s.reloading ∨
    ∃ mountlist, a = .reload mountlist ∧ s'.reloading = some (s.daemon.edits mountlist)
  state : s'.state = s.state ∨ ∃ k st, s'.state = Function.update s.state k st ∧
    (a = .process k st ∨ k ∈ s.daemon.mounts.map Mount.address)

theorem frame_refl : Frame s a s := ⟨rfl, .inl rfl, .inl rfl⟩

theorem frame_mount : Frame s a (s.mount uuid st) := by
  unfold Service.mount
  split
  · exact frame_refl
  · next m hm =>
      exact ⟨rfl, .inl rfl, .inr ⟨m.address, st, rfl, .inr (List.mem_map_of_mem (Keyed.first_mem hm))⟩⟩

theorem Frame.setWorker {s' : Service} (h : Frame s a s') : Frame s a (s'.setWorker i w) :=
  ⟨h.daemon, h.reloading, h.state⟩

theorem frame_look {dirExists : Bool} : Frame s a (s.look i dirExists job m left) := by
  cases job with
  | mountAll =>
      simp only [Service.look]
      split
      · exact frame_refl.setWorker
      · exact frame_refl.setWorker
  | checkStatus =>
      simp only [Service.look]
      split
      · exact Frame.setWorker ⟨rfl, .inl rfl, .inl rfl⟩
      · exact Frame.setWorker ⟨rfl, .inl rfl, .inl rfl⟩

/-- **One action** that is no turn of a reload. -/
theorem act_frame (ha : a ≠ .edit) : Frame s a (s.act a) := by
  cases a with
  | edit => exact absurd rfl ha
  | reload mountlist =>
      simp only [act]
      split
      · exact ⟨rfl, .inr ⟨mountlist, rfl, rfl⟩, .inl rfl⟩
      · exact frame_refl
  | timeout =>
      simp only [act]
      split
      · exact ⟨rfl, .inl rfl, .inl rfl⟩
      · exact frame_refl
  | mountAll =>
      simp only [act]
      split
      · exact ⟨rfl, .inl rfl, .inl rfl⟩
      · exact frame_refl
  | mount uuid st =>
      simp only [act]
      split
      · exact frame_mount
      · exact frame_refl
  | handle i st =>
      simp only [act]
      split
      · exact frame_mount.setWorker
      · exact frame_refl
  | enter i =>
      simp only [act]
      split
      · exact Frame.setWorker ⟨rfl, .inl rfl, .inl rfl⟩
      · exact frame_refl.setWorker
      · exact frame_refl
  | copy i =>
      simp only [act]
      split
      · exact frame_refl.setWorker
      · exact frame_refl
  | look i dirExists =>
      simp only [act]
      split
      · exact frame_look
      · exact frame_refl
  | leave i =>
      simp only [act]
      split
      · exact Frame.setWorker ⟨rfl, .inl rfl, .inl rfl⟩
      · exact frame_refl.setWorker
      · exact frame_refl
  | process k st => exact ⟨rfl, .inl rfl, .inr ⟨k, st, rfl, .inl rfl⟩⟩

end

end Service

/-! ## References -/

/-- The process objects that a turn of a reload lets go of. -/
def Edit.released (d : Daemon) : Edit → List Nat
  | .add _ => []
  | .remove info => d.processesOf [info]
  | .modify info => d.processesOf [info]

/-- The uuid that a turn of a reload puts in. -/
def Edit.added : Edit → Option (BitVec 128)
  | .add info => some info.uuid
  | _ => none

/-- The service with the references that its workers have: the worker and the address. -/
structure Owners where
  service : Service
  held : List (Nat × Nat) := []

namespace Owners

/-- Somebody has a reference to the object. -/
def Referenced (s : Owners) (k : Nat) : Prop :=
  k ∈ s.service.daemon.mounts.map Mount.address ∨ k ∈ s.held.map Prod.snd

instance (s : Owners) : DecidablePred s.Referenced := fun _ => inferInstanceAs (Decidable (_ ∨ _))

/-- References to these are let go of. -/
def settle (s : Owners) (dropped : List Nat) : Owners :=
  { s with
    service := { s.service with
      state := Holders.release s.Referenced .notRunning dropped s.service.state } }

/-- What worker `i` has. -/
def copied (s : Owners) (i : Nat) : List Nat := (s.held.filter fun e => e.1 = i).map Prod.snd

/-- One action of the service, with what becomes of the references. -/
def act (s : Owners) (a : Service.Action) : Owners :=
  let after : Owners := { s with service := s.service.act a }
  match a with
  | .edit =>
      match s.service.reloading with
      | some (e :: _) => after.settle (e.released s.service.daemon)
      | _ => after
  | .copy i =>
      match s.service.workers[i]? with
      | some (.entered _) =>
          { after with held := s.held ++ s.service.daemon.mounts.map fun m => (i, m.address) }
      | _ => after
  | .leave i =>
      match s.service.workers[i]? with
      | some (.looping _ []) => { after with held := s.held.filter fun e => e.1 ≠ i }.settle (s.copied i)
      | _ => after
  | _ => after

/-- A process that is stopped does not come up by itself. -/
def Possible (s : Owners) : Service.Action → Prop
  | .process k _ => s.service.state k ≠ .notRunning
  | _ => True

/-- One step. -/
def Step (s : Owners) (a : Service.Action) (s' : Owners) : Prop := s.Possible a ∧ s' = s.act a

/-- After the constructor of `Daemon`. -/
def init (fileName : WString) : Owners := { service := .init fileName }

/-! ## Who owns a process -/

/-- A process that runs is that of an entry, or held by a worker in its loop. -/
def Owned (s : Owners) : Prop :=
  ∀ k, s.service.state k ≠ .notRunning → (∃ m ∈ s.service.daemon.mounts, m.address = k) ∨
    ∃ i, (i, k) ∈ s.held ∧ s.service.InLoop i

/-- What a turn of a reload takes away runs on exactly if it ran and a worker holds it. -/
def Releases (s : Owners) (a : Service.Action) (s' : Owners) : Prop :=
  a = .edit → ∀ e rest, s.service.reloading = some (e :: rest) →
    ∀ k ∈ e.released s.service.daemon, s'.service.state k ≠ .notRunning ↔
      s.service.state k ≠ .notRunning ∧ k ∈ s.held.map Prod.snd

/-- The invariant. -/
structure Inv (s : Owners) : Prop where
  alive : Holders.Alive s.Referenced .notRunning s.service.state
  loops : ∀ e ∈ s.held, s.service.InLoop e.1
  given : ∀ m ∈ s.service.daemon.mounts, m.1.uuid = m.uuid ∧ m.1.fileName = s.service.daemon.fileName

section

variable {s s' : Owners} {a : Service.Action} {e : Edit} {rest : List Edit} {d : Daemon} {k i : Nat}

theorem Inv.owned (hi : s.Inv) : s.Owned := by
  intro k hk
  rcases hi.alive k hk with h | h
  · exact .inl (List.mem_map.mp h)
  · obtain ⟨⟨i, k'⟩, he, rfl⟩ := List.mem_map.mp h
    exact .inr ⟨i, he, hi.loops _ he⟩

/-! ## A turn of a reload -/

theorem mem_processesOf_one {info : MountInfo} {m : Mount} (h : d.entry info.uuid = some m) :
    k ∈ d.processesOf [info] ↔ k = m.address := by
  simp [Daemon.processesOf, h]

/-- An object that is no longer that of an entry was let go of. -/
theorem apply_keeps (hk : k ∈ d.mounts.map Mount.address) :
    k ∈ (e.apply d).mounts.map Mount.address ∨ k ∈ e.released d := by
  obtain ⟨m, hm, rfl⟩ := List.mem_map.mp hk
  cases e with
  | add info => exact .inl (List.mem_map_of_mem (List.mem_append_left _ hm))
  | remove info =>
      simp only [Edit.apply, Daemon.removeOne, Edit.released]
      split
      · exact .inl hk
      · next m' hentry =>
          rw [mem_processesOf_one hentry]
          refine (Keyed.mem_erase_or_first hm).imp List.mem_map_of_mem fun hfirst => ?_
          exact congrArg Mount.address (Option.some.inj (hfirst.symm.trans hentry))
  | modify info =>
      simp only [Edit.apply, Daemon.modifyOne, Edit.released]
      split
      · exact .inl hk
      · next m' hentry =>
          rw [mem_processesOf_one hentry]
          refine (Keyed.mem_replace_or_first hm).imp List.mem_map_of_mem fun hfirst => ?_
          exact congrArg Mount.address (Option.some.inj (hfirst.symm.trans hentry))

/-- And the other way round: addresses are not used again. -/
theorem apply_releases (hk : k ∈ e.released d) : k ∉ (e.apply d).mounts.map Mount.address := by
  intro hthere
  obtain ⟨m, hm, rfl⟩ := List.mem_map.mp hthere
  cases e with
  | add info => cases hk
  | remove info =>
      cases hentry : d.entry info.uuid with
      | none => simp [Edit.released, Daemon.processesOf, hentry] at hk
      | some m' =>
          simp only [Edit.apply, Daemon.removeOne, hentry] at hm
          have haddress : m.address = m'.address := (mem_processesOf_one hentry).mp hk
          rw [d.processes.inj (Keyed.erase_sublist.subset hm) (Keyed.first_mem hentry) haddress] at hm
          exact Keyed.not_mem_erase_first d.processes.nodup hentry hm
  | modify info =>
      cases hentry : d.entry info.uuid with
      | none => simp [Edit.released, Daemon.processesOf, hentry] at hk
      | some m' =>
          simp only [Edit.apply, Daemon.modifyOne, hentry] at hm
          have haddress : m.address = m'.address := (mem_processesOf_one hentry).mp hk
          have hold : m'.address < d.next := d.allocated m' (Keyed.first_mem hentry)
          rcases Keyed.mem_replace hm with rfl | hin
          · exact absurd haddress.symm (Nat.ne_of_lt hold)
          · rw [d.processes.inj hin (Keyed.first_mem hentry) haddress] at hm
            refine Keyed.not_mem_replace_first d.processes.nodup hentry ?_ hm
            intro he
            rw [he] at hold
            exact Nat.lt_irrefl _ hold

/-- An entry is put in with a process of its own uuid. -/
theorem apply_given (h : ∀ m ∈ d.mounts, m.1.uuid = m.uuid ∧ m.1.fileName = d.fileName) :
    ∀ m ∈ (e.apply d).mounts, m.1.uuid = m.uuid ∧ m.1.fileName = (e.apply d).fileName := by
  intro m hm
  cases e with
  | add info =>
      rcases List.mem_append.mp hm with hm | hm
      · exact h m hm
      · rw [List.mem_singleton.mp hm]
        exact ⟨rfl, rfl⟩
  | remove info =>
      simp only [Edit.apply, Daemon.removeOne] at hm ⊢
      split at hm
      · exact h m hm
      · exact h m (Keyed.erase_sublist.subset hm)
  | modify info =>
      simp only [Edit.apply, Daemon.modifyOne] at hm ⊢
      split at hm
      · exact h m hm
      · rcases Keyed.mem_replace hm with rfl | hm
        · exact ⟨rfl, rfl⟩
        · exact h m hm

/-! ## The invariant is kept -/

/-- An action that leaves the entries and what is held. -/
theorem Inv.quiet (hi : s.Inv) (hpossible : s.Possible a) (ha : a ≠ .edit)
    (hleave : ∀ i, a = .leave i → ∀ job, s.service.workers[i]? ≠ some (.looping job [])) :
    Inv { s with service := s.service.act a } := by
  have hframe : Service.Frame s.service a (s.service.act a) := Service.act_frame ha
  refine ⟨?_, ?_, ?_⟩
  · have hreferenced : ∀ k, s.Referenced k → Referenced { s with service := s.service.act a } k := by
      intro k hk
      unfold Referenced
      rw [hframe.daemon]
      exact hk
    refine Holders.Alive.mono ?_ hreferenced
    rcases hframe.state with h | ⟨k, st, h, rfl | hk⟩
    · rw [h]
      exact hi.alive
    · rw [h]
      exact hi.alive.update (hi.alive k hpossible)
    · rw [h]
      exact hi.alive.update (.inl hk)
  · intro e he
    rcases (hi.loops e he).act a with h | ⟨rfl, job, hjob⟩
    · exact h
    · exact absurd hjob (hleave e.1 rfl job)
  · show ∀ m ∈ (s.service.act a).daemon.mounts, _ ∧ _ = (s.service.act a).daemon.fileName
    rw [hframe.daemon]
    exact hi.given

theorem act_edit (h : s.service.reloading = some (e :: rest)) :
    s.act .edit = settle { s with service := { s.service with
      daemon := e.apply s.service.daemon, reloading := some rest } } (e.released s.service.daemon) := by
  simp [act, Service.act, h]

theorem act_copy {job : Job} (h : s.service.workers[i]? = some (.entered job)) :
    s.act (.copy i) =
      { service := s.service.setWorker i (.looping job s.service.daemon.mounts)
        held := s.held ++ s.service.daemon.mounts.map fun m => (i, m.address) } := by
  simp [act, Service.act, h]

theorem act_leave {job : Job} (h : s.service.workers[i]? = some (.looping job [])) :
    s.act (.leave i) =
      settle { service := s.service.act (.leave i), held := s.held.filter fun e => e.1 ≠ i } (s.copied i) := by
  simp [act, h]

/-- Letting go of what is not referred to any more. -/
theorem Inv.settle {dropped : List Nat} {P : Nat → Prop}
    (halive : Holders.Alive P .notRunning s.service.state)
    (hdropped : ∀ k, P k → s.Referenced k ∨ k ∈ dropped)
    (hloops : ∀ e ∈ s.held, s.service.InLoop e.1)
    (hgiven : ∀ m ∈ s.service.daemon.mounts,
      m.1.uuid = m.uuid ∧ m.1.fileName = s.service.daemon.fileName) : (s.settle dropped).Inv where
  alive := halive.release hdropped
  loops := hloops
  given := hgiven

theorem Inv.edit (hi : s.Inv) (h : s.service.reloading = some (e :: rest)) : (s.act .edit).Inv := by
  rw [act_edit h]
  refine Inv.settle hi.alive ?_ (fun e he => (hi.loops e he).congr rfl) (apply_given hi.given)
  rintro k (hk | hk)
  · exact (apply_keeps hk).imp_left .inl
  · exact .inl (.inr hk)

theorem Inv.copy (hi : s.Inv) {job : Job} (h : s.service.workers[i]? = some (.entered job)) :
    (s.act (.copy i)).Inv := by
  rw [act_copy h]
  refine ⟨hi.alive.mono ?_, ?_, hi.given⟩
  · rintro k (hk | hk)
    · exact .inl hk
    · refine .inr ?_
      rw [List.map_append]
      exact List.mem_append_left _ hk
  · intro e he
    rcases List.mem_append.mp he with he | he
    · exact (hi.loops e he).setWorker fun _ => trivial
    · -- the worker is in its loop now
      obtain ⟨m, -, rfl⟩ := List.mem_map.mp he
      obtain ⟨hlt, -⟩ := List.getElem?_eq_some_iff.mp h
      exact ⟨_, List.getElem?_set_self hlt, trivial⟩

theorem Inv.leave (hi : s.Inv) {job : Job} (h : s.service.workers[i]? = some (.looping job [])) :
    (s.act (.leave i)).Inv := by
  have hdaemon : (s.service.act (.leave i)).daemon = s.service.daemon :=
    (Service.act_frame (by simp)).daemon
  have hstate : (s.service.act (.leave i)).state = s.service.state := by
    simp only [Service.act]
    split <;> rfl
  rw [act_leave h]
  refine Inv.settle (P := s.Referenced) ?_ ?_ ?_ ?_
  · show Holders.Alive _ _ (s.service.act (.leave i)).state
    rw [hstate]
    exact hi.alive
  · rintro k (hk | hk)
    · refine .inl (.inl ?_)
      show k ∈ (s.service.act (.leave i)).daemon.mounts.map Mount.address
      rw [hdaemon]
      exact hk
    · obtain ⟨⟨j, k'⟩, he, rfl⟩ := List.mem_map.mp hk
      by_cases hj : j = i
      · exact .inr (List.mem_map_of_mem (List.mem_filter.mpr ⟨he, decide_eq_true hj⟩))
      · exact .inl (.inr (List.mem_map_of_mem (List.mem_filter.mpr ⟨he, decide_eq_true hj⟩)))
  · intro e he
    obtain ⟨he, hne⟩ := List.mem_filter.mp he
    rcases (hi.loops e he).act (.leave i) with hloop | ⟨hleave, -⟩
    · exact hloop
    · cases hleave
      exact absurd rfl (of_decide_eq_true hne)
  · show ∀ m ∈ (s.service.act (.leave i)).daemon.mounts, _ ∧ _ = (s.service.act (.leave i)).daemon.fileName
    rw [hdaemon]
    exact hi.given

/-- **One step** keeps it. -/
theorem Inv.step (hi : s.Inv) (h : s.Step a s') : s'.Inv := by
  obtain ⟨hpossible, rfl⟩ := h
  cases a with
  | edit =>
      cases hreloading : s.service.reloading with
      | none =>
          have hsame : s.act .edit = s := by
            simp [Owners.act, Service.act, hreloading]
          rw [hsame]
          exact hi
      | some edits =>
          cases edits with
          | nil =>
              have hspawn : s.act .edit =
                  { s with service := { s.service with reloading := none }.spawn .mountAll } := by
                simp [Owners.act, Service.act, hreloading]
              rw [hspawn]
              exact ⟨hi.alive, fun e he => Service.InLoop.spawn ((hi.loops e he).congr rfl), hi.given⟩
          | cons e rest => exact hi.edit hreloading
  | copy i =>
      by_cases hentered : ∃ job, s.service.workers[i]? = some (.entered job)
      · obtain ⟨job, hentered⟩ := hentered
        exact hi.copy hentered
      · have hact : s.act (.copy i) = { s with service := s.service.act (.copy i) } := by
          simp only [Owners.act]
          split
          · next hw => exact absurd ⟨_, hw⟩ hentered
          · rfl
        rw [hact]
        exact hi.quiet trivial (by simp) (by simp)
  | leave i =>
      by_cases hdone : ∃ job, s.service.workers[i]? = some (.looping job [])
      · obtain ⟨job, hdone⟩ := hdone
        exact hi.leave hdone
      · have hact : s.act (.leave i) = { s with service := s.service.act (.leave i) } := by
          simp only [Owners.act]
          split
          · next hw => exact absurd ⟨_, hw⟩ hdone
          · rfl
        rw [hact]
        refine hi.quiet trivial (by simp) ?_
        intro j hj job hw
        cases hj
        exact hdone ⟨job, hw⟩
  | reload mountlist => exact hi.quiet trivial (by simp) (by simp)
  | timeout => exact hi.quiet trivial (by simp) (by simp)
  | mountAll => exact hi.quiet trivial (by simp) (by simp)
  | mount uuid st => exact hi.quiet trivial (by simp) (by simp)
  | handle i st => exact hi.quiet trivial (by simp) (by simp)
  | enter i => exact hi.quiet trivial (by simp) (by simp)
  | look i dirExists => exact hi.quiet trivial (by simp) (by simp)
  | process k st => exact hi.quiet hpossible (by simp) (by simp)

/-- **A turn of a reload** lets go of what it takes away. -/
theorem act_releases : Releases s a (s.act a) := by
  rintro rfl e rest hreloading k hk
  rw [act_edit hreloading]
  refine Holders.release_ne_iff.trans (and_congr_right fun _ => ?_)
  constructor
  · intro h
    exact (h hk).resolve_left (apply_releases hk)
  · exact fun h _ => .inr h

end

theorem init_inv (fileName : WString) : (init fileName).Inv where
  alive _ h := absurd rfl h
  loops _ h := absurd h List.not_mem_nil
  given _ h := absurd h List.not_mem_nil

/-- **Owners.**  However reloads, workers, requests and processes follow on each other, a process that
runs is always that of an entry or held by a worker in its loop, and what an edit takes away runs on
exactly if a worker holds it. -/
theorem owned_along {fileName : WString} {history : List (Service.Action × Owners)}
    (h : History.Path Step (init fileName) history) :
    History.Along (fun s a s' => s'.Owned ∧ Releases s a s') (init fileName) history := by
  refine History.Path.along_all (I := Inv) ?_ (init_inv fileName) h
  intro s a s' hi hstep
  have hi' := hi.step hstep
  rw [hstep.2] at hi' ⊢
  exact ⟨⟨hi'.owned, act_releases⟩, hi'⟩

/-- A mount is loaded, copied by a worker, started and removed: the process runs on. -/
theorem owned_along_removed :
    History.Along (fun s a s' => s'.Owned ∧ Releases s a s') (init [])
      (History.trace act (init []) [.reload [{ uuid := 1 }], .edit, .edit, .enter 0, .copy 0,
        .mount 1 .running, .reload [], .edit]) :=
  owned_along (.cons ⟨trivial, rfl⟩ (.cons ⟨trivial, rfl⟩ (.cons ⟨trivial, rfl⟩ (.cons ⟨trivial, rfl⟩
    (.cons ⟨trivial, rfl⟩ (.cons ⟨trivial, rfl⟩ (.cons ⟨trivial, rfl⟩ (.cons ⟨trivial, rfl⟩ .nil))))))))

/-! ## One process for each mount -/

/-- The uuids that the turns put in differ, and there is no entry for one yet. -/
def Fresh (d : Daemon) (edits : List Edit) : Prop :=
  (edits.filterMap Edit.added).Nodup ∧ ∀ uuid ∈ edits.filterMap Edit.added, d.entry uuid = none

/-- The list that is loaded has no uuid twice. -/
def LoadsDistinct : Service.Action → Prop
  | .reload mountlist => (mountlist.map MountInfo.uuid).Nodup
  | _ => True

/-- A process that runs has an entry to itself, and was given its uuid and the settings file. -/
def OnePerMount (s : Owners) : Prop :=
  ∀ k, s.service.state k ≠ .notRunning → ∃ m, s.service.daemon.entry m.uuid = some m ∧ m.address = k ∧
    m.1.uuid = m.uuid ∧ m.1.fileName = s.service.daemon.fileName

/-- The uuids of the entries differ, and will. -/
structure Sound (s : Owners) : Prop where
  distinct : s.service.daemon.Distinct
  fresh : ∀ edits, s.service.reloading = some edits → Fresh s.service.daemon edits

section

variable {s s' : Owners} {a : Service.Action} {e : Edit} {edits : List Edit} {d : Daemon}

theorem fresh_edits {mountlist : List MountInfo}
    (hm : (mountlist.map MountInfo.uuid).Nodup) : Fresh d (d.edits mountlist) := by
  have hadded : (d.edits mountlist).filterMap Edit.added =
      (d.toaddModify mountlist).1.map MountInfo.uuid := by
    have hnone : ∀ (f : MountInfo → Edit) (l : List MountInfo), (∀ info, (f info).added = none) →
        (l.map f).filterMap Edit.added = [] := by
      intro f l hf
      rw [List.filterMap_map]
      exact List.filterMap_eq_nil_iff.mpr fun info _ => hf info
    unfold Daemon.edits
    rw [List.filterMap_append, List.filterMap_append, hnone .remove _ fun _ => rfl, hnone .modify _ fun _ => rfl,
      List.nil_append, List.append_nil, List.filterMap_map]
    show List.filterMap (some ∘ MountInfo.uuid) _ = _
    rw [List.filterMap_eq_map]
  unfold Fresh
  rw [hadded]
  refine ⟨Daemon.toadd_nodup hm, ?_⟩
  intro uuid huuid
  obtain ⟨info, hinfo, rfl⟩ := List.mem_map.mp huuid
  exact (Daemon.mem_toadd.mp hinfo).2

/-- **One turn** leaves the uuids different. -/
theorem Fresh.apply (hd : d.Distinct) (h : Fresh d (e :: edits)) :
    (e.apply d).Distinct ∧ Fresh (e.apply d) edits := by
  obtain ⟨hnodup, hnone⟩ := h
  cases e with
  | remove info =>
      refine ⟨Daemon.removeOne_distinct hd, hnodup, fun uuid huuid => ?_⟩
      show (d.removeOne info).entry uuid = none
      rw [Daemon.removeOne_entry hd, Function.update_apply]
      split
      · rfl
      · exact hnone uuid huuid
  | add info =>
      obtain ⟨hinfo, hnodup⟩ := List.nodup_cons.mp hnodup
      have hput := Daemon.addOne_put hd (Option.isSome_eq_false_iff.mpr
        (Option.isNone_iff_eq_none.mpr (hnone info.uuid List.mem_cons_self)))
      refine ⟨hput.distinct, hnodup, fun uuid huuid => ?_⟩
      show (d.addOne info).entry uuid = none
      rw [hput.entry, Function.update_of_ne]
      · exact hnone uuid (List.mem_cons_of_mem _ huuid)
      · rintro rfl
        exact hinfo huuid
  | modify info =>
      cases hentry : d.entry info.uuid with
      | none =>
          have hsame : (Edit.modify info).apply d = d := by
            simp only [Edit.apply, Daemon.modifyOne, hentry]
          rw [hsame]
          exact ⟨hd, hnodup, hnone⟩
      | some m =>
          have hput : Daemon.PutOne d info (d.modifyOne info) :=
            Daemon.modifyOne_put hd (by rw [hentry]; rfl)
          refine ⟨hput.distinct, hnodup, fun uuid huuid => ?_⟩
          show (d.modifyOne info).entry uuid = none
          rw [hput.entry, Function.update_of_ne]
          · exact hnone uuid huuid
          · rintro rfl
            have hnew := hnone _ huuid
            rw [hentry] at hnew
            cases hnew

/-- What becomes of the references says nothing about the entries. -/
theorem act_service : (s.act a).service.daemon = (s.service.act a).daemon ∧
    (s.act a).service.reloading = (s.service.act a).reloading := by
  unfold Owners.act
  split
  · split <;> exact ⟨rfl, rfl⟩
  · split <;> exact ⟨rfl, rfl⟩
  · split <;> exact ⟨rfl, rfl⟩
  · exact ⟨rfl, rfl⟩

theorem Sound.step (hs : s.Sound) (h : s.Step a s') (hload : LoadsDistinct a) : s'.Sound := by
  obtain ⟨-, rfl⟩ := h
  obtain ⟨hdaemon, hreloading⟩ : (s.act a).service.daemon = (s.service.act a).daemon ∧
    (s.act a).service.reloading = (s.service.act a).reloading := act_service
  by_cases ha : a = .edit
  · subst ha
    cases hedits : s.service.reloading with
    | none =>
        have hsame : s.service.act .edit = s.service := by
          simp [Service.act, hedits]
        rw [hsame] at hdaemon hreloading
        exact ⟨by rw [hdaemon]; exact hs.distinct, by rw [hdaemon, hreloading]; exact hs.fresh⟩
    | some edits =>
        cases edits with
        | nil =>
            have hdone : (s.service.act .edit).daemon = s.service.daemon ∧
                (s.service.act .edit).reloading = none := by
              simp [Service.act, hedits, Service.spawn]
            refine ⟨by rw [hdaemon, hdone.1]; exact hs.distinct, ?_⟩
            rw [hreloading, hdone.2]
            intro edits he
            cases he
        | cons e rest =>
            have hturn : (s.service.act .edit).daemon = e.apply s.service.daemon ∧
                (s.service.act .edit).reloading = some rest := by
              simp [Service.act, hedits]
            obtain ⟨hdistinct, hfresh⟩ := (hs.fresh _ hedits).apply hs.distinct
            refine ⟨by rw [hdaemon, hturn.1]; exact hdistinct, ?_⟩
            rw [hdaemon, hreloading, hturn.1, hturn.2]
            intro edits he
            cases he
            exact hfresh
  · have hframe : Service.Frame s.service a (s.service.act a) := Service.act_frame ha
    refine ⟨by rw [hdaemon, hframe.daemon]; exact hs.distinct, ?_⟩
    rw [hdaemon, hreloading, hframe.daemon]
    intro edits he
    rcases hframe.reloading with hsame | ⟨mountlist, rfl, hnew⟩
    · exact hs.fresh edits (hsame ▸ he)
    · rw [hnew] at he
      cases he
      exact fresh_edits hload

theorem init_sound (fileName : WString) : (init fileName).Sound where
  distinct := List.nodup_nil
  fresh _ h := by cases h

/-- Nothing is held outside the loops. -/
theorem Inv.held_nil (hi : s.Inv) (hidle : ∀ i, ¬ s.service.InLoop i) : s.held = [] :=
  List.eq_nil_iff_forall_not_mem.mpr fun e he => hidle e.1 (hi.loops e he)

/-- **One process for each mount.**  If the lists that are loaded have no uuid twice, and no worker is
in its loop, then each process that runs was started for the one entry of its uuid. -/
theorem onePerMount_along {fileName : WString} {history : List (Service.Action × Owners)}
    (h : History.Path Step (init fileName) history) (hload : ∀ e ∈ history, LoadsDistinct e.1)
    (hidle : ∀ i, ¬ (History.final (init fileName) history).service.InLoop i) :
    (History.final (init fileName) history).OnePerMount := by
  have hi : (History.final (init fileName) history).Inv :=
    h.final_invariant (fun _ _ _ hi hstep => hi.step hstep) (init_inv fileName)
  have hs : (History.final (init fileName) history).Sound :=
    h.final_labelled (C := LoadsDistinct) (fun _ _ _ hs hstep hl => hs.step hstep hl) (init_sound fileName)
      hload
  intro k hk
  rcases hi.alive k hk with hentry | hheld
  · obtain ⟨m, hm, rfl⟩ := List.mem_map.mp hentry
    exact ⟨m, (Daemon.entry_eq_some hs.distinct).mpr ⟨hm, rfl⟩, rfl, hi.given m hm⟩
  · rw [hi.held_nil hidle] at hheld
    cases hheld

/-! ## The destructor -/

/-- One turn of the loop of `Daemon::~Daemon`; `finishes` says what `waitForFinished` returns.  A process
that is killed is still `Running` when its state is looked at. -/
def destructOne (finishes : Nat → Bool) (s : Service) (m : Mount) : Service :=
  if s.state m.address = .running then
    let s := if finishes m.address then
      { s with state := Function.update s.state m.address .notRunning } else s
    { s with statuses := s.statuses ++ [(m.uuid, decide (s.state m.address = .running))] }
  else s

/-- `unmountAll`. -/
def unmountAll (d : Daemon) : Daemon :=
  { d with terminated := d.terminated ++ d.mounts.map Mount.address }

/-- `Daemon::~Daemon`, and the destructors of the members; the statuses go to `sendStatusSlot`. -/
def destruct (s : Owners) (finishes : Nat → Bool) : Owners :=
  let service := { s.service with daemon := unmountAll s.service.daemon }
  let service := service.daemon.mounts.foldl (destructOne finishes) service
  let members : Daemon :=
    { service.daemon with mounts := [], processes := List.nodup_nil, allocated := by simp }
  { s with service := { service with daemon := members } }.settle
    (s.service.daemon.mounts.map Mount.address)

/-- What the loop of the destructor does, with the processes of `l`: it asks how those that run end, and
starts none. -/
structure Asked (finishes : Nat → Bool) (l : List Mount) (s s' : Service) : Prop where
  daemon : s'.daemon = s.daemon
  statuses : s'.statuses = s.statuses ++
    (l.filter fun m => s.state m.address = .running).map fun m => (m.uuid, !finishes m.address)
  state : ∀ k, s'.state k ≠ .notRunning → s.state k ≠ .notRunning
  others : ∀ k, k ∉ l.map Mount.address → s'.state k = s.state k

theorem asked_one {finishes : Nat → Bool} {s : Service} {m : Mount} :
    Asked finishes [m] s (destructOne finishes s m) := by
  unfold destructOne
  by_cases hrun : s.state m.address = .running
  · rw [if_pos hrun]
    cases hfin : finishes m.address with
    | false =>
        refine ⟨rfl, ?_, fun k hk => hk, fun k _ => rfl⟩
        simp [hrun, hfin]
    | true =>
        refine ⟨rfl, ?_, ?_, ?_⟩
        · simp [hrun, hfin]
        · intro k hk
          by_cases hkm : k = m.address
          · exact absurd (by simp [hkm]) hk
          · simpa [Function.update_of_ne hkm] using hk
        · intro k hk
          have hkm : k ≠ m.address := by simpa using hk
          simp [Function.update_of_ne hkm]
  · rw [if_neg hrun]
    refine ⟨rfl, ?_, fun k hk => hk, fun k _ => rfl⟩
    simp [hrun]

/-- **The loop**, by its turns: the processes are different ones. -/
theorem asked_loop {finishes : Nat → Bool} {l : List Mount} (hl : Keyed.Distinct Mount.address l)
    (s : Service) : Asked finishes l s (l.foldl (destructOne finishes) s) := by
  induction l generalizing s with
  | nil => exact ⟨rfl, (List.append_nil _).symm, fun _ hk => hk, fun _ _ => rfl⟩
  | cons m l ih =>
      obtain ⟨hm, hl⟩ := List.nodup_cons.mp hl
      have hone : Asked finishes [m] s (destructOne finishes s m) := asked_one
      have hrest := ih hl (destructOne finishes s m)
      have hsame : ∀ m' ∈ l, (destructOne finishes s m).state m'.address = s.state m'.address := by
        intro m' hm'
        refine hone.others _ ?_
        rw [List.map_singleton, List.mem_singleton]
        intro he
        exact hm (he ▸ List.mem_map_of_mem hm')
      refine ⟨hrest.daemon.trans hone.daemon, ?_, fun k hk => hone.state k (hrest.state k hk), ?_⟩
      · have hfilter : (l.filter fun m' => (destructOne finishes s m).state m'.address = .running) =
            l.filter fun m' => s.state m'.address = .running :=
          List.filter_congr fun m' hm' => by rw [hsame m' hm']
        rw [List.foldl_cons, hrest.statuses, hone.statuses, hfilter, List.append_assoc, ← List.map_append,
          ← List.filter_append]
        rfl
      · intro k hk
        rw [List.map_cons, List.mem_cons, not_or] at hk
        rw [List.foldl_cons, hrest.others k hk.2, hone.others k (by simpa using hk.1)]

/-- **The destructor.**  When no worker is in its loop, it leaves no process running: each that runs is
told to terminate, and a status says of each whether it did not finish in time. -/
theorem destruct_stops {fileName : WString} {history : List (Service.Action × Owners)}
    (h : History.Path Step (init fileName) history)
    (hidle : ∀ i, ¬ (History.final (init fileName) history).service.InLoop i) (finishes : Nat → Bool) :
    let s := History.final (init fileName) history
    let s' := s.destruct finishes
    (∀ k, s'.service.state k = .notRunning) ∧
      (∀ k, s.service.state k ≠ .notRunning → k ∈ s.service.daemon.mounts.map Mount.address) ∧
      s'.service.daemon.terminated =
        s.service.daemon.terminated ++ s.service.daemon.mounts.map Mount.address ∧
      s'.service.statuses = s.service.statuses ++
        (s.service.daemon.mounts.filter fun m => s.service.state m.address = .running).map
          fun m => (m.uuid, !finishes m.address) := by
  intro s s'
  have hi : s.Inv := h.final_invariant (fun _ _ _ hi hstep => hi.step hstep) (init_inv fileName)
  have hheld : s.held = [] := hi.held_nil hidle
  have hentry : ∀ k, s.service.state k ≠ .notRunning → k ∈ s.service.daemon.mounts.map Mount.address := by
    intro k hk
    refine (hi.alive k hk).resolve_right fun hk => ?_
    rw [hheld] at hk
    cases hk
  have hasked : Asked finishes s.service.daemon.mounts
      { s.service with daemon := unmountAll s.service.daemon } _ := asked_loop s.service.daemon.processes _
  refine ⟨?_, hentry, congrArg Daemon.terminated hasked.daemon, hasked.statuses⟩
  · intro k
    by_contra hk
    obtain ⟨hrun, hreferenced⟩ := Holders.release_ne_iff.mp hk
    rcases hreferenced (hentry k (hasked.state k hrun)) with hm | hh
    · cases hm
    · change k ∈ s.held.map Prod.snd at hh
      rw [hheld] at hh
      cases hh

/-- A mount is loaded and its process started. -/
def started : List Service.Action := [.reload [{ uuid := 1 }], .edit, .edit, .mount 1 .running]

theorem path_started : History.Path Step (init []) (History.trace act (init []) started) :=
  .cons ⟨trivial, rfl⟩ (.cons ⟨trivial, rfl⟩ (.cons ⟨trivial, rfl⟩ (.cons ⟨trivial, rfl⟩ .nil)))

/-- The worker is still in the pool's queue. -/
theorem idle_started (i : Nat) :
    ¬ (History.final (init []) (History.trace act (init []) started)).service.InLoop i := by
  rintro ⟨w, hw, hloop⟩
  have hworkers : (History.final (init []) (History.trace act (init []) started)).service.workers =
      [.queued .mountAll] := rfl
  rw [hworkers] at hw
  rw [List.mem_singleton.mp (List.mem_of_getElem? hw)] at hloop
  exact hloop

/-- One process runs. -/
theorem onePerMount_started :
    (History.final (init []) (History.trace act (init []) started)).OnePerMount := by
  refine onePerMount_along path_started ?_ idle_started
  intro e he
  rcases he with _ | ⟨_, _ | ⟨_, _ | ⟨_, _ | ⟨_, he⟩⟩⟩⟩
  · show ([{ uuid := 1 }].map MountInfo.uuid).Nodup
    decide
  · trivial
  · trivial
  · trivial
  · cases he

/-- It does not finish in time. -/
theorem destruct_stops_started :
    let s' := (History.final (init []) (History.trace act (init []) started)).destruct fun _ => false
    (∀ k, s'.service.state k = .notRunning) ∧ s'.service.daemon.terminated = [0] ∧
      (1, true) ∈ s'.service.statuses := by
  obtain ⟨hstopped, -, hterminated, hstatuses⟩ :=
    destruct_stops path_started idle_started fun _ => false
  refine ⟨hstopped, hterminated.trans (by decide), ?_⟩
  rw [hstatuses]
  decide

end

end Owners

end SeamlessSmb
