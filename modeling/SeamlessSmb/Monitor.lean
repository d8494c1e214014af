/-
# `Monitor` — the thread of the cache, and its end

The constructor of `Cache` starts a thread in `MonitorDirectoryChanges`; the destructor sets
`exitEvent` and waits for the thread.  The event is made by the thread itself, so a destructor that is
early sets none, and what it waits for then is a thread that nothing wakes but a change below the root.

| source | here |
| :-- | :-- |
| `MonitorDirectoryChanges`, between two of its calls | `Point` |
| `exitEvent` | `none` while it is 0, and else whether it is signalled |
| `hDirectory`, signalled by a completion | `completed`, with what was delivered |
| `WaitForMultipleObjects` | `.wait`, possible once a handle is signalled, or one is 0 |
| `SetEvent(exitEvent)` and `t->join()` of `~Cache` | `.setEvent`, and `.join` once the thread has ended |

The wait looks at the directory first.  A completion may come while the thread waits, once for each
`ReadDirectoryChangesW`; what the callbacks do to the cache up to the destructor is left open.

**Proved here:** the thread blocks for good exactly from the states without `WillEnd`, which no
destructor comes to that finds the event made; and it takes no more steps than two for each completion
and five (`monitor_joins`).
-/
import SeamlessSmb.Cache
import SeamlessSmb.Lib.History

namespace SeamlessSmb

/-- The last call of `MonitorDirectoryChanges`, and how it went. -/
inductive MonitorPoint
  | starting
  | eventMade
  | reissuing
  | waiting
  | leaving
  | ended
deriving DecidableEq

/-- The thread is between `CreateFileW` and `CloseHandle`. -/
def MonitorPoint.holds : MonitorPoint → Bool
  | .reissuing | .waiting | .leaving => true
  | _ => false

/-- `ReadDirectoryChangesW` may have completed. -/
def MonitorPoint.awaits : MonitorPoint → Bool
  | .waiting | .leaving | .ended => true
  | _ => false

/-- Where the destructor is. -/
inductive Owner
  | using
  | joining
  | gone
deriving DecidableEq

/-- A `Cache` with its thread. -/
structure Monitored where
  cache : Cache := {}
  buffer : Chain
  point : MonitorPoint := .starting
  owner : Owner := .using
  exitEvent : Option Bool := none
  hDirectory : Bool := false
  completed : Option Completion := none

namespace Monitored

/-- A call of the thread and how it goes, what the system and the callbacks do, and the destructor. -/
inductive Action
  | createEvent (succeeds : Bool)
  | createFile (succeeds : Bool)
  | readDirectoryChanges (succeeds : Bool)
  | wait
  | closeHandle
  | complete (c : Completion)
  | callback (cache : Cache)
  | setEvent
  | join

/-- A step of the thread. -/
def Action.ofThread : Action → Nat
  | .createEvent _ | .createFile _ | .readDirectoryChanges _ | .wait | .closeHandle => 1
  | _ => 0

/-- A completion, which keeps the thread in its loop for two steps. -/
def Action.delivers : Action → Nat
  | .complete _ => 2
  | _ => 0

/-- The thread goes on behind `WaitForMultipleObjects`. -/
def wake (s : Monitored) : Monitored :=
  match s.exitEvent, s.completed with
  -- `WAIT_FAILED`
  | none, _ => { s with point := .leaving }
  | some _, some c =>
      { s with
        cache := (s.cache.monitorDirectoryChanges s.buffer c).1
        buffer := (s.cache.monitorDirectoryChanges s.buffer c).2
        point := .reissuing
        completed := none }
  | some _, none => { s with point := .leaving }

def act (s : Monitored) : Action → Monitored
  | .createEvent succeeds =>
      { s with point := .eventMade, exitEvent := if succeeds then some false else none }
  | .createFile true => { s with point := .reissuing, hDirectory := true }
  | .createFile false => { s with point := .ended }
  | .readDirectoryChanges true => { s with point := .waiting }
  | .readDirectoryChanges false => { s with point := .leaving }
  | .wait => s.wake
  | .closeHandle => { s with point := .ended, hDirectory := false }
  | .complete c => { s with completed := some c }
  | .callback cache => { s with cache := cache }
  | .setEvent => { s with exitEvent := s.exitEvent.map fun _ => true, owner := .joining }
  | .join => { s with owner := .gone }

/-- What may happen. -/
def Possible (s : Monitored) : Action → Prop
  | .createEvent _ => s.point = .starting
  | .createFile _ => s.point = .eventMade
  | .readDirectoryChanges _ => s.point = .reissuing
  | .wait => s.point = .waiting ∧ (s.completed ≠ none ∨ s.exitEvent ≠ some false)
  | .closeHandle => s.point = .leaving
  | .complete _ => s.point = .waiting ∧ s.completed = none
  | .callback _ | .setEvent => s.owner = .using
  | .join => s.owner = .joining ∧ s.point = .ended

def Step (s : Monitored) (a : Action) (s' : Monitored) : Prop := s.Possible a ∧ s' = s.act a

/-- The constructor. -/
def start (buffer : Chain) : Monitored := { buffer := buffer }

/-! ## Waiting for good -/

/-- The thread has not ended, and there is no step it could take. -/
def Blocked (s : Monitored) : Prop := s.point ≠ .ended ∧ ∀ a, s.Possible a → a.ofThread = 0

/-- The thread is past its loop, or the event is set, or could not be made. -/
def WillEnd (s : Monitored) : Prop :=
  s.point = .leaving ∨ s.point = .ended ∨ s.exitEvent = some true ∨
    (s.exitEvent = none ∧ s.point ≠ .starting)

/-- The destructor finds the thread past `CreateEvent`. -/
def FindsEvent (s : Monitored) (a : Action) (_ : Monitored) : Prop := a = .setEvent → s.point ≠ .starting

/-- What holds of every state. -/
structure Inv (s : Monitored) : Prop where
  unmade : s.point = .starting → s.exitEvent = none
  pending : s.point.awaits = false → s.completed = none
  joined : s.owner = .gone → s.point = .ended
  handle : s.hDirectory = s.point.holds
  unset : s.owner = .using → s.exitEvent ≠ some true

variable {s s' : Monitored} {a : Action}

theorem wake_cases (h : s.Possible .wait) :
    (s.exitEvent ≠ some false ∧ s.wake = { s with point := .leaving }) ∨
      ∃ c, s.completed = some c ∧ s.wake =
        { s with
          cache := (s.cache.monitorDirectoryChanges s.buffer c).1
          buffer := (s.cache.monitorDirectoryChanges s.buffer c).2
          point := .reissuing
          completed := none } := by
  obtain ⟨-, hsignalled⟩ := h
  unfold wake
  match hevent : s.exitEvent, hcompleted : s.completed with
  | none, _ =>
      refine .inl ⟨?_, rfl⟩
      intro h
      cases h
  | some b, some c => exact .inr ⟨c, rfl, rfl⟩
  | some b, none =>
      rw [hevent, hcompleted] at hsignalled
      exact .inl ⟨hsignalled.resolve_left fun h => h rfl, rfl⟩

/-- The thread goes from one point behind `CreateEvent` to another. -/
theorem Inv.move (hi : s.Inv) {cache : Cache} {buffer : Chain} {point : MonitorPoint} {hDirectory : Bool}
    {completed : Option Completion} (hended : s.point ≠ .ended) (hpoint : point ≠ .starting)
    (hholds : hDirectory = point.holds) (hpending : point.awaits = false → completed = none) :
    Inv { s with
      cache := cache
      buffer := buffer
      point := point
      hDirectory := hDirectory
      completed := completed } where
  unmade h := absurd h hpoint
  pending := hpending
  joined h := absurd (hi.joined h) hended
  handle := hholds
  unset := hi.unset

/-- The owner goes on, and may have set the event. -/
theorem Inv.own (hi : s.Inv) {cache : Cache} {owner : Owner} {exitEvent : Option Bool}
    (hmade : s.exitEvent = none → exitEvent = none) (hjoined : owner = .gone → s.point = .ended)
    (hunset : owner = .using → exitEvent ≠ some true) :
    Inv { s with cache := cache, owner := owner, exitEvent := exitEvent } where
  unmade h := hmade (hi.unmade h)
  pending := hi.pending
  joined := hjoined
  handle := hi.handle
  unset := hunset

/-- It is the wait that blocks. -/
theorem blocked_iff : s.Blocked ↔ s.point = .waiting ∧ s.completed = none ∧ s.exitEvent = some false := by
  constructor
  · rintro ⟨hended, hblocked⟩
    match hpoint : s.point with
    | .starting => exact absurd (hblocked (.createEvent true) hpoint) (by decide)
    | .eventMade => exact absurd (hblocked (.createFile true) hpoint) (by decide)
    | .reissuing => exact absurd (hblocked (.readDirectoryChanges true) hpoint) (by decide)
    | .leaving => exact absurd (hblocked .closeHandle hpoint) (by decide)
    | .ended => exact absurd hpoint hended
    | .waiting =>
        have hunsignalled : ¬ (s.completed ≠ none ∨ s.exitEvent ≠ some false) := by
          intro h
          exact absurd (hblocked .wait ⟨hpoint, h⟩) (by decide)
        rw [not_or, not_not, not_not] at hunsignalled
        exact ⟨rfl, hunsignalled⟩
  · rintro ⟨hpoint, hcompleted, hevent⟩
    have hother : ∀ {point : MonitorPoint}, s.point = point → point ≠ .waiting → False := by
      rintro _ rfl h
      exact h hpoint
    refine ⟨by rw [hpoint]; decide, ?_⟩
    intro a ha
    cases a with
    | createEvent succeeds => exact (hother ha (by decide)).elim
    | createFile succeeds => exact (hother ha (by decide)).elim
    | readDirectoryChanges succeeds => exact (hother ha (by decide)).elim
    | wait => exact (ha.2.elim (fun h => h hcompleted) fun h => h hevent).elim
    | closeHandle => exact (hother ha (by decide)).elim
    | _ => rfl

theorem Inv.step (hi : s.Inv) (h : s.Step a s') : s'.Inv := by
  obtain ⟨hpossible, rfl⟩ := h
  have hhandle := hi.handle
  cases a with
  | createEvent succeeds =>
      have hpoint : s.point = .starting := hpossible
      rw [hpoint] at hhandle
      have hcompleted := hi.pending (by rw [hpoint]; rfl)
      constructor
      · intro h
        cases h
      · exact fun _ => hcompleted
      · intro hgone
        have hended := hi.joined hgone
        rw [hpoint] at hended
        cases hended
      · exact hhandle
      · intro _ hset
        cases succeeds with
        | true => cases hset
        | false => cases hset
  | createFile succeeds =>
      have hpoint : s.point = .eventMade := hpossible
      rw [hpoint] at hhandle
      have hcompleted := hi.pending (by rw [hpoint]; rfl)
      cases succeeds with
      | true => exact hi.move (by rw [hpoint]; decide) (by decide) rfl fun _ => hcompleted
      | false => exact hi.move (by rw [hpoint]; decide) (by decide) hhandle fun _ => hcompleted
  | readDirectoryChanges succeeds =>
      have hpoint : s.point = .reissuing := hpossible
      rw [hpoint] at hhandle
      have hcompleted := hi.pending (by rw [hpoint]; rfl)
      cases succeeds with
      | true => exact hi.move (by rw [hpoint]; decide) (by decide) hhandle fun _ => hcompleted
      | false => exact hi.move (by rw [hpoint]; decide) (by decide) hhandle fun _ => hcompleted
  | wait =>
      rw [hpossible.1] at hhandle
      have hended : s.point ≠ .ended := by rw [hpossible.1]; decide
      show s.wake.Inv
      rcases wake_cases hpossible with ⟨-, hwake⟩ | ⟨c, -, hwake⟩
      · rw [hwake]
        exact hi.move hended (by decide) hhandle fun h => by cases h
      · rw [hwake]
        exact hi.move hended (by decide) hhandle fun _ => rfl
  | closeHandle =>
      have hpoint : s.point = .leaving := hpossible
      exact hi.move (by rw [hpoint]; decide) (by decide) rfl fun h => by cases h
  | complete c =>
      obtain ⟨hpoint, -⟩ := hpossible
      refine hi.move (by rw [hpoint]; decide) (by rw [hpoint]; decide) hi.handle ?_
      intro h
      rw [hpoint] at h
      cases h
  | callback cache => exact hi.own id hi.joined hi.unset
  | setEvent =>
      refine hi.own ?_ ?_ ?_
      · intro h
        rw [h]
        rfl
      · intro h
        cases h
      · intro h
        cases h
  | join =>
      refine hi.own id (fun _ => hpossible.2) ?_
      intro h
      cases h

theorem start_inv (buffer : Chain) : (start buffer).Inv where
  unmade _ := rfl
  pending _ := rfl
  joined h := by cases h
  handle := rfl
  unset _ := by
    intro h
    cases h

/-! ## The end of the thread -/

/-- How many steps the thread has before it, but for what is delivered to it. -/
def rank (s : Monitored) : Nat :=
  match s.point with
  | .starting => 5
  | .eventMade => 4
  | .reissuing => 3
  | .waiting => if s.completed.isSome then 4 else 2
  | .leaving => 1
  | .ended => 0

theorem rank_step (hi : s.Inv) (h : s.Step a s') : s'.rank + a.ofThread ≤ s.rank + a.delivers := by
  obtain ⟨hpossible, rfl⟩ := h
  cases a with
  | createEvent succeeds =>
      have hpoint : s.point = .starting := hpossible
      simp [rank, act, Action.ofThread, Action.delivers, hpoint]
  | createFile succeeds =>
      have hpoint : s.point = .eventMade := hpossible
      cases succeeds <;> simp [rank, act, Action.ofThread, Action.delivers, hpoint]
  | readDirectoryChanges succeeds =>
      have hpoint : s.point = .reissuing := hpossible
      have hcompleted := hi.pending (by rw [hpoint]; rfl)
      cases succeeds <;> simp [rank, act, Action.ofThread, Action.delivers, hpoint, hcompleted]
  | wait =>
      have hpoint := hpossible.1
      show s.wake.rank + 1 ≤ s.rank + 0
      rcases wake_cases hpossible with ⟨-, hwake⟩ | ⟨c, hcompleted, hwake⟩
      · rw [hwake]
        simp only [rank, hpoint]
        split <;> decide
      · rw [hwake]
        simp [rank, hpoint, hcompleted]
  | closeHandle =>
      have hpoint : s.point = .leaving := hpossible
      simp [rank, act, Action.ofThread, Action.delivers, hpoint]
  | complete c =>
      obtain ⟨hpoint, hcompleted⟩ := hpossible
      simp [rank, act, Action.ofThread, Action.delivers, hpoint, hcompleted]
  | callback cache => exact Nat.le_refl _
  | setEvent => exact Nat.le_refl _
  | join => exact Nat.le_refl _

/-- Where the thread is behind `CreateEvent`, it stays there, and only the destructor touches the event. -/
theorem step_made (hpoint : s.point ≠ .starting) (h : s.Step a s') :
    s'.point ≠ .starting ∧ (s'.exitEvent = s.exitEvent ∨ s'.exitEvent = s.exitEvent.map fun _ => true) := by
  obtain ⟨hpossible, rfl⟩ := h
  cases a with
  | createEvent succeeds => exact absurd hpossible hpoint
  | createFile succeeds =>
      cases succeeds with
      | true => exact ⟨by simp [act], .inl rfl⟩
      | false => exact ⟨by simp [act], .inl rfl⟩
  | readDirectoryChanges succeeds =>
      cases succeeds with
      | true => exact ⟨by simp [act], .inl rfl⟩
      | false => exact ⟨by simp [act], .inl rfl⟩
  | wait =>
      show s.wake.point ≠ .starting ∧ (s.wake.exitEvent = s.exitEvent ∨ _)
      rcases wake_cases hpossible with ⟨-, hwake⟩ | ⟨c, -, hwake⟩
      · rw [hwake]
        exact ⟨by simp, .inl rfl⟩
      · rw [hwake]
        exact ⟨by simp, .inl rfl⟩
  | closeHandle => exact ⟨by simp [act], .inl rfl⟩
  | complete c => exact ⟨hpoint, .inl rfl⟩
  | callback cache => exact ⟨hpoint, .inl rfl⟩
  | setEvent => exact ⟨hpoint, .inr rfl⟩
  | join => exact ⟨hpoint, .inl rfl⟩

/-- A thread past its loop does not come back. -/
theorem step_past (hpast : s.point = .leaving ∨ s.point = .ended) (h : s.Step a s') :
    s'.point = .leaving ∨ s'.point = .ended := by
  obtain ⟨hpossible, rfl⟩ := h
  have hcontra : ∀ {point : MonitorPoint}, s.point = point → point ≠ .leaving → point ≠ .ended → False := by
    rintro _ rfl hleaving hended
    exact hpast.elim hleaving hended
  cases a with
  | createEvent succeeds => exact (hcontra hpossible (by decide) (by decide)).elim
  | createFile succeeds => exact (hcontra hpossible (by decide) (by decide)).elim
  | readDirectoryChanges succeeds => exact (hcontra hpossible (by decide) (by decide)).elim
  | wait => exact (hcontra hpossible.1 (by decide) (by decide)).elim
  | closeHandle => exact .inr rfl
  | complete c => exact (hcontra hpossible.1 (by decide) (by decide)).elim
  | callback cache => exact hpast
  | setEvent => exact hpast
  | join => exact hpast

theorem WillEnd.made (hi : s.Inv) (hw : s.WillEnd) : s.point ≠ .starting := by
  intro hpoint
  have hnone := hi.unmade hpoint
  rcases hw with h | h | h | ⟨-, h⟩
  · rw [hpoint] at h
    cases h
  · rw [hpoint] at h
    cases h
  · rw [hnone] at h
    cases h
  · exact h hpoint

/-- **What ends will end**, whatever happens. -/
theorem WillEnd.step (hi : s.Inv) (hw : s.WillEnd) (h : s.Step a s') : s'.WillEnd := by
  obtain ⟨hpoint, hevent⟩ := step_made (hw.made hi) h
  have hset : ∀ {b : Bool}, s.exitEvent = some b → s'.exitEvent = some b ∨ s'.exitEvent = some true := by
    intro b hb
    rw [hb] at hevent
    exact hevent
  rcases hw with hw | hw | hw | ⟨hw, -⟩
  · exact (step_past (.inl hw) h).elim .inl fun h => .inr (.inl h)
  · exact (step_past (.inr hw) h).elim .inl fun h => .inr (.inl h)
  · exact .inr (.inr (.inl ((hset hw).elim id id)))
  · rw [hw] at hevent
    exact .inr (.inr (.inr ⟨hevent.elim id id, hpoint⟩))

theorem WillEnd.not_blocked (hw : s.WillEnd) : ¬ s.Blocked := by
  intro hblocked
  obtain ⟨hpoint, -, hevent⟩ := blocked_iff.mp hblocked
  rcases hw with h | h | h | ⟨h, -⟩
  · rw [hpoint] at h
    cases h
  · rw [hpoint] at h
    cases h
  · rw [hevent] at h
    cases h
  · rw [hevent] at h
    cases h

/-! ## Blocking -/

/-- The event is there and nobody has set it, and nothing is delivered: the next wait blocks. -/
theorem blocks_reissuing (hpoint : s.point = .reissuing) (hcompleted : s.completed = none)
    (hevent : s.exitEvent = some false) : ∃ more, History.Path Step s more ∧ (History.final s more).Blocked :=
  ⟨[(.readDirectoryChanges true, s.act (.readDirectoryChanges true))], .cons ⟨hpoint, rfl⟩ .nil,
    blocked_iff.mpr ⟨rfl, hcompleted, hevent⟩⟩

theorem blocks_eventMade (hpoint : s.point = .eventMade) (hcompleted : s.completed = none)
    (hevent : s.exitEvent = some false) :
    ∃ more, History.Path Step s more ∧ (History.final s more).Blocked := by
  have hstep : Step s (.createFile true) (s.act (.createFile true)) := ⟨hpoint, rfl⟩
  obtain ⟨more, hmore, hblocked⟩ := blocks_reissuing (s := s.act (.createFile true)) rfl hcompleted hevent
  exact ⟨(.createFile true, s.act (.createFile true)) :: more, .cons hstep hmore, hblocked⟩

/-- **A thread that may go on may block**, with nobody left to set the event. -/
theorem blocks_of_not_willEnd (hi : s.Inv) (hw : ¬ s.WillEnd) :
    ∃ more, History.Path Step s more ∧ (History.final s more).Blocked := by
  have hunset : ∀ {point : MonitorPoint}, s.point = point → point ≠ .starting → s.exitEvent = some false := by
    intro point hpoint hstarting
    match hevent : s.exitEvent with
    | none => exact absurd (.inr (.inr (.inr ⟨hevent, hpoint ▸ hstarting⟩))) hw
    | some false => rfl
    | some true => exact absurd (.inr (.inr (.inl hevent))) hw
  match hpoint : s.point with
  | .starting =>
      have hcompleted := hi.pending (by rw [hpoint]; rfl)
      have hstep : Step s (.createEvent true) (s.act (.createEvent true)) := ⟨hpoint, rfl⟩
      obtain ⟨more, hmore, hblocked⟩ := blocks_eventMade (s := s.act (.createEvent true)) rfl hcompleted rfl
      exact ⟨(.createEvent true, s.act (.createEvent true)) :: more, .cons hstep hmore, hblocked⟩
  | .eventMade =>
      exact blocks_eventMade hpoint (hi.pending (by rw [hpoint]; rfl)) (hunset hpoint (by decide))
  | .reissuing =>
      exact blocks_reissuing hpoint (hi.pending (by rw [hpoint]; rfl)) (hunset hpoint (by decide))
  | .waiting =>
      have hevent := hunset hpoint (by decide)
      match hcompleted : s.completed with
      | none => exact ⟨[], .nil, blocked_iff.mpr ⟨hpoint, hcompleted, hevent⟩⟩
      | some c =>
          have hpossible : s.Possible .wait := by
            refine ⟨hpoint, .inl ?_⟩
            rw [hcompleted]
            intro h
            cases h
          rcases wake_cases hpossible with ⟨hset, -⟩ | ⟨c', -, hwake⟩
          · exact absurd hevent hset
          · obtain ⟨more, hmore, hblocked⟩ := blocks_reissuing (s := s.wake) (by rw [hwake]) (by rw [hwake])
              (by rw [hwake]; exact hevent)
            exact ⟨(.wait, s.wake) :: more, .cons ⟨hpossible, rfl⟩ hmore, hblocked⟩
  | .leaving => exact absurd (.inl hpoint) hw
  | .ended => exact absurd (.inr (.inl hpoint)) hw

/-! ## The destructor -/

/-- The destructor sets the event, which is then for good. -/
theorem willEnd_setEvent (hpoint : s.point ≠ .starting) : (s.act .setEvent).WillEnd := by
  match hevent : s.exitEvent with
  | none =>
      refine .inr (.inr (.inr ⟨?_, hpoint⟩))
      show s.exitEvent.map _ = none
      rw [hevent]
      rfl
  | some b =>
      refine .inr (.inr (.inl ?_))
      show s.exitEvent.map _ = some true
      rw [hevent]
      rfl

/-- Nobody but the destructor leaves the state it is in. -/
theorem step_using (husing : s.owner = .using) (h : s.Step a s') (ha : a ≠ .setEvent) : s'.owner = .using := by
  obtain ⟨hpossible, rfl⟩ := h
  cases a with
  | createFile succeeds =>
      cases succeeds with
      | true => exact husing
      | false => exact husing
  | readDirectoryChanges succeeds =>
      cases succeeds with
      | true => exact husing
      | false => exact husing
  | wait =>
      show s.wake.owner = .using
      rcases wake_cases hpossible with ⟨-, hwake⟩ | ⟨c, -, hwake⟩
      · rw [hwake]
        exact husing
      · rw [hwake]
        exact husing
  | setEvent => exact absurd rfl ha
  | join =>
      have howner : Owner.using = .joining := husing.symm.trans hpossible.1
      cases howner
  | _ => exact husing

/-- Where the destructor finds the event made, what it waits for will end. -/
theorem willEnd_of_findsEvent {history : List (Action × Monitored)} (hi : s.Inv)
    (hs : s.owner = .using ∨ s.WillEnd) (h : History.Path Step s history)
    (hfinds : History.Along FindsEvent s history) :
    (History.final s history).owner = .using ∨ (History.final s history).WillEnd := by
  induction h with
  | nil => exact hs
  | @cons s s' a rest hm _ ih =>
      obtain ⟨hfind, hrest⟩ := hfinds
      refine ih (hi.step hm) ?_ hrest
      rcases hs with husing | hw
      · by_cases ha : a = .setEvent
        · subst ha
          obtain ⟨-, rfl⟩ := hm
          exact .inr (willEnd_setEvent (hfind rfl))
        · exact .inl (step_using husing hm ha)
      · exact .inr (hw.step hi hm)

/-- **The destructor.**  While it waits, the thread may come to block for good exactly where it is not
past its loop and the event is not made yet, or not set, which is never so where the destructor found
it made; and it takes no more than five steps and two for each completion. -/
theorem monitor_joins {buffer : Chain} {history : List (Action × Monitored)}
    (h : History.Path Step (start buffer) history)
    (hjoining : (History.final (start buffer) history).owner = .joining) :
    let s := History.final (start buffer) history
    (s.WillEnd ↔ ∀ more, History.Path Step s more → ¬ (History.final s more).Blocked) ∧
      (History.Along FindsEvent (start buffer) history → s.WillEnd) ∧
      ∀ more, History.Path Step s more →
        History.total Action.ofThread more ≤ 5 + History.total Action.delivers more := by
  intro s
  have hi : s.Inv := h.final_invariant (fun _ _ _ hi hm => hi.step hm) (start_inv buffer)
  refine ⟨⟨?_, ?_⟩, ?_, ?_⟩
  · intro hw more hmore
    have hkept := hmore.final_invariant (I := fun s => s.Inv ∧ s.WillEnd)
      (fun _ _ _ hs hm => ⟨hs.1.step hm, hs.2.step hs.1 hm⟩) ⟨hi, hw⟩
    exact hkept.2.not_blocked
  · intro hnever
    by_contra hw
    obtain ⟨more, hmore, hblocked⟩ := blocks_of_not_willEnd hi hw
    exact hnever more hmore hblocked
  · intro hfinds
    rcases willEnd_of_findsEvent (start_inv buffer) (.inl rfl) h hfinds with husing | hw
    · rw [hjoining] at husing
      cases husing
    · exact hw
  · intro more hmore
    have htotal : rank (History.final s more) + History.total Action.ofThread more ≤
        rank s + History.total Action.delivers more :=
      hmore.total_le (I := Inv) (fun _ _ _ hi hm => ⟨hi.step hm, rank_step hi hm⟩) hi
    have hrank : s.rank ≤ 5 := by
      unfold rank
      split
      all_goals first | decide | (split <;> decide)
    omega

/-- The thread waits by the time the destructor comes. -/
theorem monitor_joins_waiting :
    let history : List (Action × Monitored) := History.trace act (start [])
      [.createEvent true, .createFile true, .readDirectoryChanges true, .setEvent]
    let s := History.final (start []) history
    (s.WillEnd ↔ ∀ more, History.Path Step s more → ¬ (History.final s more).Blocked) ∧
      (History.Along FindsEvent (start []) history → s.WillEnd) ∧
      ∀ more, History.Path Step s more →
        History.total Action.ofThread more ≤ 5 + History.total Action.delivers more :=
  monitor_joins (.cons ⟨rfl, rfl⟩ (.cons ⟨rfl, rfl⟩ (.cons ⟨rfl, rfl⟩ (.cons ⟨rfl, rfl⟩ .nil)))) rfl

end Monitored

end SeamlessSmb
