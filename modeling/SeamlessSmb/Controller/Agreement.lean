/-
# `Agreement` — the list the controller stores and the one the daemon loaded

Controller and service share the settings file.  The service reads it when it starts and
whenever it is told `reload`; the controller writes it at every edit and then tells the
service, over a socket that a thread of its own tries to connect.

| source | here |
| :-- | :-- |
| `ApplicationUI::onModelModified`, with `Client::sendReload` | `Action.edit` |
| `ApplicationUI::isRunningTimerTimeout` | `Action.isRunningTimer` |
| `Client::start`, `onConnectTimer` | `Action.clientStart`, `Action.connectTimer` |
| `waitForConnected` | `Action.attempt` |
| `Daemon::start`, `Daemon::reloadMounts` | `Action.serviceStart`, `Action.reload` |

A message is on the wire until the server reads it, and the signal it emits is posted until
the daemon thread gets to it.  `sendReload` before `Client::start` reads a null pointer: the
controller is gone, and one started again has no client.

**Proved here:** if no edit is made while the service runs and the client is not connected to
it, the two lists agree whenever nothing is in flight (`agrees_along`).  After one that is, they
do not, as soon as the client connects (`edit_unheard`).
-/
import SeamlessSmb.Mount
import SeamlessSmb.Lib.History

namespace SeamlessSmb

/-- `sock` and its `localsocket`.  `timer` says that the next attempt is due some time, and
`announced` that the slot of `connected` has run. -/
inductive Sock
  | null
  | created
  | unconnected (timer : Bool)
  | connecting
  | connected (announced : Bool)

def Sock.isConnected : Sock → Bool
  | .connected _ => true
  | _ => false

/-- What `Client` writes. -/
inductive Message
  | controller
  | reload
  deriving DecidableEq

/-- Both parties.  `posted` counts the `reloadMounts` signals queued for the daemon thread. -/
structure Parties where
  persisted : List MountInfo
  sock : Sock := .null
  running : Bool := false
  loaded : List MountInfo := []
  wire : List Message := []
  posted : Nat := 0

namespace Parties

inductive Action
  | edit (list : List MountInfo)
  | isRunningTimer
  | clientStart
  | attempt (succeeds : Bool)
  | connectTimer
  | connectedSlot
  | serviceStart
  | serviceStop
  | deliver
  | reload

/-- `Client::sendReload`. -/
def sendReload (s : Parties) : Parties :=
  match s.sock with
  | .created => { s with sock := .null }
  | .connected _ => { s with wire := s.wire ++ [.reload] }
  | _ => s

/-- One action; one that is not due changes nothing. -/
def act (s : Parties) : Action → Parties
  | .edit list => { s with persisted := list }.sendReload
  | .isRunningTimer =>
      match s.running, s.sock with
      | true, .null => { s with sock := .created }
      | true, _ => s
      | false, _ => { s with sock := .null }
  | .clientStart =>
      match s.sock with
      | .created => { s with sock := .connecting }
      | _ => s
  | .attempt succeeds =>
      match s.sock with
      | .connecting =>
          if succeeds && s.running then { s with sock := .connected false }
          else { s with sock := .unconnected true }
      | _ => s
  | .connectTimer =>
      match s.sock with
      | .unconnected true => { s with sock := .connecting }
      | _ => s
  | .connectedSlot =>
      match s.sock with
      | .connected false => { s with sock := .connected true, wire := s.wire ++ [.controller] }
      | _ => s
  | .serviceStart => if s.running then s else { s with running := true, loaded := s.persisted }
  | .serviceStop =>
      let sock := match s.sock with
        | .connected _ => .unconnected false
        | sock => sock
      { s with running := false, sock := sock, wire := [], posted := 0 }
  | .deliver =>
      match s.wire with
      | .reload :: wire => { s with wire := wire, posted := s.posted + 1 }
      | .controller :: wire => { s with wire := wire }
      | [] => s
  | .reload =>
      match s.posted with
      | n + 1 => { s with loaded := s.persisted, posted := n }
      | 0 => s

/-! ## Agreement -/

/-- With the service running, the client connected and nothing in flight, the daemon has
loaded the stored list. -/
def Agrees (s : Parties) : Prop :=
  s.running = true → s.sock.isConnected = true → s.wire = [] → s.posted = 0 →
    s.loaded = s.persisted

/-- An edit is made while the client is connected or the service does not run, or changes
nothing. -/
def EditHeard (s : Parties) : Action → Parties → Prop
  | .edit list, _ => s.running = true → s.sock.isConnected = true ∨ list = s.persisted
  | _, _ => True

/-- The daemon has loaded the stored list or will be told to. -/
structure Inv (s : Parties) : Prop where
  told : s.running = true → s.loaded = s.persisted ∨ Message.reload ∈ s.wire ∨ 0 < s.posted
  connected : s.sock.isConnected = true → s.running = true

section

variable {s : Parties} {a : Action}

theorem Inv.agrees (hi : s.Inv) : s.Agrees := by
  intro hrun _ hwire hposted
  rcases hi.told hrun with h | h | h
  · exact h
  · rw [hwire] at h
    cases h
  · omega

/-- A change of the socket only. -/
theorem Inv.setSock (hi : s.Inv) {sock : Sock} (h : sock.isConnected = true → s.running = true) :
    Inv { s with sock := sock } := ⟨hi.told, h⟩

/-- Who is connected hears of an edit; who is not has been told of the list before. -/
theorem Inv.edit (hi : s.Inv) {list : List MountInfo}
    (hheard : s.running = true → s.sock.isConnected = true ∨ list = s.persisted) :
    (s.act (.edit list)).Inv := by
  have htold : s.sock.isConnected = false → s.running = true →
      s.loaded = list ∨ Message.reload ∈ s.wire ∨ 0 < s.posted := by
    intro hsock hrun
    rcases hheard hrun with h | rfl
    · rw [hsock] at h
      cases h
    · exact hi.told hrun
  obtain ⟨persisted, sock, running, loaded, wire, posted⟩ := s
  cases sock with
  | connected announced =>
      refine ⟨fun _ => .inr (.inl ?_), fun _ => hi.connected rfl⟩
      exact List.mem_append_right wire List.mem_cons_self
  | null => exact ⟨htold rfl, Bool.noConfusion⟩
  | created => exact ⟨htold rfl, Bool.noConfusion⟩
  | unconnected timer => exact ⟨htold rfl, Bool.noConfusion⟩
  | connecting => exact ⟨htold rfl, Bool.noConfusion⟩

theorem Inv.deliver (hi : s.Inv) : (s.act .deliver).Inv := by
  simp only [Parties.act]
  split
  · exact ⟨fun _ => .inr (.inr (Nat.succ_pos _)), hi.connected⟩
  · next wire hwire =>
      refine ⟨fun hrun => ?_, hi.connected⟩
      rcases hi.told hrun with h | h | h
      · exact .inl h
      · rw [hwire] at h
        exact .inr (.inl (by simpa using h))
      · exact .inr (.inr h)
  · exact hi

/-- The service reads the file when it starts. -/
theorem Inv.serviceStart (hi : s.Inv) : (s.act .serviceStart).Inv := by
  simp only [Parties.act]
  split
  · exact hi
  · exact ⟨fun _ => .inl rfl, fun _ => rfl⟩

theorem Inv.serviceStop : (s.act .serviceStop).Inv := by
  obtain ⟨persisted, sock, running, loaded, wire, posted⟩ := s
  refine ⟨Bool.noConfusion, ?_⟩
  cases sock <;> exact Bool.noConfusion

theorem Inv.reload (hi : s.Inv) : (s.act .reload).Inv := by
  simp only [Parties.act]
  split
  · exact ⟨fun _ => .inl rfl, hi.connected⟩
  · exact hi

/-- What the client's thread does is between the socket and the wire. -/
theorem Inv.client (hi : s.Inv) :
    (s.act .isRunningTimer).Inv ∧ (s.act .clientStart).Inv ∧ (s.act .connectTimer).Inv := by
  refine ⟨?_, ?_, ?_⟩
  · simp only [Parties.act]
    split
    · exact hi.setSock Bool.noConfusion
    · exact hi
    · exact hi.setSock Bool.noConfusion
  · simp only [Parties.act]
    split
    · exact hi.setSock Bool.noConfusion
    · exact hi
  · simp only [Parties.act]
    split
    · exact hi.setSock Bool.noConfusion
    · exact hi

theorem Inv.attempt (hi : s.Inv) {succeeds : Bool} : (s.act (.attempt succeeds)).Inv := by
  simp only [Parties.act]
  split
  · split
    · next h => exact hi.setSock fun _ => (Bool.and_eq_true_iff.mp h).2
    · exact hi.setSock Bool.noConfusion
  · exact hi

theorem Inv.connectedSlot (hi : s.Inv) : (s.act .connectedSlot).Inv := by
  simp only [Parties.act]
  split
  · next hsock =>
      refine ⟨fun hrun => ?_, fun _ => hi.connected (by rw [hsock]; rfl)⟩
      rcases hi.told hrun with h | h | h
      · exact .inl h
      · exact .inr (.inl (List.mem_append_left _ h))
      · exact .inr (.inr h)
  · exact hi

/-- **One action** that is no unheard edit. -/
theorem Inv.act (hi : s.Inv) (hheard : EditHeard s a (s.act a)) : (s.act a).Inv := by
  cases a with
  | edit list => exact hi.edit hheard
  | isRunningTimer => exact hi.client.1
  | clientStart => exact hi.client.2.1
  | attempt succeeds => exact hi.attempt
  | connectTimer => exact hi.client.2.2
  | connectedSlot => exact hi.connectedSlot
  | serviceStart => exact hi.serviceStart
  | serviceStop => exact Inv.serviceStop
  | deliver => exact hi.deliver
  | reload => exact hi.reload

end

/-- **Agreement.**  However edits, attempts to connect, starts and stops of the service and
deliveries follow on each other: if no edit goes unheard, the daemon has loaded the stored list
in every state in which the client is connected and nothing is in flight. -/
theorem agrees_along (stored : List MountInfo) (actions : List Action)
    (h : History.Along EditHeard { persisted := stored }
      (History.trace act { persisted := stored } actions)) :
    History.Along (fun _ _ s' => Agrees s') { persisted := stored }
      (History.trace act { persisted := stored } actions) := by
  refine History.Path.along (I := Inv) ?_ ?_ (History.path_trace actions _) h
  · rintro s a _ hi rfl hheard
    exact ⟨(hi.act hheard).agrees, hi.act hheard⟩
  · exact ⟨Bool.noConfusion, Bool.noConfusion⟩

/-- An edit before the service starts, and one while the client is connected. -/
theorem agrees_along_connected :
    History.Along (fun _ _ s' => Agrees s') { persisted := [] }
      (History.trace act { persisted := [] }
        [.edit [{ uuid := 1 }], .serviceStart, .isRunningTimer, .clientStart, .attempt false,
          .connectTimer, .attempt true, .connectedSlot, .edit [{ uuid := 2 }], .deliver, .deliver,
          .reload]) :=
  agrees_along [] _
    ⟨Bool.noConfusion, trivial, trivial, trivial, trivial, trivial, trivial, trivial,
      fun _ => .inl rfl, trivial, trivial, trivial, trivial⟩

/-- **An unheard edit.**  While the client connects and nothing is in flight, an edit to any
other list than the loaded one leaves the two apart, the client connected and nothing in flight. -/
theorem edit_unheard {s : Parties} (hrun : s.running = true) (hsock : s.sock = .connecting)
    (hwire : s.wire = []) (hposted : s.posted = 0) {list : List MountInfo} (hlist : list ≠ s.loaded) :
    ¬ Agrees ([.edit list, .attempt true, .connectedSlot, .deliver].foldl act s) := by
  obtain ⟨persisted, sock, running, loaded, wire, posted⟩ := s
  cases hrun
  cases hsock
  cases hwire
  cases hposted
  exact fun h => hlist (h rfl rfl rfl rfl).symm

/-- The service runs, the user edits, and the client connects. -/
theorem not_agrees_along :
    ¬ ∀ (stored : List MountInfo) (actions : List Action),
      History.Along (fun _ _ s' => Agrees s') { persisted := stored }
        (History.trace act { persisted := stored } actions) := by
  intro h
  obtain ⟨-, -, -, -, -, -, hlast, -⟩ := h [] [.serviceStart, .isRunningTimer, .clientStart,
    .edit [{ uuid := 1 }], .attempt true, .connectedSlot, .deliver]
  exact absurd (hlast rfl rfl rfl rfl) (List.cons_ne_nil _ _).symm

end Parties

end SeamlessSmb
