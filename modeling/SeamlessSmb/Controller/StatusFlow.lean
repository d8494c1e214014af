/-
# `Controller.StatusFlow` — from `sendStatus` to the row that is shown

A status goes a long way.  `sendStatus` posts it to the server's thread, which writes it to the
controller's socket if there is one; the client reads it, unless it throws it away with a piece of
another; the signal it emits is posted to the thread of the model; and `setRunning` puts the flag into
the rows of the uuid.  Meanwhile the service stops and starts, clients come and go, other peers
register, and the user edits the list.

| source | here |
| :-- | :-- |
| the service | `server`, while it runs |
| `sock` of `ApplicationUI` | `client` |
| the connection of the client | `Line`; it connects once, and what is on the way stays so |
| `connect(sock, &Client::status, model, &MountListModel::setRunning)` | `posted`, and `Action.deliver` |

**Proved here:** in every run the statuses that get to the model are some of those that were sent, in
the order they were sent, across all clients and services there were; and a row is shown running only
if the last status for its uuid that got there says so (`shown_along`).
-/
import SeamlessSmb.Connections
import SeamlessSmb.Controller.MountListModel

namespace SeamlessSmb

/-! ## The parties -/

/-- The connection of a client: not there yet, with a socket at the server, or gone. -/
inductive Line
  | never
  | open (sock : Socket)
  | gone
  deriving DecidableEq

/-- `Client`, and what is on the way to it. -/
structure Client where
  line : Line := .never
  reader : StatusReader := { future := [] }

/-- The messages that are written to its socket set out for the client. -/
def Client.receive (q : UuidText) (c : Client) (new : List (Socket × StatusMessage)) : Client :=
  let mine := (new.filter fun e => c.line = .open e.1).map Prod.snd
  { c with reader := { c.reader with future := c.reader.future ++ mine.flatMap (StatusMessage.text q) } }

/-- What `sendStatus` is given. -/
def Server.Action.call : Server.Action → List StatusMessage
  | .sendStatus m => [m]
  | _ => []

/-- Service and controller.  `calls` is what `sendStatus` was given, by all services there were, and
`delivered` what `setRunning` was. -/
structure StatusFlow where
  app : ApplicationUI
  server : Option Server := none
  client : Option Client := none
  calls : List StatusMessage := []
  posted : List StatusMessage := []
  delivered : List StatusMessage := []

namespace StatusFlow

variable (q : UuidText) (toInt : List Char → Int)

/-- What happens next: the service starts or stops, its server acts, the client is made, deleted,
connects or reads, a posted status gets to the model, or the user does something. -/
inductive Action
  | serviceStart
  | serviceStop
  | server (a : Server.Action)
  | clientCreate
  | clientDelete
  | clientConnect
  | client (a : StatusReader.Action)
  | deliver
  | user (a : ApplicationUI.Action)

/-- One action; one that is not due changes nothing. -/
def act (s : StatusFlow) : Action → StatusFlow
  | .serviceStart => if s.server.isNone then { s with server := some {} } else s
  | .serviceStop =>
      { s with
        server := none
        client := s.client.map fun c =>
          { c with line := match c.line with | .open _ => .gone | line => line } }
  | .server a =>
      match s.server with
      | none => s
      | some server =>
          let server' := server.act q a
          { s with
            server := some server'
            client := s.client.map fun c => Client.receive q c (server'.written.drop server.written.length)
            calls := s.calls ++ a.call }
  | .clientCreate => if s.client.isNone then { s with client := some {} } else s
  | .clientDelete => { s with client := none }
  | .clientConnect =>
      match s.server, s.client with
      | some server, some c =>
          if c.line = .never then
            { s with
              server := some (server.act q .connect)
              client := some { c with line := .open server.next } }
          else s
      | _, _ => s
  | .client a =>
      match s.client with
      | none => s
      | some c =>
          let reader := c.reader.act q toInt a
          { s with
            client := some { c with reader := reader }
            posted := s.posted ++ reader.emitted.drop c.reader.emitted.length }
  | .deliver =>
      match s.posted with
      | [] => s
      | m :: posted =>
          { s with
            posted := posted
            delivered := s.delivered ++ [m]
            app := s.app.act (.setRunning m.uuid m.running) }
  | .user a =>
      match a with
      | .setRunning _ _ => s
      | a => { s with app := s.app.act a }

/-- What was last delivered for the uuid. -/
def lastStatus (delivered : List StatusMessage) (uuid : BitVec 128) : Option Bool :=
  (delivered.reverse.find? fun m => m.uuid = uuid).map StatusMessage.running

/-- What gets to the model was sent, in that order, and the rows show it. -/
structure Shown (s : StatusFlow) : Prop where
  sent : s.delivered.Sublist s.calls
  shown : ∀ row ∈ s.app.model.modelList, row.running = true → lastStatus s.delivered row.uuid = some true

/-! ## The client -/

section

variable {q : UuidText} {toInt : List Char → Int} {sent : List StatusMessage} {r : StatusReader}

/-- Another message sets out. -/
theorem inv_send (hi : StatusReader.Inv q sent r) (m : StatusMessage) :
    StatusReader.Inv q (sent ++ [m]) { r with future := r.future ++ m.text q } := by
  obtain ⟨n, t, h⟩ := hi.stands
  -- no more messages can be behind than were sent
  have hdrop : sent.drop (min n sent.length) = sent.drop n := by
    rcases Nat.le_total n sent.length with hn | hn
    · rw [Nat.min_eq_left hn]
    · rw [Nat.min_eq_right hn, List.drop_length, List.drop_eq_nil_of_le hn]
  have htake : sent.take (min n sent.length) = sent.take n := by
    rcases Nat.le_total n sent.length with hn | hn
    · rw [Nat.min_eq_left hn]
    · rw [Nat.min_eq_right hn, List.take_length, List.take_of_length_le hn]
  have hle : min n sent.length ≤ sent.length := Nat.min_le_right _ _
  refine ⟨⟨min n sent.length, t, h.tail, ?_, ?_⟩, hi.line, hi.ok⟩
  · show r.buffer ++ (r.future ++ m.text q) = _
    rw [← List.append_assoc, h.stream, List.drop_append_of_le_length hle, hdrop, List.flatMap_append,
      List.append_assoc]
    simp
  · rw [List.take_append_of_le_length hle, htake]
    exact h.emitted

/-- What was emitted stays emitted. -/
theorem act_emitted (r : StatusReader) (a : StatusReader.Action) :
    ∃ new, (r.act q toInt a).emitted = r.emitted ++ new := by
  cases a with
  | arrive count => exact ⟨[], (List.append_nil _).symm⟩
  | readyRead =>
      refine ⟨[], ?_⟩
      simp only [StatusReader.act]
      split
      · exact (List.append_nil _).symm
      · exact (List.append_nil _).symm
  | run =>
      simp only [StatusReader.act, StatusReader.run]
      split
      · exact ⟨[], (List.append_nil _).symm⟩
      · exact ⟨[], (List.append_nil _).symm⟩
      · simp only [StatusReader.onLine]
        split
        · split
          · exact ⟨_, rfl⟩
          · exact ⟨[], (List.append_nil _).symm⟩
        · exact ⟨[], (List.append_nil _).symm⟩
      · exact ⟨[], (List.append_nil _).symm⟩
      · exact ⟨[], (List.append_nil _).symm⟩
      · exact ⟨[], (List.append_nil _).symm⟩

end

/-! ## The way -/

/-- What the server has not taken up. -/
def waiting (s : StatusFlow) : List StatusMessage := (s.server.map Server.posted).getD []

/-- What the client emitted. -/
def emitted (s : StatusFlow) : List StatusMessage := (s.client.map fun c => c.reader.emitted).getD []

/-- How far the statuses have come: `a` was taken up before there was the client, `b` since, of which
`sent` went to it; `before` was emitted by clients that are gone. -/
structure Stage (q : UuidText) (s : StatusFlow) (a b before sent : List StatusMessage) : Prop where
  taken : (a ++ b ++ s.waiting).Sublist s.calls
  emitted : s.delivered ++ s.posted = before ++ s.emitted
  earlier : before.Sublist a
  passed : sent.Sublist b
  reader : ∀ c, s.client = some c → StatusReader.Inv q sent c.reader

/-- The invariant of the way. -/
def OnWay (q : UuidText) (s : StatusFlow) : Prop := ∃ a b before sent, Stage q s a b before sent

section

variable {q : UuidText} {toInt : List Char → Int} {s s' : StatusFlow} {a b before sent : List StatusMessage}

theorem Stage.emitted_sent (h : Stage q s a b before sent) : s.emitted.Sublist sent := by
  unfold StatusFlow.emitted
  cases hc : s.client with
  | none => exact List.nil_sublist _
  | some c => exact (h.reader c hc).some_emitted

theorem OnWay.delivered (h : OnWay q s) : s.delivered.Sublist s.calls := by
  obtain ⟨a, b, before, sent, h⟩ := h
  calc s.delivered.Sublist (s.delivered ++ s.posted) := List.sublist_append_left _ _
    _ = before ++ s.emitted := h.emitted
    _ |>.Sublist (a ++ b) := h.earlier.append (h.emitted_sent.trans h.passed)
    _ |>.Sublist (a ++ b ++ s.waiting) := List.sublist_append_left _ _
    _ |>.Sublist s.calls := h.taken

theorem receive_nil (c : Client) : c.receive q [] = c := by
  simp [Client.receive]

theorem receive_one (c : Client) (sock : Socket) (m : StatusMessage) : c.receive q [(sock, m)] =
    if c.line = .open sock then { c with reader := { c.reader with future := c.reader.future ++ m.text q } }
    else c := by
  by_cases h : c.line = .open sock
  · simp [Client.receive, h]
  · simp [Client.receive, h]

theorem receive_emitted {new : List (Socket × StatusMessage)} (client : Option Client) :
    (client.map fun c => c.receive q new).map (fun c => c.reader.emitted) =
      client.map fun c => c.reader.emitted := by
  rw [Option.map_map]
  rfl

/-- The server acts: what was taken up is more by `more`, and some of that went to the client. -/
theorem Stage.server {server' : Server} {action : Server.Action} {client : Option Client}
    {more mine : List StatusMessage} (h : Stage q s a b before sent)
    (htaken : (a ++ (b ++ more) ++ server'.posted).Sublist (s.calls ++ action.call))
    (hmine : mine.Sublist more)
    (hemitted : (client.map fun c => c.reader.emitted).getD [] = s.emitted)
    (hreader : ∀ c, client = some c → StatusReader.Inv q (sent ++ mine) c.reader) :
    Stage q { s with server := some server', client := client, calls := s.calls ++ action.call }
      a (b ++ more) before (sent ++ mine) where
  taken := htaken
  emitted := h.emitted.trans (congrArg (before ++ ·) hemitted.symm)
  earlier := h.earlier
  passed := h.passed.append hmine
  reader := hreader

theorem OnWay.server (h : OnWay q s) (action : Server.Action) : OnWay q (s.act q toInt (.server action)) := by
  obtain ⟨a, b, before, sent, h⟩ := h
  cases hserver : s.server with
  | none =>
      simp only [StatusFlow.act, hserver]
      exact ⟨a, b, before, sent, h⟩
  | some server =>
      have htaken := h.taken
      rw [show s.waiting = server.posted by simp [waiting, hserver]] at htaken
      simp only [StatusFlow.act, hserver]
      have hemitted : ∀ new, ((s.client.map fun c => c.receive q new).map fun c => c.reader.emitted).getD [] =
          s.emitted := fun new => by rw [receive_emitted]; rfl
      -- nothing is written
      have hquiet : (server.act q action).written = server.written → ∀ c,
          (s.client.map fun c => c.receive q ((server.act q action).written.drop server.written.length)) =
            some c → StatusReader.Inv q (sent ++ []) c.reader := by
        intro hwritten c hc
        obtain ⟨c₀, hc₀, rfl⟩ := Option.map_eq_some_iff.mp hc
        rw [hwritten, List.drop_length, receive_nil, List.append_nil]
        exact h.reader c₀ hc₀
      rcases Server.act_statuses q server action with
        ⟨hposted, hwritten, hother⟩ | ⟨m, rfl, hposted, hwritten⟩ | ⟨m, rfl, hposted, hwritten⟩
      · have hcall : action.call = [] := by
          cases action with
          | sendStatus m => exact absurd rfl (hother m)
          | _ => rfl
        refine ⟨a, b ++ [], before, sent ++ [], h.server ?_ (List.nil_sublist _) (hemitted _) (hquiet hwritten)⟩
        rw [hcall, hposted, List.append_nil, List.append_nil]
        exact htaken
      · refine ⟨a, b ++ [], before, sent ++ [], h.server ?_ (List.nil_sublist _) (hemitted _) (hquiet hwritten)⟩
        rw [hposted, List.append_nil, ← List.append_assoc]
        exact htaken.append (List.Sublist.refl _)
      · have hmore : (a ++ (b ++ [m]) ++ (server.act q .sendStatusSlot).posted).Sublist
            (s.calls ++ Server.Action.sendStatusSlot.call) := by
          rw [hposted] at htaken
          simpa [Server.Action.call] using htaken
        rcases hwritten with hwritten | ⟨sock, -, hwritten⟩
        · exact ⟨a, b ++ [m], before, sent ++ [],
            h.server hmore (List.nil_sublist _) (hemitted _) (hquiet hwritten)⟩
        · have hnew : (server.act q .sendStatusSlot).written.drop server.written.length = [(sock, m)] := by
            rw [hwritten, List.drop_left]
          -- it goes to the client if that is the controller
          by_cases hline : ∃ c, s.client = some c ∧ c.line = .open sock
          · obtain ⟨c, hc, hline⟩ := hline
            refine ⟨a, b ++ [m], before, sent ++ [m], h.server hmore (List.Sublist.refl _) (hemitted _) ?_⟩
            intro c' hc'
            obtain ⟨c₀, hc₀, rfl⟩ := Option.map_eq_some_iff.mp hc'
            cases hc.symm.trans hc₀
            rw [hnew, receive_one, if_pos hline]
            exact inv_send (h.reader c hc) m
          · refine ⟨a, b ++ [m], before, sent ++ [], h.server hmore (List.nil_sublist _) (hemitted _) ?_⟩
            intro c' hc'
            obtain ⟨c, hc, rfl⟩ := Option.map_eq_some_iff.mp hc'
            rw [hnew, receive_one, if_neg fun hopen => hline ⟨c, hc, hopen⟩, List.append_nil]
            exact h.reader c hc

/-- Nothing is done to what is on the way. -/
theorem OnWay.still (h : OnWay q s) (hwaiting : s'.waiting.Sublist s.waiting) (hcalls : s'.calls = s.calls)
    (hposted : s'.delivered ++ s'.posted = s.delivered ++ s.posted)
    (hclient : s'.client.map Client.reader = s.client.map Client.reader) : OnWay q s' := by
  obtain ⟨a, b, before, sent, h⟩ := h
  have hemitted : s'.emitted = s.emitted := by
    have hmap : ∀ client : Option Client, (client.map fun c => c.reader.emitted) =
        (client.map Client.reader).map StatusReader.emitted := fun client => by rw [Option.map_map]; rfl
    unfold StatusFlow.emitted
    rw [hmap, hmap, hclient]
  refine ⟨a, b, before, sent, ?_, ?_, h.earlier, h.passed, ?_⟩
  · rw [hcalls]
    exact ((List.Sublist.refl _).append hwaiting).trans h.taken
  · rw [hposted, hemitted]
    exact h.emitted
  · intro c hc
    have hreader : s.client.map Client.reader = some c.reader := by
      rw [← hclient, hc]
      rfl
    obtain ⟨c₀, hc₀, hsame⟩ := Option.map_eq_some_iff.mp hreader
    rw [← hsame]
    exact h.reader c₀ hc₀

/-- The client goes: what it emitted is on its way by itself. -/
theorem OnWay.change {client : Option Client} (h : OnWay q s)
    (hclient : ∀ c, client = some c → c.reader = { future := [] })
    (hposted : (client.map fun c => c.reader.emitted).getD [] = []) : OnWay q { s with client := client } := by
  obtain ⟨a, b, before, sent, h⟩ := h
  refine ⟨a ++ b, [], before ++ s.emitted, [], ?_, ?_, ?_, List.Sublist.refl _, ?_⟩
  · rw [List.append_nil]
    exact h.taken
  · show s.delivered ++ s.posted = before ++ s.emitted ++ (client.map fun c => c.reader.emitted).getD []
    rw [hposted, List.append_nil]
    exact h.emitted
  · exact h.earlier.append (h.emitted_sent.trans h.passed)
  · intro c hc
    rw [hclient c hc]
    exact StatusReader.init_inv

theorem OnWay.client (h0 : toInt ['0', '\n'] = 0) (h1 : toInt ['1', '\n'] = 1) (h : OnWay q s)
    (action : StatusReader.Action) : OnWay q (s.act q toInt (.client action)) := by
  obtain ⟨a, b, before, sent, h⟩ := h
  simp only [StatusFlow.act]
  split
  · exact ⟨a, b, before, sent, h⟩
  · next c hc =>
      obtain ⟨new, hnew⟩ : ∃ new, (c.reader.act q toInt action).emitted = c.reader.emitted ++ new :=
        act_emitted c.reader action
      refine ⟨a, b, before, sent, h.taken, ?_, h.earlier, h.passed, ?_⟩
      · have hemitted : s.emitted = c.reader.emitted := by
          unfold StatusFlow.emitted
          rw [hc]
          rfl
        show s.delivered ++ (s.posted ++ (c.reader.act q toInt action).emitted.drop c.reader.emitted.length) =
          before ++ (c.reader.act q toInt action).emitted
        rw [hnew, List.drop_left, ← List.append_assoc, h.emitted, hemitted, List.append_assoc]
      · intro c' hc'
        cases hc'
        exact (h.reader c hc).act h0 h1 action

/-- **One action** keeps what is on the way in order. -/
theorem OnWay.act (h0 : toInt ['0', '\n'] = 0) (h1 : toInt ['1', '\n'] = 1) (h : OnWay q s)
    (action : Action) : OnWay q (s.act q toInt action) := by
  cases action with
  | serviceStart =>
      simp only [StatusFlow.act]
      split
      · exact h.still (List.nil_sublist _) rfl rfl rfl
      · exact h
  | serviceStop =>
      refine h.still (List.nil_sublist _) rfl rfl ?_
      show (s.client.map _).map Client.reader = s.client.map Client.reader
      rw [Option.map_map]
      rfl
  | server action => exact h.server action
  | clientCreate =>
      simp only [StatusFlow.act]
      split
      · refine h.change ?_ rfl
        intro c hc
        cases hc
        rfl
      · exact h
  | clientDelete =>
      refine h.change ?_ rfl
      intro c hc
      cases hc
  | clientConnect =>
      simp only [StatusFlow.act]
      split
      · next server c hserver hc =>
          split
          · refine h.still ?_ rfl rfl (by rw [hc]; rfl)
            show ((some (server.act q .connect)).map Server.posted).getD [] |>.Sublist s.waiting
            unfold waiting
            rw [hserver]
            exact List.Sublist.refl _
          · exact h
      · exact h
  | client action => exact h.client h0 h1 action
  | deliver =>
      simp only [StatusFlow.act]
      split
      · exact h
      · next m posted hposted =>
          refine h.still (List.Sublist.refl _) rfl ?_ rfl
          rw [hposted]
          exact List.append_assoc ..
  | user a =>
      simp only [StatusFlow.act]
      split
      · exact h
      · exact h.still (List.Sublist.refl _) rfl rfl rfl

end

/-! ## The rows -/

section

variable {app : ApplicationUI} {row : MountInfoExt} {delivered : List StatusMessage} {m : StatusMessage}

/-- The row runs as another did. -/
def RunsAs (l : List MountInfoExt) (row : MountInfoExt) : Prop :=
  row.running = true → ∃ old ∈ l, old.uuid = row.uuid ∧ old.running = true

theorem runsAs_mem {l : List MountInfoExt} (h : row ∈ l) : RunsAs l row := fun hrun => ⟨row, h, rfl, hrun⟩

theorem runsAs_ofInfo {l : List MountInfoExt} {info : MountInfo} : RunsAs l (.ofInfo info) :=
  fun h => Bool.noConfusion h

theorem switch_rows {id : BitVec 128} {enabled : Bool} (h : row ∈ (app.switch id enabled).model.modelList) :
    RunsAs app.model.modelList row := by
  unfold ApplicationUI.switch at h
  split at h
  · exact runsAs_mem h
  · next old hold =>
      rcases Keyed.mem_replace h with rfl | h
      · exact fun hrun => ⟨old, Keyed.first_mem hold, rfl, hrun⟩
      · exact runsAs_mem h

theorem accept_rows {info : MountInfo} (h : row ∈ (app.accept info).model.modelList) :
    RunsAs app.model.modelList row := by
  rcases app.accept_cases info with hcase | ⟨-, hcase⟩
  · rw [hcase] at h
    rcases Keyed.mem_replace h with rfl | h
    · exact runsAs_ofInfo
    · exact runsAs_mem h
  · rw [hcase] at h
    rcases List.mem_append.mp h with h | h
    · exact runsAs_mem h
    · rw [List.mem_singleton.mp h]
      exact runsAs_ofInfo

/-- The user makes no row running. -/
theorem user_rows {a : ApplicationUI.Action} (ha : ∀ id running, a ≠ .setRunning id running)
    (h : row ∈ (app.act a).model.modelList) : RunsAs app.model.modelList row := by
  cases a with
  | setRunning id running => exact absurd rfl (ha id running)
  | remove id =>
      rcases app.remove_cases id with hcase | hcase
      · exact runsAs_mem (hcase ▸ h)
      · change row ∈ (app.remove id).model.modelList at h
        rw [hcase] at h
        exact runsAs_mem (Keyed.erase_sublist.subset h)
  | start id => exact switch_rows h
  | stop id => exact switch_rows h
  | edit id =>
      change row ∈ (app.model.edit id).modelList at h
      obtain hcase | ⟨info, -, hcase⟩ := app.model.edit_cases
      · rw [hcase] at h
        exact runsAs_mem h
      · rw [hcase] at h
        exact runsAs_mem h
  | newMount uuid =>
      change row ∈ (app.model.newMount uuid).modelList at h
      obtain hcase | ⟨info, -, hcase⟩ := app.model.newMount_cases
      · rw [hcase] at h
        exact runsAs_mem h
      · rw [hcase] at h
        exact runsAs_mem h
  | set e c => exact runsAs_mem h
  | accepted =>
      change row ∈ app.editaccepted.model.modelList at h
      rcases app.editaccepted_cases with hcase | ⟨e, info, -, hcase⟩
      · exact runsAs_mem (hcase ▸ h)
      · rw [hcase] at h
        exact accept_rows h
  | rejected =>
      rcases app.model.editrejected_cases with hcase | ⟨e, -, hcase⟩
      · exact runsAs_mem (hcase ▸ h)
      · change row ∈ app.model.editrejected.modelList at h
        rw [hcase] at h
        exact runsAs_mem h

theorem lastStatus_append (uuid : BitVec 128) : lastStatus (delivered ++ [m]) uuid =
    if m.uuid = uuid then some m.running else lastStatus delivered uuid := by
  unfold lastStatus
  rw [List.reverse_append, List.reverse_singleton, List.singleton_append, List.find?_cons]
  by_cases h : m.uuid = uuid
  · simp [h]
  · simp [h]

/-- A status goes into the rows of its uuid. -/
theorem deliver_rows (h : ∀ row ∈ app.model.modelList, row.running = true → lastStatus delivered row.uuid = some true)
    (m : StatusMessage) : ∀ row ∈ (app.act (.setRunning m.uuid m.running)).model.modelList,
      row.running = true → lastStatus (delivered ++ [m]) row.uuid = some true := by
  intro row hrow hrun
  obtain ⟨old, hold, rfl⟩ := List.mem_map.mp hrow
  rw [lastStatus_append]
  split at hrun
  · next huuid =>
      rw [if_pos huuid, if_pos huuid.symm]
      exact congrArg some hrun
  · next huuid =>
      rw [if_neg huuid, if_neg fun he => huuid he.symm]
      exact h old hold hrun

end

/-! ## Every run -/

section

variable {q : UuidText} {toInt : List Char → Int} {s : StatusFlow}

/-- A row is running by what was delivered last. -/
def RowsShown (s : StatusFlow) : Prop :=
  ∀ row ∈ s.app.model.modelList, row.running = true → lastStatus s.delivered row.uuid = some true

theorem RowsShown.act (h : s.RowsShown) (action : Action) : (s.act q toInt action).RowsShown := by
  cases action with
  | deliver =>
      simp only [StatusFlow.act]
      split
      · exact h
      · next m posted _ => exact deliver_rows h m
  | user a =>
      simp only [StatusFlow.act]
      split
      · exact h
      · next hother =>
          intro row hrow hrun
          obtain ⟨old, hold, huuid, hran⟩ := user_rows (fun id running => hother id running) hrow hrun
          exact huuid ▸ h old hold hran
  | server a =>
      simp only [StatusFlow.act]
      split
      · exact h
      · exact h
  | client a =>
      simp only [StatusFlow.act]
      split
      · exact h
      · exact h
  | clientConnect =>
      simp only [StatusFlow.act]
      split
      · split
        · exact h
        · exact h
      · exact h
  | serviceStart =>
      simp only [StatusFlow.act]
      split
      · exact h
      · exact h
  | clientCreate =>
      simp only [StatusFlow.act]
      split
      · exact h
      · exact h
  | serviceStop => exact h
  | clientDelete => exact h

end

/-- **What is shown.**  However services and clients come and go, peers register, bytes come in and the
user edits, the statuses that get to the model are some of those sent, in the order they were sent, and
a row is running only if the last one for its uuid says so. -/
theorem shown_along (q : UuidText) (toInt : List Char → Int) (h0 : toInt ['0', '\n'] = 0)
    (h1 : toInt ['1', '\n'] = 1) (stored : List MountInfo) (actions : List Action) :
    History.Along (fun _ _ s' => s'.Shown) { app := .init stored }
      (History.trace (act q toInt) { app := .init stored } actions) := by
  have hstart : OnWay q { app := .init stored } ∧ RowsShown { app := .init stored } := by
    refine ⟨⟨[], [], [], [], List.Sublist.refl _, rfl, List.Sublist.refl _, List.Sublist.refl _, ?_⟩, ?_⟩
    · intro c hc
      cases hc
    · intro row hrow hrun
      obtain ⟨info, -, rfl⟩ := List.mem_map.mp hrow
      cases hrun
  refine History.Path.along_all (I := fun s => OnWay q s ∧ s.RowsShown) ?_ hstart (History.path_trace actions _)
  rintro s a _ ⟨hway, hrows⟩ rfl
  have hway' := hway.act h0 h1 a
  have hrows' : (s.act q toInt a).RowsShown := hrows.act a
  exact ⟨⟨hway'.delivered, hrows'⟩, hway', hrows'⟩

/-- The service reports a mount, the report comes in, and the user stops the mount. -/
theorem shown_along_stopped :
    History.Along (fun _ _ s' => s'.Shown) { app := .init [{ uuid := 1 }] }
      (History.trace (act .braced stringToInt) { app := .init [{ uuid := 1 }] }
        [.serviceStart, .clientCreate, .clientConnect, .server .newConnection,
          .server (.arrive 0 controllerText), .server (.readyRead 0), .server (.sendStatus ⟨1, true⟩),
          .server .sendStatusSlot, .client (.arrive 100), .client .readyRead, .client .run, .client .run,
          .deliver, .user (.stop 1)]) :=
  shown_along .braced stringToInt (by decide) (by decide) _ _

end StatusFlow

end SeamlessSmb
