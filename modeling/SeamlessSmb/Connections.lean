/-
# `Connections` — the sockets of the service

The server keeps the sockets of its peers in a list, and in `controller` the one that sent
`CONTROLLER` last.  Statuses are posted to the server's thread and written to that one.  A socket that
closes is taken off the list and given up to be deleted; nothing else forgets it.

| source | here |
| :-- | :-- |
| `QLocalServer` with its pending connections | `pending`; a socket is known by a number |
| `sendStatus`, and `sendStatusSlot` when the event loop gets to it | `posted` |
| `deleteLater` | `deleted` |
| `QLocalSocket::write` | `written`, the socket with the message |
| `Server::~Server` | `Server.destruct` |

A socket that has closed has nothing more to read, and one that was not taken yet is not listened to:
`readyRead` and `aboutToClose` come from the sockets of the list.

**Proved here:** in every run the controller is one of the sockets listed, so no status is written to
one that was given up, and the statuses written are some of those sent, in order (`connections_along`).
The destructor gives up every socket listed and leaves no controller (`destruct_closes`).
-/
import SeamlessSmb.Controller.Commands
import SeamlessSmb.Controller.StatusMessages
import SeamlessSmb.Lib.History
import Mathlib.Data.List.Nodup
import Mathlib.Logic.Function.Basic

namespace SeamlessSmb

/-- A `QLocalSocket` of the server. -/
abbrev Socket := Nat

/-- `Server`.  `next` is the number of the next connection, `effects` what the daemon was asked, and
`calls` what `sendStatus` was given. -/
structure Server where
  pending : List Socket := []
  sockets : List Socket := []
  controller : Option Socket := none
  buffer : Socket → List Char := fun _ => []
  posted : List StatusMessage := []
  next : Socket := 0
  deleted : List Socket := []
  written : List (Socket × StatusMessage) := []
  effects : List Effect := []
  calls : List StatusMessage := []

namespace Server

variable (q : UuidText)

/-- `onReadyRead`, with the socket as its sender. -/
def readyRead (s : Server) (sock : Socket) : Server :=
  let (command, rest) := Lines.readLine '\n' (s.buffer sock)
  let s := { s with buffer := Function.update s.buffer sock rest }
  match onReadyRead q command with
  | some .registered => { s with controller := some sock }
  | some effect => { s with effects := s.effects ++ [effect] }
  | none => s

/-- `onnewConnection`.  What came in before is read before the socket is listed. -/
def onnewConnection (s : Server) : Server :=
  match s.pending with
  | [] => s
  | sock :: pending =>
      let s := { s with pending := pending }
      let s := if s.buffer sock = [] then s else s.readyRead q sock
      { s with sockets := s.sockets ++ [sock] }

/-- `onaboutToClose`, with the socket as its sender. -/
def onaboutToClose (s : Server) (sock : Socket) : Server :=
  if sock ∈ s.sockets then
    { s with
      sockets := s.sockets.erase sock
      controller := if s.controller = some sock then none else s.controller
      deleted := s.deleted ++ [sock] }
  else s

/-- `sendStatusSlot`. -/
def sendStatusSlot (s : Server) (m : StatusMessage) : Server :=
  match s.controller with
  | none => s
  | some sock => { s with written := s.written ++ [(sock, m)] }

/-- `sock->close(); sock->deleteLater();`, where `close` emits `aboutToClose`. -/
def giveUp (s : Server) (sock : Socket) : Server :=
  let s := s.onaboutToClose sock
  { s with deleted := s.deleted ++ [sock] }

/-- `~Server`: the loop goes over a copy of the list. -/
def destruct (s : Server) : Server :=
  s.sockets.foldl giveUp s

/-- What comes to the server's thread: a peer that connects, bytes of one, the notifications, a call of
`sendStatus`, and a posted one. -/
inductive Action
  | connect
  | arrive (sock : Socket) (bytes : List Char)
  | newConnection
  | readyRead (sock : Socket)
  | aboutToClose (sock : Socket)
  | sendStatus (m : StatusMessage)
  | sendStatusSlot

def act (s : Server) : Action → Server
  | .connect => { s with pending := s.pending ++ [s.next], next := s.next + 1 }
  | .arrive sock bytes =>
      { s with buffer := Function.update s.buffer sock (s.buffer sock ++ bytes) }
  | .newConnection => s.onnewConnection q
  | .readyRead sock => if sock ∈ s.sockets then s.readyRead q sock else s
  | .aboutToClose sock => s.onaboutToClose sock
  | .sendStatus m => { s with posted := s.posted ++ [m], calls := s.calls ++ [m] }
  | .sendStatusSlot =>
      match s.posted with
      | [] => s
      | m :: posted => { s with posted := posted }.sendStatusSlot m

/-! ## What holds of every state -/

/-- The controller is listed, and what is listed was not given up.  What was written are statuses that
were sent, in their order, and none of those still posted. -/
structure InOrder (s : Server) : Prop where
  listed : ∀ sock, s.controller = some sock → sock ∈ s.sockets
  kept : ∀ sock ∈ s.sockets, sock ∉ s.deleted
  sent : ∃ handled, (s.written.map Prod.snd).Sublist handled ∧ handled ++ s.posted = s.calls

/-- A status is written to the controller, one that is listed, or not at all. -/
def WritesListed (s s' : Server) : Prop :=
  s'.written = s.written ∨
    ∃ sock m, s'.written = s.written ++ [(sock, m)] ∧ s.controller = some sock ∧ sock ∈ s.sockets ∧
      sock ∉ s.deleted

/-- The invariant: the numbers of the sockets differ. -/
structure Inv (s : Server) : Prop where
  listed : ∀ sock, s.controller = some sock → sock ∈ s.sockets
  sent : ∃ handled, (s.written.map Prod.snd).Sublist handled ∧ handled ++ s.posted = s.calls
  distinct : (s.sockets ++ s.pending).Nodup
  gone : ∀ sock ∈ s.deleted, sock ∉ s.sockets ++ s.pending
  below : ∀ sock ∈ s.sockets ++ s.pending ++ s.deleted, sock < s.next

section

variable {q : UuidText} {s : Server} {sock : Socket} {m : StatusMessage} {a : Action}

theorem Inv.inOrder (hi : s.Inv) : s.InOrder :=
  ⟨hi.listed, fun sock hsock hd => hi.gone sock hd (List.mem_append_left _ hsock), hi.sent⟩

/-- What a command does. -/
theorem readyRead_cases (q : UuidText) (s : Server) (sock : Socket) :
    ∃ buffer controller effects,
      s.readyRead q sock = { s with buffer := buffer, controller := controller, effects := effects } ∧
        (controller = s.controller ∨ controller = some sock) := by
  unfold Server.readyRead
  split
  · split
    · exact ⟨_, _, _, rfl, .inr rfl⟩
    · exact ⟨_, _, _, rfl, .inl rfl⟩
    · exact ⟨_, _, _, rfl, .inl rfl⟩

theorem Inv.connect (hi : s.Inv) : (s.act q .connect).Inv where
  listed := hi.listed
  sent := hi.sent
  distinct := by
    show (s.sockets ++ (s.pending ++ [s.next])).Nodup
    rw [← List.append_assoc]
    refine List.Nodup.append hi.distinct (List.nodup_singleton _) ?_
    intro sock hsock hnew
    rw [List.mem_singleton.mp hnew] at hsock
    exact Nat.lt_irrefl _ (hi.below _ (List.mem_append_left _ hsock))
  gone := by
    intro sock hd hsock
    rw [show (s.act q .connect).sockets ++ (s.act q .connect).pending = s.sockets ++ s.pending ++ [s.next] from
      (List.append_assoc ..).symm] at hsock
    rcases List.mem_append.mp hsock with h | h
    · exact hi.gone sock hd h
    · rw [List.mem_singleton.mp h] at hd
      exact Nat.lt_irrefl _ (hi.below _ (List.mem_append_right _ hd))
  below := by
    intro sock hsock
    show sock < s.next + 1
    have hmem : sock ∈ s.sockets ++ s.pending ++ s.deleted ∨ sock = s.next := by
      simp only [Server.act, List.mem_append, List.mem_singleton] at hsock ⊢
      tauto
    rcases hmem with h | rfl
    · exact Nat.lt_succ_of_lt (hi.below sock h)
    · exact Nat.lt_succ_self _

theorem Inv.newConnection (hi : s.Inv) : (s.onnewConnection q).Inv := by
  unfold onnewConnection
  split
  · exact hi
  · next sock pending hpending =>
      have hmove : s.sockets ++ s.pending = (s.sockets ++ [sock]) ++ pending := by
        rw [hpending, List.append_assoc]
        rfl
      obtain ⟨buffer, controller, effects, hread, hcontroller⟩ :=
        readyRead_cases q { s with pending := pending } sock
      have hlisted : ∀ c, controller = some c → c ∈ s.sockets ++ [sock] := by
        intro c hc
        rcases hcontroller with h | h
        · exact List.mem_append_left _ (hi.listed c (h ▸ hc))
        · rw [h] at hc
          cases hc
          exact List.mem_append_right _ List.mem_cons_self
      have hdistinct := hi.distinct
      have hgone := hi.gone
      have hbelow := hi.below
      rw [hmove] at hdistinct hgone hbelow
      dsimp only
      split
      · exact ⟨fun c hc => List.mem_append_left _ (hi.listed c hc), hi.sent, hdistinct, hgone, hbelow⟩
      · rw [hread]
        exact ⟨hlisted, hi.sent, hdistinct, hgone, hbelow⟩

theorem Inv.readyRead (hi : s.Inv) (hsock : sock ∈ s.sockets) : (s.readyRead q sock).Inv := by
  obtain ⟨buffer, controller, effects, hread, hcontroller⟩ := readyRead_cases q s sock
  rw [hread]
  refine ⟨?_, hi.sent, hi.distinct, hi.gone, hi.below⟩
  intro c hc
  rcases hcontroller with h | h
  · exact hi.listed c (h ▸ hc)
  · have hcs : some c = some sock := hc.symm.trans h
    cases hcs
    exact hsock

/-- The controller goes with its socket. -/
theorem Inv.onaboutToClose (hi : s.Inv) : (s.onaboutToClose sock).Inv := by
  unfold Server.onaboutToClose
  split
  · next hsock =>
      have hsub : (s.sockets.erase sock ++ s.pending).Sublist (s.sockets ++ s.pending) :=
        List.erase_sublist.append (List.Sublist.refl _)
      have hnodup : s.sockets.Nodup := hi.distinct.of_append_left
      refine ⟨?_, hi.sent, hi.distinct.sublist hsub, ?_, ?_⟩
      · intro c hc
        dsimp only at hc
        split at hc
        · cases hc
        · next hne =>
            refine (List.Nodup.mem_erase_iff hnodup).mpr ⟨?_, hi.listed c hc⟩
            rintro rfl
            exact hne hc
      · intro d hd
        rcases List.mem_append.mp hd with h | h
        · exact fun hm => hi.gone d h (hsub.subset hm)
        · rw [List.mem_singleton.mp h]
          intro hm
          rcases List.mem_append.mp hm with hm | hm
          · exact hnodup.not_mem_erase hm
          · exact List.disjoint_of_nodup_append hi.distinct hsock hm
      · intro d hd
        refine hi.below d ?_
        have herase : ∀ {x}, x ∈ s.sockets.erase sock → x ∈ s.sockets := fun hx => List.mem_of_mem_erase hx
        simp only [List.mem_append, List.mem_singleton] at hd ⊢
        rcases hd with (hd | hd) | hd | rfl
        · exact .inl (.inl (herase hd))
        · exact .inl (.inr hd)
        · exact .inr hd
        · exact .inl (.inl hsock)
  · exact hi

/-- **One action** keeps it. -/
theorem Inv.act (hi : s.Inv) (a : Action) : (s.act q a).Inv := by
  cases a with
  | connect => exact hi.connect
  | arrive sock bytes => exact ⟨hi.listed, hi.sent, hi.distinct, hi.gone, hi.below⟩
  | newConnection => exact hi.newConnection
  | readyRead sock =>
      simp only [Server.act]
      split
      · next hsock => exact hi.readyRead hsock
      · exact hi
  | aboutToClose sock => exact hi.onaboutToClose
  | sendStatus m =>
      obtain ⟨handled, hwritten, hcalls⟩ := hi.sent
      refine ⟨hi.listed, ⟨handled, hwritten, ?_⟩, hi.distinct, hi.gone, hi.below⟩
      show handled ++ (s.posted ++ [m]) = s.calls ++ [m]
      rw [← List.append_assoc, hcalls]
  | sendStatusSlot =>
      obtain ⟨handled, hwritten, hcalls⟩ := hi.sent
      simp only [Server.act]
      split
      · exact hi
      · next m posted hposted =>
          rw [hposted] at hcalls
          have hnext : handled ++ [m] ++ posted = s.calls := by
            rw [List.append_assoc]
            exact hcalls
          unfold Server.sendStatusSlot
          split
          · exact ⟨hi.listed, ⟨handled ++ [m], hwritten.trans (List.sublist_append_left _ _), hnext⟩,
              hi.distinct, hi.gone, hi.below⟩
          · refine ⟨hi.listed, ⟨handled ++ [m], ?_, hnext⟩, hi.distinct, hi.gone, hi.below⟩
            show ((s.written ++ [_]).map Prod.snd).Sublist (handled ++ [m])
            rw [List.map_append]
            exact hwritten.append (List.Sublist.refl _)

/-- What an action does to the statuses: nothing; one is posted; or the first that is posted is taken,
and written to the controller if there is one. -/
theorem act_statuses (q : UuidText) (s : Server) (a : Action) :
    ((s.act q a).posted = s.posted ∧ (s.act q a).written = s.written ∧ ∀ m, a ≠ .sendStatus m) ∨
      (∃ m, a = .sendStatus m ∧ (s.act q a).posted = s.posted ++ [m] ∧ (s.act q a).written = s.written) ∨
      ∃ m, a = .sendStatusSlot ∧ s.posted = m :: (s.act q a).posted ∧
        ((s.act q a).written = s.written ∨
          ∃ sock, s.controller = some sock ∧ (s.act q a).written = s.written ++ [(sock, m)]) := by
  cases a with
  | newConnection =>
      have hsame : (s.onnewConnection q).posted = s.posted ∧ (s.onnewConnection q).written = s.written := by
        unfold onnewConnection
        split
        · exact ⟨rfl, rfl⟩
        · next sock pending _ =>
            obtain ⟨_, _, _, hread, -⟩ := readyRead_cases q { s with pending := pending } sock
            dsimp only
            split
            · exact ⟨rfl, rfl⟩
            · rw [hread]
              exact ⟨rfl, rfl⟩
      exact .inl ⟨hsame.1, hsame.2, by simp⟩
  | readyRead sock =>
      have hsame : (s.act q (.readyRead sock)).posted = s.posted ∧
          (s.act q (.readyRead sock)).written = s.written := by
        simp only [Server.act]
        split
        · obtain ⟨_, _, _, hread, -⟩ := readyRead_cases q s sock
          rw [hread]
          exact ⟨rfl, rfl⟩
        · exact ⟨rfl, rfl⟩
      exact .inl ⟨hsame.1, hsame.2, by simp⟩
  | aboutToClose sock =>
      have hsame : (s.onaboutToClose sock).posted = s.posted ∧
          (s.onaboutToClose sock).written = s.written := by
        unfold Server.onaboutToClose
        split
        · exact ⟨rfl, rfl⟩
        · exact ⟨rfl, rfl⟩
      exact .inl ⟨hsame.1, hsame.2, by simp⟩
  | sendStatus m => exact .inr (.inl ⟨m, rfl, rfl, rfl⟩)
  | sendStatusSlot =>
      cases hposted : s.posted with
      | nil => simp [Server.act, hposted]
      | cons m posted =>
          refine .inr (.inr ⟨m, rfl, ?_⟩)
          simp only [Server.act, hposted, Server.sendStatusSlot]
          split
          · exact ⟨rfl, .inl rfl⟩
          · next sock hsock => exact ⟨rfl, .inr ⟨sock, hsock, rfl⟩⟩
  | connect => exact .inl ⟨rfl, rfl, by simp⟩
  | arrive sock bytes => exact .inl ⟨rfl, rfl, by simp⟩

/-- What is written goes to an open socket. -/
theorem Inv.writesListed (hi : s.Inv) (a : Action) : WritesListed s (s.act q a) := by
  rcases act_statuses q s a with ⟨-, hwritten, -⟩ | ⟨m, -, -, hwritten⟩ | ⟨m, -, -, hwritten⟩
  · exact .inl hwritten
  · exact .inl hwritten
  · refine hwritten.imp_right fun ⟨sock, hsock, hwritten⟩ => ?_
    exact ⟨sock, m, hwritten, hsock, hi.listed sock hsock, hi.inOrder.kept sock (hi.listed sock hsock)⟩

theorem start_inv : ({} : Server).Inv where
  listed := by
    intro sock h
    cases h
  sent := ⟨[], List.nil_sublist _, rfl⟩
  distinct := List.nodup_nil
  gone := by
    intro sock h
    cases h
  below := by
    intro sock h
    cases h

end

/-- **Connections.**  Whoever connects, writes and closes, and in whatever order the server gets to it,
the controller is one of the sockets listed, no status goes to a socket that was given up, and those
written are some of those sent, in order. -/
theorem connections_along (q : UuidText) (actions : List Action) :
    History.Along (fun s _ s' => s'.InOrder ∧ WritesListed s s') {}
      (History.trace (Server.act q) {} actions) := by
  refine History.Path.along_all (I := Inv) ?_ start_inv (History.path_trace actions _)
  rintro s a _ hi rfl
  exact ⟨⟨(hi.act a).inOrder, hi.writesListed a⟩, hi.act a⟩

/-! ## The destructor -/

section

variable {q : UuidText} {s : Server}

theorem giveUp_sockets (s : Server) (sock : Socket) : (s.giveUp sock).sockets = s.sockets.erase sock := by
  simp only [giveUp, onaboutToClose]
  split
  · rfl
  · next h => exact (List.erase_of_not_mem h).symm

theorem giveUp_deleted {sock c : Socket} (h : c ∈ s.deleted ∨ c = sock) : c ∈ (s.giveUp sock).deleted := by
  refine List.mem_append.mpr ?_
  rcases h with h | rfl
  · refine .inl ?_
    simp only [onaboutToClose]
    split
    · exact List.mem_append_left _ h
    · exact h
  · exact .inr List.mem_cons_self

/-- The controller is given up with its socket or stays listed. -/
theorem giveUp_listed (hnodup : s.sockets.Nodup) (hlisted : ∀ c, s.controller = some c → c ∈ s.sockets)
    (sock : Socket) : ∀ c, (s.giveUp sock).controller = some c → c ∈ (s.giveUp sock).sockets := by
  intro c hc
  rw [giveUp_sockets]
  simp only [giveUp, onaboutToClose] at hc
  split at hc
  · dsimp only at hc
    split at hc
    · cases hc
    · next hne =>
        refine (List.Nodup.mem_erase_iff hnodup).mpr ⟨?_, hlisted c hc⟩
        rintro rfl
        exact hne hc
  · next hsock =>
      rw [List.erase_of_not_mem hsock]
      exact hlisted c hc

/-- **The loop** gives up what is listed, if it comes to all of it. -/
theorem giveUp_loop {l : List Socket} (hl : s.sockets ⊆ l) (hnodup : s.sockets.Nodup)
    (hlisted : ∀ c, s.controller = some c → c ∈ s.sockets) :
    (l.foldl giveUp s).sockets = [] ∧ (l.foldl giveUp s).controller = none ∧
      ∀ c, c ∈ s.deleted ∨ c ∈ l → c ∈ (l.foldl giveUp s).deleted := by
  induction l generalizing s with
  | nil =>
      have hnil : s.sockets = [] := List.subset_nil.mp hl
      refine ⟨hnil, ?_, fun c hc => hc.resolve_right List.not_mem_nil⟩
      cases hc : s.controller with
      | none => exact hc
      | some c =>
          have hm := hlisted c hc
          rw [hnil] at hm
          cases hm
  | cons sock l ih =>
      have hsockets := giveUp_sockets s sock
      have hrest : (s.giveUp sock).sockets ⊆ l := by
        intro c hc
        rw [hsockets, List.Nodup.mem_erase_iff hnodup] at hc
        exact (List.mem_cons.mp (hl hc.2)).resolve_left hc.1
      obtain ⟨hnone, hcontroller, hdeleted⟩ :=
        ih hrest (by rw [hsockets]; exact hnodup.erase sock) (giveUp_listed hnodup hlisted sock)
      refine ⟨hnone, hcontroller, fun c hc => hdeleted c ?_⟩
      rcases hc with hc | hc
      · exact .inl (giveUp_deleted (.inl hc))
      · exact (List.mem_cons.mp hc).imp_left fun h => giveUp_deleted (.inr h)

end

/-- **The destructor**, in every state there is, gives up each socket listed, and leaves no controller. -/
theorem destruct_closes (q : UuidText) (actions : List Action) :
    let s := actions.foldl (Server.act q) {}
    s.destruct.sockets = [] ∧ s.destruct.controller = none ∧ ∀ sock ∈ s.sockets, sock ∈ s.destruct.deleted := by
  intro s
  have hi : s.Inv := by
    suffices h : ∀ t : Server, t.Inv → (actions.foldl (Server.act q) t).Inv from h _ start_inv
    induction actions with
    | nil => exact fun t ht => ht
    | cons a actions ih => exact fun t ht => ih _ (ht.act a)
  have hnodup : s.sockets.Nodup := hi.distinct.sublist (List.sublist_append_left _ _)
  obtain ⟨hsockets, hcontroller, hdeleted⟩ := giveUp_loop (List.Subset.refl _) hnodup hi.listed
  exact ⟨hsockets, hcontroller, fun sock hsock => hdeleted sock (.inr hsock)⟩

end Server

end SeamlessSmb
