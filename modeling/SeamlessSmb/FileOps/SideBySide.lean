/-
# `FileOps.SideBySide` — calls of the driver that run side by side

Dokan answers calls on several threads.  All of them work on one list of nodes, one operation at a time and
in any order: between two operations of a call others add nodes, take some out and rename some.  Each thread
has a last error of its own.

| | |
| :-- | :-- |
| `mountMachine` | the calls, on what the threads of a mount share |
| `requests` | any number of calls of the driver, none begun |
| `ownCalls i run` | what thread `i` does in a run |

**Proved here:** a name that no call is given to change keeps its node, however they come between each other
(`sideBySide_keeps`).  A call whose names no other changes does what it does alone: to the nodes of its
names, and in all it is answered, by the same answers of the platform (`sideBySide_alone`).  So the security
that is read of a file nobody changes is the one it had at first (`sideBySide_reads`).
-/
import SeamlessSmb.Region
import SeamlessSmb.FileOps.Holding
import SeamlessSmb.FileOps.Script

namespace SeamlessSmb

open Calls Nodes

/-! ## The threads -/

/-- What the threads of a mount share; each has a last error of its own. -/
def mountMachine {O : Type} (env : Env) (os : O → (c : Win32Call) → Outcome c.Value → O → Prop) :
    Machine Call Answer DWORD (World O) where
  answers := step env os
  install error w := { w with lastError := error }
  save := World.lastError

/-- Calls of the driver that have not begun. -/
def requests {O ι : Type} (env : Env) (a : ι → Action) (errors : ι → DWORD) (w : World O) :
    Pool Call Answer DWORD (World O) fun _ : ι => Unit where
  threads i := (errors i, (a i).program env)
  shared := w

instance (F : WString) : (a : Action) → Decidable (a.Touches F)
  | .create q _ => inferInstanceAs (Decidable (q.fileName = F))
  | .setSecurity fileName _ | .deleteFile fileName _ | .deleteDirectory fileName _ =>
      inferInstanceAs (Decidable (fileName = F))
  | .getSecurity .. | .cleanup .. => isFalse id
  | .move fileName newFileName _ _ => inferInstanceAs (Decidable (fileName = F ∨ newFileName = F))

instance (F : WString) : (a : Action) → Decidable (a.Mentions F)
  | .getSecurity fileName _ _ _ => inferInstanceAs (Decidable (fileName = F))
  | .create q info => inferInstanceAs (Decidable ((Action.create q info).Touches F))
  | .setSecurity fileName r => inferInstanceAs (Decidable ((Action.setSecurity fileName r).Touches F))
  | .deleteFile fileName info => inferInstanceAs (Decidable ((Action.deleteFile fileName info).Touches F))
  | .deleteDirectory fileName info =>
      inferInstanceAs (Decidable ((Action.deleteDirectory fileName info).Touches F))
  | .cleanup .. => isFalse id
  | .move fileName newFileName replace info =>
      inferInstanceAs (Decidable ((Action.move fileName newFileName replace info).Touches F))

section

variable {O ι : Type} {env : Env} {os : O → (c : Win32Call) → Outcome c.Value → O → Prop} {w w' : World O}
  {u : World Unit} {T : WString → Bool} {q : Underway} {c : Call} {r : Answer c}

/-! ## One call -/

/-- A call that is apart leaves the nodes alone, and could be made with others. -/
theorem step_apart (h : step env os w c r w') (hc : c.Apart) : w'.nodes = w.nodes ∧
    ∀ u : World Unit, u.lastError = w.lastError →
      ∃ u', step env anything u c r u' ∧ u'.lastError = w'.lastError ∧ u'.nodes = u.nodes := by
  cases c with
  | getLastError =>
      obtain ⟨rfl, rfl⟩ := h
      exact ⟨rfl, fun u hu => ⟨u, ⟨hu.symm, rfl⟩, hu, rfl⟩⟩
  | setLastError error =>
      cases h
      exact ⟨rfl, fun u _ => ⟨_, rfl, rfl, rfl⟩⟩
  | print format args =>
      obtain ⟨e, he, rfl⟩ := h
      exact ⟨rfl, fun u hu => ⟨_, ⟨e, fun hd => (he hd).trans hu.symm, rfl⟩, rfl, rfl⟩⟩
  | printSD sd num =>
      obtain ⟨hprint, e, he, rfl⟩ := h
      exact ⟨rfl, fun u hu => ⟨_, ⟨hprint, e, fun hd => (he hd).trans hu.symm, rfl⟩, rfl, rfl⟩⟩
  | printOwner sd =>
      obtain ⟨e, rfl⟩ := h
      exact ⟨rfl, fun u _ => ⟨_, ⟨e, rfl⟩, rfl, rfl⟩⟩
  | invalidParameter => exact h.elim
  | createDefaultSelfRelativeSD =>
      obtain ⟨hsd, e, rfl⟩ := h
      exact ⟨rfl, fun u _ => ⟨_, ⟨hsd, e, rfl⟩, rfl, rfl⟩⟩
  | lockData p =>
      cases h
      exact ⟨rfl, fun u hu => ⟨u, rfl, hu, rfl⟩⟩
  | unlockData p =>
      cases h
      exact ⟨rfl, fun u hu => ⟨u, rfl, hu, rfl⟩⟩
  | insertWriteCount handle =>
      cases h
      exact ⟨rfl, fun u hu => ⟨_, rfl, hu, rfl⟩⟩
  | eraseWriteCount handle =>
      cases h
      exact ⟨rfl, fun u hu => ⟨_, rfl, hu, rfl⟩⟩
  | win32 x =>
      obtain ⟨hallowed, o, -, rfl⟩ := h
      exact ⟨rfl, fun u _ => ⟨_, ⟨hallowed, (), trivial, rfl⟩, rfl, rfl⟩⟩
  | _ => exact hc.elim

/-- The nodes a call has are there, with names on the same side of the border as when it got them. -/
def Underway.Held (q : Underway) (T : WString → Bool) (n : Nodes) : Prop :=
  ∀ p f, (p, f) ∈ q.found → p < n.next ∧ T (n.name p) = T f ∧ q.action.Mentions f

theorem Underway.Held.keeps {n n' : Nodes} (h : q.Held T n) (hk : Nodes.Keeps T n n') : q.Held T n' := by
  intro p f hf
  obtain ⟨hp, hT, hmentions⟩ := h p f hf
  exact ⟨Nat.lt_of_lt_of_le hp hk.next, (hk.name p hp).trans hT, hmentions⟩

/-- Those of a call whose names are in the region are in it. -/
theorem Underway.Held.inside {n : Nodes} (h : q.Held T n) (hT : ∀ f, q.action.Mentions f → T f = true) :
    ∀ p ∈ q.found.map Prod.fst, p < n.next ∧ T (n.name p) = true := by
  intro p hp
  obtain ⟨⟨p, f⟩, hf, rfl⟩ := List.mem_map.mp hp
  obtain ⟨hlt, hside, hmentions⟩ := h p f hf
  exact ⟨hlt, hside.trans (hT f hmentions)⟩

/-- A call of a thread takes no node across the border, if it changes names on one side only. -/
theorem step_keeps {side : Bool} (hq : q.Allows c) (hside : ∀ f, q.action.Touches f → T f = side)
    (h : step env os w c r w') : Nodes.Keeps T w.nodes w'.nodes := by
  cases c with
  | findFileNode f =>
      obtain ⟨-, rfl⟩ := h
      exact Nodes.Keeps.refl _
  | makeShared node =>
      obtain ⟨-, e, rfl⟩ := h
      exact aside_makeShared.toKeeps
  | addFileNode node =>
      obtain ⟨-, rfl⟩ := h
      exact keeps_addFileNode
  | rename f g =>
      obtain ⟨-, rfl⟩ := h
      exact keeps_rename ((hside g hq.2).trans (hside f hq.1).symm)
  | deleteFileNode f =>
      obtain ⟨-, rfl⟩ := h
      exact keeps_deleteFileNode
  | getDescriptor p =>
      obtain ⟨-, e, rfl⟩ := h
      exact Nodes.Keeps.refl _
  | setDescriptor p sd stray =>
      obtain ⟨e, rfl⟩ := h
      exact keeps_secure
  | _ =>
      rw [(step_apart h hq).1]
      exact Nodes.Keeps.refl _

/-- And leaves the other side alone. -/
theorem step_outside (hq : q.Allows c) (hheld : q.Held T w.nodes) (hside : ∀ f, q.action.Touches f → T f = false)
    (h : step env os w c r w') : Nodes.Aside T w.nodes w'.nodes := by
  have howns : ∀ p, q.Owns p → T (w.nodes.name p) = false := by
    rintro p ⟨f, hf, htouches⟩
    exact (hheld p f hf).2.1.trans (hside f htouches)
  cases c with
  | findFileNode f =>
      obtain ⟨-, rfl⟩ := h
      exact Nodes.Aside.refl _
  | makeShared node =>
      obtain ⟨-, e, rfl⟩ := h
      exact aside_makeShared
  | addFileNode node =>
      obtain ⟨-, rfl⟩ := h
      cases node with
      | none => exact hq.elim
      | some p => exact aside_addFileNode (howns p hq.1)
  | rename f g =>
      obtain ⟨-, rfl⟩ := h
      exact aside_rename (hside f hq.1) (hside g hq.2)
  | deleteFileNode f =>
      obtain ⟨-, rfl⟩ := h
      exact aside_deleteFileNode (hside f hq)
  | getDescriptor p =>
      obtain ⟨-, e, rfl⟩ := h
      exact Nodes.Aside.refl _
  | setDescriptor p sd stray =>
      obtain ⟨e, rfl⟩ := h
      exact aside_secure (howns p hq)
  | _ =>
      rw [(step_apart h hq).1]
      exact Nodes.Aside.refl _

/-- What the thread that moves has afterwards. -/
theorem Underway.Held.note (hheld : q.Held T w.nodes) (hq : q.Allows c) (hk : Nodes.Keeps T w.nodes w'.nodes)
    (h : step env os w c r w') : (q.note ⟨c, r⟩).Held T w'.nodes := by
  have hold := hheld.keeps hk
  cases c with
  | findFileNode f =>
      obtain ⟨hr, rfl⟩ := h
      cases r with
      | none => exact hold
      | some p =>
          intro p' f' hf'
          cases hf' with
          | head =>
              have hname := findFileNode_name hr.symm
              exact ⟨w'.nodes.allocated p (findFileNode_mem hr.symm), congrArg T hname, hq⟩
          | tail _ hf' => exact hold p' f' hf'
  | makeShared node =>
      obtain ⟨rfl, e, rfl⟩ := h
      intro p' f' hf'
      cases hf' with
      | head => exact ⟨Nat.lt_succ_self _, congrArg T makeShared_name_next, hq.1.mentions⟩
      | tail _ hf' => exact hold p' f' hf'
  | _ => exact hold

/-- **Alone.**  A call on nodes of the region can be made with the same answer in a store that agrees, and
leaves stores that agree. -/
theorem step_alone (hq : q.Allows c) (hheld : q.Held T w.nodes) (hT : ∀ f, q.action.Mentions f → T f = true)
    (hagree : Nodes.Agree T (q.found.map Prod.fst) w.nodes u.nodes) (herror : u.lastError = w.lastError)
    (hnext : ∀ node, c = .makeShared node → u.nodes.next = w.nodes.next) (h : step env os w c r w') :
    ∃ u', step env anything u c r u' ∧ u'.lastError = w'.lastError ∧
      Nodes.Agree T ((q.note ⟨c, r⟩).found.map Prod.fst) w'.nodes u'.nodes ∧
      ((q.note ⟨c, r⟩).made = false → u'.nodes.next = u.nodes.next) := by
  have hinside := hheld.inside hT
  have howns : ∀ p, q.Owns p → p ∈ q.found.map Prod.fst := by
    rintro p ⟨f, hf, -⟩
    exact List.mem_map.mpr ⟨_, hf, rfl⟩
  cases c with
  | findFileNode f =>
      obtain ⟨rfl, rfl⟩ := h
      refine ⟨u, ⟨hagree.findFileNode (hT f hq), rfl⟩, herror, ?_, fun _ => rfl⟩
      cases hfind : w'.nodes.findFileNode f with
      | none => exact hagree
      | some p => exact hagree.find hfind (hT f hq)
  | makeShared node =>
      obtain ⟨rfl, e, rfl⟩ := h
      have hsame := hnext node rfl
      refine ⟨{ u with lastError := e, nodes := u.nodes.makeShared node }, ⟨hsame.symm, e, rfl⟩, rfl, ?_, ?_⟩
      · exact hagree.makeShared hsame.symm fun p hp => (hinside p hp).1
      · intro hmade
        cases hmade
  | addFileNode node =>
      obtain ⟨rfl, rfl⟩ := h
      cases node with
      | none => exact hq.elim
      | some p =>
          have hp := howns p hq.1
          obtain ⟨hanswer, hafter⟩ := hagree.addFileNode hp (hinside p hp).2
          refine ⟨{ u with nodes := (u.nodes.addFileNode (some p)).2 }, ⟨hanswer, rfl⟩, herror, hafter, ?_⟩
          intro hmade
          cases hq.2.symm.trans hmade
  | rename f g =>
      obtain ⟨rfl, rfl⟩ := h
      obtain ⟨hanswer, hafter⟩ := hagree.rename (hT f hq.1.mentions) (hT g hq.2.mentions)
      refine ⟨{ u with nodes := (u.nodes.rename f g).2 }, ⟨hanswer, rfl⟩, herror, hafter, fun _ => ?_⟩
      exact rename_next
  | deleteFileNode f =>
      obtain ⟨rfl, rfl⟩ := h
      obtain ⟨hanswer, hafter⟩ := hagree.deleteFileNode (hT f hq.mentions)
      refine ⟨{ u with nodes := (u.nodes.deleteFileNode f).2 }, ⟨hanswer, rfl⟩, herror, hafter, fun _ => ?_⟩
      exact deleteFileNode_next
  | getDescriptor p =>
      obtain ⟨rfl, e, rfl⟩ := h
      obtain ⟨f, hf⟩ := hq
      have hsame := hagree.known p (List.mem_map.mpr ⟨_, hf, rfl⟩)
      exact ⟨{ u with lastError := e }, ⟨by rw [hsame], e, rfl⟩, rfl, hagree, fun _ => rfl⟩
  | setDescriptor p sd stray =>
      obtain ⟨e, rfl⟩ := h
      have hp := howns p hq
      refine ⟨{ u with lastError := e, nodes := u.nodes.setDescriptor env.convertSD p sd stray }, ⟨e, rfl⟩,
        rfl, ?_, fun _ => rfl⟩
      unfold Nodes.setDescriptor
      rw [← hagree.known p hp]
      exact hagree.secure hp
  | _ =>
      obtain ⟨hnodes, hanywhere⟩ := step_apart h hq
      obtain ⟨u', hstep, herror', hnodes'⟩ := hanywhere u herror
      refine ⟨u', hstep, herror', ?_, fun _ => by rw [hnodes']⟩
      rw [hnodes, hnodes', Underway.note_apart (by exact hq)]
      exact hagree

end

/-! ## All of them -/

/-- The first node that is made. -/
def firstMade : Trace → Option Ptr
  | [] => none
  | ⟨.makeShared _, p⟩ :: _ => some p
  | _ :: tr => firstMade tr

theorem note_action {q : Underway} {e : Event Call Answer} : (q.note e).action = q.action := by
  obtain ⟨c, r⟩ := e
  cases c with
  | findFileNode f =>
      cases r with
      | none => rfl
      | some p => rfl
  | _ => rfl

theorem step_made {O : Type} {env : Env} {os : O → (c : Win32Call) → Outcome c.Value → O → Prop}
    {w w' : World O} {e : Event Call Answer} {tr : Trace} {p : Ptr} (h : step env os w e.call e.answer w')
    (hp : firstMade (e :: tr) = some p) : p = w.nodes.next ∨ firstMade tr = some p := by
  obtain ⟨c, r⟩ := e
  cases c with
  | makeShared node =>
      cases hp
      exact .inl h.1
  | _ => exact .inr hp

theorem step_first {O : Type} {env : Env} {os : O → (c : Win32Call) → Outcome c.Value → O → Prop}
    {w w' : World O} {e : Event Call Answer} {tr : Trace} {node : Filenode}
    (h : step env os w e.call e.answer w') (hc : e.call = .makeShared node) :
    firstMade (e :: tr) = some w.nodes.next := by
  obtain ⟨c, r⟩ := e
  obtain rfl : c = .makeShared node := hc
  exact congrArg some h.1

/-- Where no node has been made yet, none was before. -/
theorem firstMade_note {q : Underway} {e : Event Call Answer} {tr : Trace} (h : (q.note e).made = false) :
    q.made = false ∧ firstMade (e :: tr) = firstMade tr := by
  obtain ⟨c, r⟩ := e
  cases c with
  | makeShared node => cases h
  | findFileNode f =>
      cases r with
      | none => exact ⟨h, rfl⟩
      | some p => exact ⟨h, rfl⟩
  | _ => exact ⟨h, rfl⟩

section

variable {O ι : Type} [DecidableEq ι] {env : Env} {os : O → (c : Win32Call) → Outcome c.Value → O → Prop}
  {T : WString → Bool} {a : ι → Action} {phase : ι → Underway} {i : ι} {e : Event Call Answer}
  {s s' : Pool Call Answer DWORD (World O) fun _ : ι => Unit} {errors : ι → DWORD} {w : World O}
  {run : List ((ι × Event Call Answer) × Pool Call Answer DWORD (World O) fun _ : ι => Unit)}

/-- Each thread keeps to the protocol with a call of its own, and the nodes it has are on one side. -/
structure Together (T : WString → Bool) (a : ι → Action) (phase : ι → Underway)
    (s : Pool Call Answer DWORD (World O) fun _ : ι => Unit) : Prop where
  follows : ∀ j, Follows Underway.Allows Underway.note (s.threads j).2 (phase j) fun _ _ => True
  action : ∀ j, (phase j).action = a j
  held : ∀ j, (phase j).Held T s.shared.nodes

/-- No call is given names on both sides. -/
def OneSided (T : WString → Bool) (a : ι → Action) : Prop :=
  ∀ j, ∃ side, ∀ f, (a j).Touches f → T f = side

theorem oneSided_of (hT : ∀ f, (a i).Mentions f → T f = true)
    (hothers : ∀ j, j ≠ i → ∀ f, (a j).Touches f → T f = false) : OneSided T a := by
  intro j
  by_cases hji : j = i
  · exact ⟨true, fun f hf => hT f (hji ▸ hf.mentions)⟩
  · exact ⟨false, hothers j hji⟩

omit [DecidableEq ι] in
theorem together_requests : Together T a (fun j => { action := a j }) (requests env a errors w) where
  follows j := follows_program (a j)
  action _ := rfl
  held _ _ _ hf := absurd hf List.not_mem_nil

theorem mountMachine_inv (h : (mountMachine env os).Step s (i, e) s') :
    ∃ l k, s.threads i = (l, .call e.call k) ∧
      step env os { s.shared with lastError := l } e.call e.answer s'.shared ∧
      s'.threads i = (s'.shared.lastError, k e.answer) ∧ ∀ j, j ≠ i → s'.threads j = s.threads j := h.inv

/-- **A step** of one of them. -/
theorem Together.move (ht : Together T a phase s) (hsides : OneSided T a)
    (h : (mountMachine env os).Step s (i, e) s') :
    Nodes.Keeps T s.shared.nodes s'.shared.nodes ∧
      Together T a (Function.update phase i ((phase i).note e)) s' := by
  obtain ⟨hallows, hfollows⟩ := h.follows (Q := fun _ => True) ht.follows
  obtain ⟨l, k, -, hstep, -, -⟩ := mountMachine_inv h
  obtain ⟨side, hside⟩ := hsides i
  rw [← ht.action i] at hside
  have hkeeps : Nodes.Keeps T s.shared.nodes s'.shared.nodes :=
    step_keeps (w := { s.shared with lastError := l }) hallows hside hstep
  refine ⟨hkeeps, hfollows, ?_, ?_⟩
  · intro j
    by_cases hji : j = i
    · rw [hji, Function.update_self, note_action]
      exact ht.action i
    · rw [Function.update_of_ne hji]
      exact ht.action j
  · intro j
    by_cases hji : j = i
    · rw [hji, Function.update_self]
      exact (ht.held i).note (w := { s.shared with lastError := l }) hallows hkeeps hstep
    · rw [Function.update_of_ne hji]
      exact (ht.held j).keeps hkeeps

/-- A step of a call that changes names on the other side. -/
theorem Together.outside (ht : Together T a phase s) (hi : ∀ f, (a i).Touches f → T f = false)
    (h : (mountMachine env os).Step s (i, e) s') : Nodes.Aside T s.shared.nodes s'.shared.nodes := by
  obtain ⟨hallows, -⟩ := h.follows (Q := fun _ => True) ht.follows
  obtain ⟨l, k, -, hstep, -, -⟩ := mountMachine_inv h
  rw [← ht.action i] at hi
  exact step_outside (w := { s.shared with lastError := l }) hallows (ht.held i) hi hstep

/-- A run of calls that all change names on the other side. -/
theorem Together.aside (ht : Together T a phase s) (hall : ∀ j f, (a j).Touches f → T f = false)
    (h : History.Path (mountMachine env os).Step s run) :
    Nodes.Aside T s.shared.nodes (History.final s run).shared.nodes := by
  induction h generalizing phase with
  | nil => exact Nodes.Aside.refl _
  | cons hm _ ih =>
      have hnext := (ht.move (fun j => ⟨false, hall j⟩) hm).2
      exact (ht.outside (hall _) hm).trans (ih hnext)

/-- **Names that are left alone.**  However many calls run side by side and however they come between each
other, a name that none of them is given to change keeps its node. -/
theorem sideBySide_keeps {F : WString} (hF : ∀ j, ¬ (a j).Touches F)
    (h : History.Path (mountMachine env os).Step (requests env a errors w) run) :
    (History.final (requests env a errors w) run).shared.nodes.node F = w.nodes.node F := by
  have htogether : Together (fun f => decide (f = F)) a (fun j => { action := a j })
      (requests env a errors w) := together_requests
  have haside := htogether.aside (fun j f hf => decide_eq_false fun hfF => hF j (hfF ▸ hf)) h
  exact haside.node (decide_eq_true rfl)

/-- The nodes that are made are new. -/
theorem Together.firstMade_le (ht : Together T a phase s) (hsides : OneSided T a) {p : Ptr}
    (h : History.Path (mountMachine env os).Step s run) (hp : firstMade (ownCalls i run) = some p) :
    s.shared.nodes.next ≤ p := by
  induction h generalizing phase with
  | nil => cases hp
  | @cons s s' l rest hm _ ih =>
      obtain ⟨j, e⟩ := l
      obtain ⟨hkeeps, hnext⟩ := ht.move hsides hm
      have hlater : firstMade (ownCalls i rest) = some p → s.shared.nodes.next ≤ p :=
        fun hrest => Nat.le_trans hkeeps.next (ih hnext hrest)
      by_cases hji : j = i
      · obtain ⟨l, k, -, hstep, -, -⟩ := mountMachine_inv hm
        rw [Machine.ownCalls_self hji] at hp
        rcases step_made hstep hp with rfl | hrest
        · exact Nat.le_refl _
        · exact hlater hrest
      · rw [Machine.ownCalls_of_ne hji] at hp
        exact hlater hp

/-- How a world in which thread `i` is alone goes with the pool: the region is the same, and the first node
it will make is the one it makes in the pool. -/
structure Matched (T : WString → Bool) (a : ι → Action) (i : ι) (phase : ι → Underway) (tr : Trace)
    (s : Pool Call Answer DWORD (World O) fun _ : ι => Unit) (u : World Unit) : Prop where
  together : Together T a phase s
  agree : Nodes.Agree T ((phase i).found.map Prod.fst) s.shared.nodes u.nodes
  lastError : u.lastError = (s.threads i).1
  made : (phase i).made = false → ∀ p, firstMade tr = some p → u.nodes.next = p

/-- A step of the thread itself. -/
theorem Matched.own {tr : Trace} {u : World Unit} (hu : Matched T a i phase (e :: tr) s u)
    (hsides : OneSided T a) (hT : ∀ f, (a i).Mentions f → T f = true)
    (h : (mountMachine env os).Step s (i, e) s') :
    ∃ u', step env anything u e.call e.answer u' ∧
      Matched T a i (Function.update phase i ((phase i).note e)) tr s' u' := by
  obtain ⟨-, hnext⟩ := hu.together.move hsides h
  obtain ⟨hallows, -⟩ := h.follows (Q := fun _ => True) hu.together.follows
  obtain ⟨l, k, hi, hstep, hself, -⟩ := mountMachine_inv h
  rw [← hu.together.action i] at hT
  have herror : u.lastError = l := by
    rw [hu.lastError, hi]
  have hfirst : ∀ node, e.call = .makeShared node → u.nodes.next = s.shared.nodes.next := by
    intro node hnode
    rw [hnode] at hallows
    exact hu.made hallows.2 _ (step_first (w := { s.shared with lastError := l }) hstep hnode)
  obtain ⟨u', hstep', herror', hagree', hnext'⟩ := step_alone (w := { s.shared with lastError := l })
    hallows (hu.together.held i) hT hu.agree herror hfirst hstep
  refine ⟨u', hstep', hnext, ?_, ?_, ?_⟩
  · rw [Function.update_self]
    exact hagree'
  · rw [hself]
    exact herror'
  · rw [Function.update_self]
    intro hnote p hp
    obtain ⟨hbefore, hsame⟩ := firstMade_note hnote
    rw [hnext' hnote]
    exact hu.made hbefore p (hsame.trans hp)

/-- A step of another. -/
theorem Matched.other {tr : Trace} {u : World Unit} {j : ι} (hu : Matched T a i phase tr s u)
    (hsides : OneSided T a) (hT : ∀ f, (a i).Mentions f → T f = true)
    (hj : ∀ f, (a j).Touches f → T f = false) (hji : j ≠ i)
    (h : (mountMachine env os).Step s (j, e) s') :
    Matched T a i (Function.update phase j ((phase j).note e)) tr s' u := by
  obtain ⟨-, hnext⟩ := hu.together.move hsides h
  obtain ⟨l, k, -, -, -, hother⟩ := mountMachine_inv h
  have hphase : Function.update phase j ((phase j).note e) i = phase i :=
    Function.update_of_ne (Ne.symm hji) ..
  rw [← hu.together.action i] at hT
  refine ⟨hnext, ?_, ?_, ?_⟩
  · rw [hphase]
    exact hu.agree.aside (hu.together.outside hj h) ((hu.together.held i).inside hT)
  · rw [hother i (Ne.symm hji)]
    exact hu.lastError
  · rw [hphase]
    exact hu.made

/-- The store with the next node at `p`. -/
def Nodes.from (n : Nodes) (p : Ptr) (hp : n.next ≤ p) : Nodes :=
  { n with next := p, allocated := fun q hq => Nat.lt_of_lt_of_le (n.allocated q hq) hp }

/-- A thread whose names nobody else changes, alone in a store with the nodes the list had at first. -/
theorem exists_alone (hothers : ∀ j, j ≠ i → ∀ F, (a i).Mentions F → ¬ (a j).Touches F)
    (h : History.Path (mountMachine env os).Step (requests env a errors w) run)
    (hdone : ((History.final (requests env a errors w) run).threads i).2 = .done ()) :
    ∃ w₀ w' : World Unit, Nodes.Same w.nodes w₀.nodes ∧ Acts env anything w₀ (a i, ownCalls i run) w' ∧
      Nodes.Agree (fun F => decide ((a i).Mentions F)) []
        (History.final (requests env a errors w) run).shared.nodes w'.nodes := by
  have hinside : ∀ f, (a i).Mentions f → decide ((a i).Mentions f) = true := fun f hf => decide_eq_true hf
  have houtside : ∀ j, j ≠ i → ∀ f, (a j).Touches f → decide ((a i).Mentions f) = false :=
    fun j hji f hf => decide_eq_false fun hmentions => hothers j hji f hmentions hf
  have htogether : Together (fun F => decide ((a i).Mentions F)) a (fun j => { action := a j })
      (requests env a errors w) := together_requests
  have hsides := oneSided_of hinside houtside
  -- the node it makes, if it makes one
  obtain ⟨p, hp, hfirst⟩ : ∃ p, w.nodes.next ≤ p ∧ ∀ p', firstMade (ownCalls i run) = some p' → p = p' := by
    cases hmade : firstMade (ownCalls i run) with
    | none => exact ⟨_, Nat.le_refl _, fun p' hp' => by cases hp'⟩
    | some p =>
        refine ⟨p, htogether.firstMade_le hsides h hmade, ?_⟩
        rintro p' ⟨⟩
        rfl
  have hstart : Matched (fun F => decide ((a i).Mentions F)) a i (fun j => { action := a j }) (ownCalls i run)
      (requests env a errors w)
      { lastError := errors i, nodes := w.nodes.from p hp, writeCounts := w.writeCounts, os := () } :=
    ⟨htogether, ⟨rfl, fun _ _ => rfl, fun _ _ => rfl⟩, rfl, fun _ => hfirst⟩
  have halone := Machine.exists_run_alone (M := step env anything)
    (fun tr s u => ∃ phase, Matched (fun F => decide ((a i).Mentions F)) a i phase tr s u) ?_ ?_ h
    ⟨_, hstart⟩ hdone
  · obtain ⟨w', hrun, phase, hend⟩ := halone
    exact ⟨_, w', ⟨rfl, fun _ _ => rfl⟩, hrun, hend.agree.within, hend.agree.listed,
      fun p hp => absurd hp List.not_mem_nil⟩
  · rintro s e s' tr u hm ⟨phase, hu⟩
    obtain ⟨u', hcall, hu'⟩ := hu.own hsides hinside hm
    exact ⟨u', hcall, _, hu'⟩
  · rintro s j e s' tr u hji hm ⟨phase, hu⟩
    exact ⟨_, hu.other hsides hinside (houtside j hji) hji hm⟩

/-- **Calls that do not meet.**  Where no other call is given a name of its own to change, a call that has
returned was answered what it is answered alone, and its names have the nodes they have then. -/
theorem sideBySide_alone (hothers : ∀ j, j ≠ i → ∀ F, (a i).Mentions F → ¬ (a j).Touches F)
    (h : History.Path (mountMachine env os).Step (requests env a errors w) run)
    (hdone : ((History.final (requests env a errors w) run).threads i).2 = .done ()) :
    ∃ w₀ w' : World Unit, Nodes.Same w.nodes w₀.nodes ∧ Acts env anything w₀ (a i, ownCalls i run) w' ∧
      ∀ F, (a i).Mentions F →
        (History.final (requests env a errors w) run).shared.nodes.node F = w'.nodes.node F := by
  obtain ⟨w₀, w', hsame, hacts, hagree⟩ := exists_alone hothers h hdone
  exact ⟨w₀, w', hsame, hacts, fun F hF => hagree.node (decide_eq_true hF)⟩

/-- **Reading beside others.**  The security of a file that no other call is given to change is read as it
was at first, whatever is done to the other files meanwhile. -/
theorem sideBySide_reads {fileName : WString} {parts bufferLength unset : DWORD}
    (hi : a i = .getSecurity fileName parts bufferLength unset) (hothers : ∀ j, ¬ (a j).Touches fileName)
    (h : History.Path (mountMachine env os).Step (requests env a errors w) run)
    (hdone : ((History.final (requests env a errors w) run).threads i).2 = .done ()) :
    descriptorRead (ownCalls i run) = some (env.readSD w.nodes fileName) := by
  have hmentions : ∀ j, j ≠ i → ∀ F, (a i).Mentions F → ¬ (a j).Touches F := by
    intro j _ F hF
    rw [hi] at hF
    obtain rfl : fileName = F := hF
    exact hothers j
  obtain ⟨w₀, w', hsame, hacts, -⟩ := exists_alone hmentions h hdone
  rw [hi] at hacts
  obtain ⟨res, hrun⟩ := run_ignore.mp hacts
  rw [run_getFileSecurity hrun]
  exact congrArg some (readSD_congr hsame.node)

end

/-! ## Two calls that take turns -/

/-- A platform that merges, and refuses all else. -/
def merging : Script where
  outcome _ c :=
    match c with
    | .setPrivateObjectSecurity parts modification current =>
        .ok ((Env.plain false).merge parts modification current) 0
    | _ => .fail ⟨50, by decide⟩
  keeps _ := true
  left _ e := e
  memory _ _ := 0

theorem merging_allowed : merging.Allowed (.plain false) := by
  intro k c
  cases c with
  | setPrivateObjectSecurity parts modification current => rfl
  | _ => trivial

/-- What a call is answered. -/
def respond (w : World Unit) (c : Call) : Option (Answer c × World Unit) :=
  (merging.resolve (.plain false) quiet { world := w } c).map fun x => (x.1, x.2.world)

theorem respond_answers (w : World Unit) (c : Call) (r : Answer c) (w' : World Unit)
    (h : respond w c = some (r, w')) : (mountMachine (.plain false) anything).answers w c r w' := by
  obtain ⟨⟨r, t⟩, hresolve, ⟨⟩⟩ := Option.map_eq_some_iff.mp h
  have hstep : step ((Env.plain false).debugging false) anything w c r t.world :=
    resolve_step merging_allowed hresolve
  exact hstep

/-- Two calls, one operation of each at a time. -/
def takingTurns (a : Bool → Action) (w : World Unit) :
    List ((Bool × Event Call Answer) × Pool Call Answer DWORD (World Unit) fun _ : Bool => Unit) :=
  (mountMachine (.plain false) anything).play respond (requests (.plain false) a (fun _ => 0) w)
    (List.replicate 20 [true, false]).flatten

theorem path_takingTurns {a : Bool → Action} {w : World Unit} :
    History.Path (mountMachine (.plain false) anything).Step (requests (.plain false) a (fun _ => 0) w)
      (takingTurns a w) := Machine.path_play respond_answers

/-- The security of `\a` and of `\b` is set. -/
def setBoth : Bool → Action
  | true => .setSecurity (wide ['\\', 'a']) (.plain DACL_SECURITY_INFORMATION (.tag 1))
  | false => .setSecurity (wide ['\\', 'b']) (.plain DACL_SECURITY_INFORMATION (.tag 2))

/-- The security of `\a` is read while that of `\b` is set. -/
def readAndSet : Bool → Action
  | true => .getSecurity (wide ['\\', 'a']) DACL_SECURITY_INFORMATION 64 0
  | false => .setSecurity (wide ['\\', 'b']) (.plain DACL_SECURITY_INFORMATION (.tag 2))

/-- A store in which `\c` has a node. -/
def onlyC : World Unit :=
  World.start (Nodes.none.enter { fileName := wide ['\\', 'c'], isDirectory := false, attributes := 0 })

/-- `\c` keeps its node while the security of `\a` and of `\b` is set. -/
theorem sideBySide_keeps_both :
    (History.final (requests (.plain false) setBoth (fun _ => 0) onlyC)
        (takingTurns setBoth onlyC)).shared.nodes.node (wide ['\\', 'c']) =
      some { fileName := wide ['\\', 'c'], isDirectory := false, attributes := 0 } := by
  refine (sideBySide_keeps (F := wide ['\\', 'c']) ?_ path_takingTurns).trans (by decide)
  intro j
  cases j with
  | true => decide
  | false => decide

/-- Beside the setting of `\b`, that of `\a` does what it does alone. -/
theorem sideBySide_alone_both :
    ∃ w₀ w' : World Unit, Nodes.Same (World.start .none).nodes w₀.nodes ∧
      Acts (.plain false) anything w₀
        (setBoth true, ownCalls true (takingTurns setBoth (World.start .none))) w' ∧
      ∀ F, (setBoth true).Mentions F →
        (History.final (requests (.plain false) setBoth (fun _ => 0) (World.start .none))
          (takingTurns setBoth (World.start .none))).shared.nodes.node F = w'.nodes.node F := by
  refine sideBySide_alone ?_ path_takingTurns rfl
  intro j hj F hF hsets
  obtain rfl : j = false := (Bool.not_eq_true j).mp hj
  have ha : wide ['\\', 'a'] = F := hF
  have hb : wide ['\\', 'b'] = F := hsets
  exact absurd (ha.trans hb.symm) (by decide)

/-- `\a` has no node, and the default is read of it. -/
theorem sideBySide_reads_default :
    descriptorRead (ownCalls true (takingTurns readAndSet onlyC)) = some (.tag 0) := by
  refine sideBySide_reads (i := true) (a := readAndSet) rfl ?_ path_takingTurns rfl
  intro j
  cases j with
  | true => decide
  | false => decide

end SeamlessSmb
