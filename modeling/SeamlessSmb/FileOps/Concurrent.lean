/-
# `FileOps.Concurrent` — two settings of the security of one file at once

Dokan runs callbacks on several threads.  `MirrorSetFileSecurity` holds the lock of
the store only while it looks the file up, and again while it adds a node; in between
another thread may run.  So a call is two blocks (`setBlocks`): up to the lookup, and
the branch the lookup chose.  Each thread has a last error of its own.

What two such calls do to the file's descriptor is the check-then-act protocol of
`Lib.Interleave`: the cell is the descriptor stored under the name, empty while the
file has no node.

**Proved here:** the blocks make up the callback (`setBlocks_flatten`), every
interleaving follows the protocol (`interleaved_runs`), and it ends as one call after
the other would exactly when the file had a node, the calls did not overlap, or the
lost update would have changed nothing (`concurrent_set_iff`).
-/
import SeamlessSmb.Lib.Interleave
import SeamlessSmb.FileOps.Security

namespace SeamlessSmb

open Calls CheckThenAct

/-! ## The callback in blocks -/

/-- `MirrorSetFileSecurity` up to the lookup: a status it returns before, or the node
found. -/
def setLookup (env : Env) (fileName : WString) (r : SetCall) : Op (NTSTATUS ⊕ Option Ptr) := do
  let filePath ← filePathOf env.globals fileName
  print "SetFileSecurity %s\n" [.str filePath]
  if r.info.context = 0 ∨ r.info.context = INVALID_HANDLE_VALUE then do
    print "\tinvalid handle\n\n"
    pure (.inl STATUS_INVALID_HANDLE)
  else do
    checkFlags r.parts securityFlags
    let f ← Prog.perform (Call.findFileNode fileName)
    pure (.inr f)

/-- What is left of the call after the lookup. -/
def setAfter (env : Env) (fileName : WString) (r : SetCall) :
    NTSTATUS ⊕ Option Ptr → Blocks Call Answer NTSTATUS
  | .inl status => .done status
  | .inr f => .block (setFound env r.stat r.stray fileName r.parts r.securityDescriptor r.info f) .done

/-- `MirrorSetFileSecurity` in blocks. -/
def setBlocks (env : Env) (fileName : WString) (r : SetCall) : Blocks Call Answer NTSTATUS :=
  .block (setLookup env fileName r) (setAfter env fileName r)

theorem bind_done {α : Type} (p : Op α) : p.bind .done = p := by
  induction p with
  | done a => rfl
  | call c k ih => exact congrArg (Prog.call c) (funext ih)

/-- The blocks make up the callback. -/
theorem setBlocks_flatten {env : Env} {fileName : WString} {r : SetCall} :
    (setBlocks env fileName r).flatten =
      mirrorSetFileSecurity env r.stat r.stray fileName r.parts r.securityDescriptor r.info := by
  show (setLookup env fileName r).bind (fun x => (setAfter env fileName r x).flatten) = _
  unfold setLookup mirrorSetFileSecurity
  simp only [Prog.bind_eq, Prog.bind_assoc]
  congr 1
  funext filePath
  congr 1
  funext _
  split
  · rfl
  · simp only [Prog.bind_assoc]
    congr 1
    funext _
    congr 1
    funext f
    exact bind_done _

/-! ## The protocol -/

/-- The descriptor stored under a name: empty while there is no node. -/
def descriptorCell (n : Nodes) (fileName : WString) : Option (Option SecurityDescriptor) :=
  (n.node fileName).map fun f => f.security.descriptor

theorem descriptorCell_isSome {n : Nodes} {fileName : WString} :
    (descriptorCell n fileName).isSome = (n.findFileNode fileName).isSome := by
  rw [descriptorCell, Option.isSome_map, Nodes.node_isSome]

/-- What a call does to the cell when its merge succeeds. -/
def SetCall.cell (env : Env) (r : SetCall) : CheckThenAct.Call (Option SecurityDescriptor) where
  fresh := some (env.merge r.parts r.securityDescriptor env.defaultSD)
  onto d :=
    if r.stat ≠ ERROR_SUCCESS then d
    else some (env.merge r.parts r.securityDescriptor (d.getD env.defaultSD))

theorem SetCall.onto_refused {env : Env} {r : SetCall} {d : Option SecurityDescriptor}
    (h : r.stat ≠ ERROR_SUCCESS) : (r.cell env).onto d = d := if_pos h

theorem SetCall.onto_stored {env : Env} {r : SetCall} {d : Option SecurityDescriptor}
    (h : ¬ r.stat ≠ ERROR_SUCCESS) :
    (r.cell env).onto d = some (env.merge r.parts r.securityDescriptor (d.getD env.defaultSD)) :=
  if_neg h

section

variable {env : Env} {fileName : WString} {r : SetCall} {w w' : World Unit} {tr : Trace}
  {status : NTSTATUS} {p : Ptr}

theorem run_setLookup {x : NTSTATUS ⊕ Option Ptr} (hopen : r.Open)
    (h : Run (step env (mergesAs none)) (setLookup env fileName r) w tr x w') :
    x = .inr (w.nodes.findFileNode fileName) ∧ w'.nodes = w.nodes := by
  have hsat : Sat (step env (mergesAs none)) (setLookup env fileName r) w
      (fun _ x w' => x = .inr (w.nodes.findFileNode fileName) ∧ w'.nodes = w.nodes) := by
    refine sat_filePathOf_bind fun path _ => ?_
    refine sat_silent_bind (onlyCalls_perform.mpr trivial) fun _ _ w₂ _ h₂ => ?_
    rw [if_neg hopen]
    refine sat_silent_bind silent_checkFlags fun _ _ w₃ _ h₃ => ?_
    have hw₃ : w₃.nodes = w.nodes := h₃.trans h₂
    rw [sat_bind, sat_perform]
    intro f w₄ ⟨hf, hw₄⟩
    rw [sat_pure, hf, hw₄, hw₃]
    exact ⟨rfl, rfl⟩
  exact hsat tr x w' h

/-- Acting on a file that had a node. -/
theorem run_setExisting (hp : w.nodes.findFileNode fileName = some p)
    (h : Run (step env (mergesAs none))
      (setExisting env r.stat r.stray r.parts r.securityDescriptor p) w tr status w') :
    w'.nodes.findFileNode fileName = some p ∧
      descriptorCell w'.nodes fileName = (r.cell env).act true (descriptorCell w.nodes fileName) := by
  obtain ⟨out, hout, -, hend⟩ := sat_setExisting tr status w' h
  obtain ⟨e, rfl⟩ := merged_success hout
  have hcell : descriptorCell w.nodes fileName = some (w.nodes.heap p).security.descriptor := by
    rw [descriptorCell, Nodes.node, hp]
    rfl
  split at hend
  · next hstat =>
      obtain ⟨-, hnodes⟩ := hend
      rw [hnodes, hcell]
      exact ⟨hp, congrArg some (SetCall.onto_refused hstat).symm⟩
  · next hstat =>
      obtain ⟨-, hnodes⟩ := hend
      rw [hnodes, Nodes.setDescriptor]
      refine ⟨Nodes.secure_findFileNode.trans hp, ?_⟩
      rw [hcell, descriptorCell, Nodes.node_secure hp, Function.update_self]
      exact congrArg some (SetCall.onto_stored hstat).symm

/-- Acting on a file that had none. -/
theorem run_setNew
    (h : Run (step env (mergesAs none))
      (setNew env r.stat r.stray fileName r.parts r.securityDescriptor r.info) w tr status w') :
    status = STATUS_SUCCESS ∧
      (∀ q, w.nodes.findFileNode fileName = some q → w'.nodes.findFileNode fileName = some q) ∧
      descriptorCell w'.nodes fileName = (r.cell env).act false (descriptorCell w.nodes fileName) := by
  obtain ⟨out, hout, -, hend⟩ := sat_setNew tr status w' h
  obtain ⟨e, rfl⟩ := merged_success hout
  obtain ⟨hstatus, hnodes⟩ := hend
  refine ⟨hstatus, ?_⟩
  rw [hnodes]
  cases hf : w.nodes.findFileNode fileName with
  | none =>
      refine ⟨fun q hq => absurd hq (Option.some_ne_none q).symm, ?_⟩
      have hmap : (w.nodes.enter (securedNode env r.stray fileName r.info
          (env.merge r.parts r.securityDescriptor env.defaultSD))).node =
          Function.update w.nodes.node fileName (some (securedNode env r.stray fileName r.info
            (env.merge r.parts r.securityDescriptor env.defaultSD))) := Nodes.node_enter hf
      rw [descriptorCell, hmap, Function.update_self, descriptorCell, Nodes.node_eq_none.mpr hf]
      rfl
  | some q =>
      have hin : (w.nodes.findFileNode fileName).isSome := by
        rw [hf]
        rfl
      have hsame : Nodes.Same w.nodes (w.nodes.enter (securedNode env r.stray fileName r.info
          (env.merge r.parts r.securityDescriptor env.defaultSD))) := Nodes.enter_of_some hin
      refine ⟨fun q' hq' => (hsame.findFileNode.trans hf).trans hq', ?_⟩
      rw [descriptorCell, hsame.node, descriptorCell, Nodes.node, hf]
      rfl

/-! ## Every interleaving follows the protocol -/

/-- How far a call is, in a store `n`. -/
inductive Stands (env : Env) (fileName : WString) (r : SetCall) (n : Nodes) :
    Blocks Call Answer NTSTATUS → Phase → Prop
  | look : Stands env fileName r n (.block (setLookup env fileName r) (setAfter env fileName r)) .look
  | actNew :
      Stands env fileName r n
        (.block (setNew env r.stat r.stray fileName r.parts r.securityDescriptor r.info) .done) (.act false)
  | actExisting {p : Ptr} : n.findFileNode fileName = some p →
      Stands env fileName r n
        (.block (setExisting env r.stat r.stray r.parts r.securityDescriptor p) .done) (.act true)
  | done {saw : Bool} {status : NTSTATUS} : Printable env r.parts r.securityDescriptor saw →
      (saw = false → status = STATUS_SUCCESS) → Stands env fileName r n (.done status) (.done saw)

/-- A node found before is still the one found. -/
def StillFound (fileName : WString) (n n' : Nodes) : Prop :=
  ∀ q, n.findFileNode fileName = some q → n'.findFileNode fileName = some q

theorem Stands.still {n n' : Nodes} {b : Blocks Call Answer NTSTATUS} {ph : Phase}
    (h : Stands env fileName r n b ph) (hn : StillFound fileName n n') :
    Stands env fileName r n' b ph := by
  cases h with
  | look => exact .look
  | actNew => exact .actNew
  | actExisting hp => exact .actExisting (hn _ hp)
  | done hprint hs => exact .done hprint hs

/-- A block of a call is a step of the protocol. -/
theorem stands_step {β : Type} {b : Op β} {k : β → Blocks Call Answer NTSTATUS} {x : β} {ph : Phase}
    (hopen : r.Open) (hrun : Run (step env (mergesAs none)) b w tr x w')
    (h : Stands env fileName r w.nodes (.block b k) ph) :
    StillFound fileName w.nodes w'.nodes ∧
      ∃ ph', Step (r.cell env) ph (descriptorCell w.nodes fileName) ph'
          (descriptorCell w'.nodes fileName) ∧
        Stands env fileName r w'.nodes (k x) ph' := by
  cases h with
  | look =>
      obtain ⟨rfl, hnodes⟩ := run_setLookup hopen hrun
      rw [hnodes]
      refine ⟨fun _ h => h, _, .look, ?_⟩
      rw [descriptorCell_isSome]
      cases hf : w.nodes.findFileNode fileName with
      | none => exact .actNew
      | some p => exact .actExisting hf
  | actNew =>
      obtain ⟨hstatus, hstill, hcell⟩ := run_setNew hrun
      rw [hcell]
      exact ⟨hstill, _, .act, .done (Printable.of_new hrun) fun _ => hstatus⟩
  | actExisting hp =>
      obtain ⟨hp', hcell⟩ := run_setExisting hp hrun
      rw [hcell]
      refine ⟨fun q hq => ?_, _, .act, .done (Printable.of_existing hrun) Bool.noConfusion⟩
      rw [hp', ← hp, hq]

/-- Two calls on the mount, every merge succeeding.  A thread's own state is its last
error. -/
def Interleaving (env : Env) :
    Thread Call Answer DWORD NTSTATUS → Thread Call Answer DWORD NTSTATUS → World Unit →
    List Side → NTSTATUS × NTSTATUS → World Unit → Prop :=
  Interleaved (step env (mergesAs none)) (fun error w => { w with lastError := error })
    World.lastError

/-- **Simulation.**  Two calls, each some way through, run on as the protocol does; a
call that saw no node succeeds, and each has printed what goes with what it saw. -/
theorem interleaved_runs {r₁ r₂ : SetCall} {t₁ t₂ : Thread Call Answer DWORD NTSTATUS}
    {sched : List Side} {st : NTSTATUS × NTSTATUS} {ph₁ ph₂ : Phase} (hopen₁ : r₁.Open)
    (hopen₂ : r₂.Open) (h : Interleaving env t₁ t₂ w sched st w')
    (h₁ : Stands env fileName r₁ w.nodes t₁.blocks ph₁)
    (h₂ : Stands env fileName r₂ w.nodes t₂.blocks ph₂) :
    ∃ a b, Runs (r₁.cell env) (r₂.cell env) ph₁ ph₂ (descriptorCell w.nodes fileName) sched a b
        (descriptorCell w'.nodes fileName) ∧
      (a = false → st.1 = STATUS_SUCCESS) ∧ (b = false → st.2 = STATUS_SUCCESS) ∧
      Printable env r₁.parts r₁.securityDescriptor a ∧
      Printable env r₂.parts r₂.securityDescriptor b := by
  unfold Interleaving at h
  induction h generalizing ph₁ ph₂ with
  | done =>
      cases h₁ with
      | done hprint₁ hs₁ =>
          cases h₂ with
          | done hprint₂ hs₂ => exact ⟨_, _, .done, hs₁, hs₂, hprint₁, hprint₂⟩
  | left hrun _ ih =>
      have ⟨hstill, ph', hstep, hstands⟩ := stands_step hopen₁ hrun h₁
      obtain ⟨a, b, hruns, hst⟩ := ih hstands (h₂.still hstill)
      exact ⟨a, b, .left hstep hruns, hst⟩
  | right hrun _ ih =>
      have ⟨hstill, ph', hstep, hstands⟩ := stands_step hopen₂ hrun h₂
      obtain ⟨a, b, hruns, hst⟩ := ih (h₁.still hstill) hstands
      exact ⟨a, b, .right hstep hruns, hst⟩

/-! ## One call after the other -/

/-- A call that runs undisturbed to its end. -/
theorem Stands.flatten {b : Blocks Call Answer NTSTATUS} {ph : Phase} (hopen : r.Open)
    (h : Stands env fileName r w.nodes b ph)
    (hrun : Run (step env (mergesAs none)) b.flatten w tr status w') :
    descriptorCell w'.nodes fileName =
      (r.cell env).finish ph (descriptorCell w.nodes fileName) := by
  induction b generalizing w tr ph with
  | done a =>
      obtain ⟨-, -, rfl⟩ := run_done.mp hrun
      cases h with
      | done _ _ => rfl
  | block p k ih =>
      obtain ⟨tr₁, x, w₁, tr₂, -, hp, hk⟩ := run_bind.mp hrun
      have ⟨_, ph', hstep, hstands⟩ := stands_step hopen hp h
      exact (ih x hstands hk).trans hstep.finish

theorem run_set_cell (hopen : r.Open)
    (h : Run (step env (mergesAs none))
      (mirrorSetFileSecurity env r.stat r.stray fileName r.parts r.securityDescriptor r.info) w tr status w') :
    descriptorCell w'.nodes fileName = (r.cell env).alone (descriptorCell w.nodes fileName) :=
  Stands.flatten hopen .look (by rw [← setBlocks_flatten] at h; exact h)

/-- `d` is what the file's descriptor may be after `r₁` and then `r₂`. -/
def SequentialEnd (env : Env) (fileName : WString) (r₁ r₂ : SetCall) (w : World Unit)
    (d : Option (Option SecurityDescriptor)) : Prop :=
  ∃ tr₁ status₁ w₁ tr₂ status₂ w₂,
    Run (step env (mergesAs none)) (mirrorSetFileSecurity env r₁.stat r₁.stray fileName r₁.parts
      r₁.securityDescriptor r₁.info) w tr₁ status₁ w₁ ∧
    Run (step env (mergesAs none)) (mirrorSetFileSecurity env r₂.stat r₂.stray fileName r₂.parts
      r₂.securityDescriptor r₂.info) w₁ tr₂ status₂ w₂ ∧
    d = descriptorCell w₂.nodes fileName

theorem SequentialEnd.eq {r₁ r₂ : SetCall} {d : Option (Option SecurityDescriptor)}
    (hopen₁ : r₁.Open) (hopen₂ : r₂.Open) (h : SequentialEnd env fileName r₁ r₂ w d) :
    d = (r₂.cell env).alone ((r₁.cell env).alone (descriptorCell w.nodes fileName)) := by
  obtain ⟨_, _, w₁, _, _, w₂, hrun₁, hrun₂, hd⟩ := h
  rw [hd, run_set_cell hopen₂ hrun₂, run_set_cell hopen₁ hrun₁]

/-- One call after the other can be made, if what the first prints can be printed; the
second finds a node. -/
theorem exists_sequentialEnd {r₁ r₂ : SetCall} {d : Option (Option SecurityDescriptor)}
    (hfits : (getFilePath env.globals DOKAN_MAX_PATH fileName).isSome) (hopen₁ : r₁.Open)
    (hopen₂ : r₂.Open)
    (hprint₁ : Printable env r₁.parts r₁.securityDescriptor (descriptorCell w.nodes fileName).isSome)
    (hprint₂ : env.printable (some r₂.securityDescriptor) = true)
    (hd : d = (r₂.cell env).alone ((r₁.cell env).alone (descriptorCell w.nodes fileName))) :
    SequentialEnd env fileName r₁ r₂ w d := by
  rw [descriptorCell_isSome] at hprint₁
  obtain ⟨tr₁, status₁, w₁, hrun₁⟩ := exists_run_set hfits hopen₁ hprint₁
  have hcell := run_set_cell hopen₁ hrun₁
  have hfound : (w₁.nodes.findFileNode fileName).isSome = true := by
    rw [← descriptorCell_isSome, hcell]
    exact Call.alone_isSome
  have hsecond : Printable env r₂.parts r₂.securityDescriptor (w₁.nodes.findFileNode fileName).isSome :=
    ⟨hprint₂, fun hnone => absurd (hnone.symm.trans hfound) Bool.false_ne_true⟩
  obtain ⟨tr₂, status₂, w₂, hrun₂⟩ := exists_run_set hfits hopen₂ hsecond
  refine ⟨tr₁, status₁, w₁, tr₂, status₂, w₂, hrun₁, hrun₂, ?_⟩
  rw [hd, run_set_cell hopen₂ hrun₂, hcell]

/-! ## Calls without a handle, names without a path -/

/-- A call without a handle, before it looks and after it is refused. -/
inductive Refused (env : Env) (fileName : WString) (r : SetCall) : Blocks Call Answer NTSTATUS → Prop
  | look : Refused env fileName r (.block (setLookup env fileName r) (setAfter env fileName r))
  | done : Refused env fileName r (.done STATUS_INVALID_HANDLE)

theorem run_setLookup_closed {x : NTSTATUS ⊕ Option Ptr} (hclosed : ¬ r.Open)
    (h : Run (step env (mergesAs none)) (setLookup env fileName r) w tr x w') :
    x = .inl STATUS_INVALID_HANDLE := by
  have hsat : Sat (step env (mergesAs none)) (setLookup env fileName r) w
      (fun _ x _ => x = .inl STATUS_INVALID_HANDLE) := by
    refine sat_filePathOf_bind fun path _ => ?_
    refine sat_silent_bind (onlyCalls_perform.mpr trivial) fun _ _ w₂ _ _ => ?_
    rw [if_pos (not_not.mp hclosed)]
    refine sat_silent_bind (onlyCalls_perform.mpr trivial) fun _ _ w₃ _ _ => ?_
    exact sat_pure.mpr rfl
  exact hsat tr x w' h

/-- A call without a handle is refused, whatever the other does. -/
theorem interleaved_refused {t₁ t₂ : Thread Call Answer DWORD NTSTATUS} {sched : List Side}
    {st : NTSTATUS × NTSTATUS} (hclosed : ¬ r.Open) (h : Interleaving env t₁ t₂ w sched st w')
    (h₁ : Refused env fileName r t₁.blocks) : st.1 = STATUS_INVALID_HANDLE := by
  unfold Interleaving at h
  induction h with
  | done =>
      cases h₁ with
      | done => rfl
  | left hrun _ ih =>
      cases h₁ with
      | look =>
          obtain rfl := run_setLookup_closed hclosed hrun
          exact ih .done
  | right _ _ ih => exact ih h₁

theorem run_setLookup_fits {x : NTSTATUS ⊕ Option Ptr}
    (h : Run (step env (mergesAs none)) (setLookup env fileName r) w tr x w') :
    (getFilePath env.globals DOKAN_MAX_PATH fileName).isSome := by
  have hsat : Sat (step env (mergesAs none)) (setLookup env fileName r) w
      (fun _ _ _ => (getFilePath env.globals DOKAN_MAX_PATH fileName).isSome) :=
    sat_filePathOf_bind fun path hpath tr x w' _ => Option.isSome_iff_exists.mpr ⟨path, hpath⟩
  exact hsat tr x w' h

section

variable {r₁ r₂ : SetCall} {e₁ e₂ : DWORD} {sched : List Side} {st : NTSTATUS × NTSTATUS}

theorem interleaved_fits
    (h : Interleaving env ⟨e₁, setBlocks env fileName r₁⟩ ⟨e₂, setBlocks env fileName r₂⟩ w sched
      st w') :
    (getFilePath env.globals DOKAN_MAX_PATH fileName).isSome := by
  cases h with
  | left hrun _ => exact run_setLookup_fits hrun
  | right hrun _ => exact run_setLookup_fits hrun

/-- Overlapping calls on a file without a node both succeed. -/
theorem interleaved_success (hopen₁ : r₁.Open) (hopen₂ : r₂.Open)
    (h : Interleaving env ⟨e₁, setBlocks env fileName r₁⟩ ⟨e₂, setBlocks env fileName r₂⟩ w sched
      st w')
    (hnode : (w.nodes.node fileName).isSome = false) (hover : Overlap sched) :
    st.1 = STATUS_SUCCESS ∧ st.2 = STATUS_SUCCESS := by
  obtain ⟨a, b, hruns, ha, hb, -, -⟩ := interleaved_runs hopen₁ hopen₂ h .look .look
  obtain ⟨hsaw₁, hsaw₂⟩ := saw_of_overlap hruns hover
  rw [descriptorCell, Option.isSome_map, hnode] at hsaw₁ hsaw₂
  exact ⟨ha hsaw₁, hb hsaw₂⟩

/-- With both handles open, and `r₁` the first to look: if the protocol ends like one call
after the other, so do the calls. -/
theorem sequential_of_left (hopen₁ : r₁.Open) (hopen₂ : r₂.Open)
    (h : Interleaving env ⟨e₁, setBlocks env fileName r₁⟩ ⟨e₂, setBlocks env fileName r₂⟩ w
      (.left :: sched) st w')
    (hwhen : (w.nodes.node fileName).isSome ∨ ¬ Overlap (.left :: sched) ∨
      WinnerAbsorbs (r₁.cell env) (r₂.cell env) (.left :: sched)) :
    SequentialEnd env fileName r₁ r₂ w (descriptorCell w'.nodes fileName) ∨
      SequentialEnd env fileName r₂ r₁ w (descriptorCell w'.nodes fileName) := by
  have hfits := interleaved_fits h
  obtain ⟨a, b, hruns, -, -, hprint₁, hprint₂⟩ := interleaved_runs hopen₁ hopen₂ h .look .look
  by_cases hover : Overlap (.left :: sched)
  · -- both saw what the cell was, so either order can be made
    obtain ⟨rfl, rfl⟩ := saw_of_overlap hruns hover
    rw [← Option.isSome_map (f := fun f : Filenode => f.security.descriptor)] at hwhen
    exact ((runs_sequential_iff hruns).mpr hwhen).imp
      (exists_sequentialEnd hfits hopen₁ hopen₂ hprint₁ hprint₂.given)
      (exists_sequentialEnd hfits hopen₂ hopen₁ hprint₂ hprint₁.given)
  · obtain ⟨rfl, hend⟩ := first_of_not_overlap hruns hover
    exact Or.inl (exists_sequentialEnd hfits hopen₁ hopen₂ hprint₁ hprint₂.given hend)

/-- With both handles open: when one call after the other ends the same way. -/
theorem interleaved_sequential_iff (hopen₁ : r₁.Open) (hopen₂ : r₂.Open)
    (h : Interleaving env ⟨e₁, setBlocks env fileName r₁⟩ ⟨e₂, setBlocks env fileName r₂⟩ w sched
      st w') :
    (SequentialEnd env fileName r₁ r₂ w (descriptorCell w'.nodes fileName) ∨
      SequentialEnd env fileName r₂ r₁ w (descriptorCell w'.nodes fileName)) ↔
    (w.nodes.node fileName).isSome ∨ ¬ Overlap sched ∨
      WinnerAbsorbs (r₁.cell env) (r₂.cell env) sched := by
  obtain ⟨a, b, hruns, -⟩ := interleaved_runs hopen₁ hopen₂ h .look .look
  constructor
  · intro hseq
    have hcell := (runs_sequential_iff hruns).mp
      (hseq.imp (SequentialEnd.eq hopen₁ hopen₂) (SequentialEnd.eq hopen₂ hopen₁))
    rw [descriptorCell, Option.isSome_map] at hcell
    exact hcell
  · intro hwhen
    cases sched with
    | nil => cases hruns
    | cons x sched =>
        cases x with
        | left => exact sequential_of_left hopen₁ hopen₂ h hwhen
        | right =>
            rw [← overlap_swap, ← winnerAbsorbs_swap] at hwhen
            exact (sequential_of_left hopen₂ hopen₁ h.swap hwhen).symm

/-- **Two calls at once.**  If both succeed, the descriptor ends up as one call after the
other would leave it, exactly when a handle is missing, the file had a node, one call
was over before the other looked the file up, or the first to add the node absorbs the
update of the other. -/
theorem concurrent_set_iff
    (h : Interleaving env ⟨e₁, setBlocks env fileName r₁⟩ ⟨e₂, setBlocks env fileName r₂⟩ w sched
      st w') :
    (st.1 = STATUS_SUCCESS → st.2 = STATUS_SUCCESS →
      SequentialEnd env fileName r₁ r₂ w (descriptorCell w'.nodes fileName) ∨
      SequentialEnd env fileName r₂ r₁ w (descriptorCell w'.nodes fileName)) ↔
    ¬ (r₁.Open ∧ r₂.Open) ∨ (w.nodes.node fileName).isSome ∨ ¬ Overlap sched ∨
      WinnerAbsorbs (r₁.cell env) (r₂.cell env) sched := by
  have hrefused : STATUS_INVALID_HANDLE ≠ STATUS_SUCCESS := by decide
  by_cases hopen₁ : r₁.Open
  · by_cases hopen₂ : r₂.Open
    · have hiff := interleaved_sequential_iff hopen₁ hopen₂ h
      constructor
      · intro hseq
        refine Or.inr ?_
        cases hnode : (w.nodes.node fileName).isSome with
        | true => exact Or.inl rfl
        | false =>
            by_cases hover : Overlap sched
            · have ⟨hst₁, hst₂⟩ := interleaved_success hopen₁ hopen₂ h hnode hover
              rw [hnode] at hiff
              exact hiff.mp (hseq hst₁ hst₂)
            · exact Or.inr (Or.inl hover)
      · intro hcond _ _
        rcases hcond with hclosed | hcond
        · exact absurd ⟨hopen₁, hopen₂⟩ hclosed
        · exact hiff.mpr hcond
    · have hst : st.2 = STATUS_INVALID_HANDLE := interleaved_refused hopen₂ h.swap .look
      exact iff_of_true (fun _ h₂ => absurd (hst.symm.trans h₂) hrefused)
        (Or.inl fun ho => hopen₂ ho.2)
  · have hst : st.1 = STATUS_INVALID_HANDLE := interleaved_refused hopen₁ h .look
    exact iff_of_true (fun h₁ _ => absurd (hst.symm.trans h₁) hrefused)
      (Or.inl fun ho => hopen₁ ho.1)

end

end

/-- With debugging off two calls can overlap: both look the file up before either acts. -/
theorem exists_overlapping (env : Env) (fileName : WString) (r₁ r₂ : SetCall) (e₁ e₂ : DWORD)
    (w : World Unit) (hoff : env.debugMode = false)
    (hfits : (getFilePath env.globals DOKAN_MAX_PATH fileName).isSome)
    (hopen₁ : r₁.Open) (hopen₂ : r₂.Open) :
    ∃ st w', Interleaving env ⟨e₁, setBlocks env fileName r₁⟩ ⟨e₂, setBlocks env fileName r₂⟩ w
      [.left, .right, .left, .right] st w' := by
  obtain ⟨path, hpath⟩ := Option.isSome_iff_exists.mp hfits
  have hlook : ∀ {r : SetCall} (w : World Unit), r.Open → ∃ tr w', Run (step env (mergesAs none))
      (setLookup env fileName r) w tr (.inr (w.nodes.findFileNode fileName)) w' := by
    intro r w hopen
    have hcheck : ∃ tr, Run (step env (mergesAs none)) (checkFlags r.parts securityFlags) w tr () w :=
      run_checkFlags
    obtain ⟨tr, hcheck⟩ := hcheck
    have hfind : Run (step env (mergesAs none)) (Prog.perform (Call.findFileNode fileName)) w
        [⟨.findFileNode fileName, w.nodes.findFileNode fileName⟩] (w.nodes.findFileNode fileName) w :=
      .call ⟨rfl, rfl⟩ .done
    exact ⟨_, w, (run_filePathOf hpath).bind
      (run_print.bind (Run.ite_neg hopen (hcheck.bind (hfind.bind .done))))⟩
  obtain ⟨tr₁, w₁, hlook₁⟩ := hlook { w with lastError := e₁ } hopen₁
  obtain ⟨tr₂, w₂, hlook₂⟩ := hlook { w₁ with lastError := e₂ } hopen₂
  obtain ⟨tr₃, s₁, w₃, hact₁⟩ := exists_run_setFound { w₂ with lastError := w₁.lastError } r₁.stat r₁.stray
    fileName r₁.parts r₁.info (Printable.of_off hoff)
  obtain ⟨tr₄, s₂, w₄, hact₂⟩ := exists_run_setFound { w₃ with lastError := w₂.lastError } r₂.stat r₂.stray
    fileName r₂.parts r₂.info (Printable.of_off hoff)
  exact ⟨(s₁, s₂), w₄, .left hlook₁ (.right hlook₂ (.left hact₁ (.right hact₂ .done)))⟩

/-- Two overlapping calls that set the same part to the same end like one of them. -/
theorem concurrent_set_same :
    ∃ st w', Interleaving (Env.plain false)
        ⟨0, setBlocks (Env.plain false) (wide ['\\', 'a']) (.plain DACL_SECURITY_INFORMATION (.tag 1))⟩
        ⟨0, setBlocks (Env.plain false) (wide ['\\', 'a']) (.plain DACL_SECURITY_INFORMATION (.tag 1))⟩
        (World.start .none) [.left, .right, .left, .right] st w' ∧
      (st.1 = STATUS_SUCCESS → st.2 = STATUS_SUCCESS →
        SequentialEnd (Env.plain false) (wide ['\\', 'a']) (.plain DACL_SECURITY_INFORMATION (.tag 1))
          (.plain DACL_SECURITY_INFORMATION (.tag 1)) (World.start .none)
          (descriptorCell w'.nodes (wide ['\\', 'a'])) ∨
        SequentialEnd (Env.plain false) (wide ['\\', 'a']) (.plain DACL_SECURITY_INFORMATION (.tag 1))
          (.plain DACL_SECURITY_INFORMATION (.tag 1)) (World.start .none)
          (descriptorCell w'.nodes (wide ['\\', 'a']))) := by
  obtain ⟨st, w', h⟩ := exists_overlapping (.plain false) (wide ['\\', 'a'])
    (.plain DACL_SECURITY_INFORMATION (.tag 1)) (.plain DACL_SECURITY_INFORMATION (.tag 1)) 0 0
    (.start .none) rfl (by decide) SetCall.plain_open SetCall.plain_open
  refine ⟨st, w', h, (concurrent_set_iff h).mpr ?_⟩
  exact Or.inr (Or.inr (Or.inr (Or.inl rfl)))

/-- One call sets the DACL and another, at the same time, the owner of a file without a
node: the owner is lost. -/
theorem not_concurrent_set :
    ¬ ∀ (env : Env) (fileName : WString) (r₁ r₂ : SetCall) (e₁ e₂ : DWORD) (sched : List Side)
      (st : NTSTATUS × NTSTATUS) (w w' : World Unit),
      Interleaving env ⟨e₁, setBlocks env fileName r₁⟩ ⟨e₂, setBlocks env fileName r₂⟩ w sched
        st w' →
      st.1 = STATUS_SUCCESS → st.2 = STATUS_SUCCESS →
        SequentialEnd env fileName r₁ r₂ w (descriptorCell w'.nodes fileName) ∨
        SequentialEnd env fileName r₂ r₁ w (descriptorCell w'.nodes fileName) := by
  intro hclaim
  obtain ⟨st, w', h⟩ := exists_overlapping (.plain false) (wide ['\\', 'a'])
    (.plain DACL_SECURITY_INFORMATION (.tag 1)) (.plain OWNER_SECURITY_INFORMATION (.tag 2)) 0 0
    (.start .none) rfl (by decide) SetCall.plain_open SetCall.plain_open
  have hover : Overlap [.left, .right, .left, .right] := Side.noConfusion
  have hst := interleaved_success SetCall.plain_open SetCall.plain_open h rfl hover
  have hend := hclaim _ _ _ _ _ _ _ _ _ _ h hst.1 hst.2
  rw [interleaved_sequential_iff SetCall.plain_open SetCall.plain_open h] at hend
  rcases hend with hnode | hnover | habsorbs
  · exact absurd hnode (by decide)
  · exact hnover hover
  · rcases habsorbs with habsorbs | habsorbs <;> exact absurd habsorbs (by decide)

end SeamlessSmb
