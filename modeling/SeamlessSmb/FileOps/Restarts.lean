/-
# `FileOps.Restarts` — the node store from one process to the next

A mount is served by one process after the other.  Each starts with the nodes it finds in the `.dat`
file of its directory, answers the driver, saves now and then, and ends, whether it is told to, its
file system stops or it is killed.  A kill may come while the file is being written.

| step | process | file |
| :-- | :-- | :-- |
| `callback` | answers one call of the driver (`Acts`) | |
| `saveSecurity` | is killed, or goes on | as far as it got (`Progress`) |
| `ends` | none | |
| `starts` | `FileMount::FileMount` | |

`saveSecurity` holds the mutex of the nodes from the first byte to the last, so a save is one step.
What a process has beside its nodes is not kept, and a new one may have it any way.

**Proved here:** the nodes are those that the calls make of the first ones that were made before a save
that got through or since the process started; the others are lost, and no call is in part.  This is so
for the map from names to nodes, while nothing is renamed onto a name in use (`restarts_refine`), and
for the descriptor that is read of a file that is only set, whatever becomes of the others
(`restarts_read`).  A process can be started exactly if no save was cut off (`restarts_start_iff`).
-/
import SeamlessSmb.Lib.Checkpoint
import SeamlessSmb.DatFile
import SeamlessSmb.FileOps.Isolation

namespace SeamlessSmb

open Checkpoint

/-! ## Processes -/

/-- The files, and the process of the mount while there is one. -/
structure Restarts (O ι : Type) where
  disk : Disk ι
  process : Option (World O)

namespace Restarts

inductive Label
  | callback (a : Action) (tr : Trace)
  | saveSecurity (progress : Progress)
  | ends
  | starts

variable {O ι ω β : Type} {env : Env} {os : O → (c : Win32Call) → Outcome c.Value → O → Prop} {ar : Archive}
  {p : Program ι} {disk : Disk ι} {w w' : World O} {n : Nodes} {s s' : Restarts O ι} {l : Label}
  {history : List (Label × Restarts O ι)}

/-- The file was emptied, and not all bytes are in it. -/
def cut (size : ℕ) : Progress → Prop
  | .killed count => count < size
  | .notOpened | .done => False

/-- The nodes are in the file, or it is as it was. -/
def saved (size : ℕ) : Progress → Event ω
  | .notOpened => .idle
  | .killed count => if size ≤ count then .save else .idle
  | .done => .save

/-- The process after a save. -/
def survivor (w : World O) : Progress → Option (World O)
  | .killed _ => none
  | .notOpened | .done => some w

section

variable [DecidableEq ι]

inductive Step (env : Env) (os : O → (c : Win32Call) → Outcome c.Value → O → Prop) (ar : Archive)
    (p : Program ι) : Restarts O ι → Label → Restarts O ι → Prop
  | callback {disk : Disk ι} {w w' : World O} {a : Action} {tr : Trace} (h : Acts env os w (a, tr) w') :
      Step env os ar p ⟨disk, some w⟩ (.callback a tr) ⟨disk, some w'⟩
  | saveSecurity {disk : Disk ι} {w : World O} {progress : Progress} :
      Step env os ar p ⟨disk, some w⟩ (.saveSecurity progress)
        ⟨SeamlessSmb.saveSecurity ar p disk env.globals.rootDirectory w.nodes progress, survivor w progress⟩
  | ends {disk : Disk ι} {w : World O} : Step env os ar p ⟨disk, some w⟩ .ends ⟨disk, none⟩
  | starts {disk : Disk ι} {w : World O} {heap : Ptr → Filenode} {context : BitVec 64}
      {dokanOptions : DokanOptions} {otherPrint : Option DbgPrint} {fileMount : FileMount}
      (h : FileMount.construct ar p disk heap context env.globals dokanOptions otherPrint =
        some (fileMount, w.nodes)) :
      Step env os ar p ⟨disk, none⟩ .starts ⟨disk, some w⟩

/-- What a step is to the nodes; `work` reads off what a call is. -/
def event (ar : Archive) (work : World O → Action × Trace → ω) (s : Restarts O ι) (l : Label) : Event ω :=
  match s.process, l with
  | some w, .callback a tr => .work (work w (a, tr))
  | some w, .saveSecurity progress => saved (w.nodes.save ar).length progress
  | _, .starts => .restart
  | _, _ => .idle

/-- The calls that count: for the process there is, and for the next one. -/
def calls (ar : Archive) (work : World O → Action × Trace → ω) (s : Restarts O ι)
    (history : List (Label × Restarts O ι)) : Checkpoint.Kept (List ω) :=
  survivors (events (event ar work) s history)

/-- Calls of the driver have the property. -/
def Answers (C : World O → Action × Trace → Prop) (s : Restarts O ι) : Label → Restarts O ι → Prop
  | .callback a tr, _ => ∀ w, s.process = some w → C w (a, tr)
  | _, _ => True

/-- The save does not stop after the file was emptied. -/
def Uncut (ar : Archive) (s : Restarts O ι) : Label → Restarts O ι → Prop
  | .saveSecurity progress, _ => ∀ w, s.process = some w → ¬ cut (w.nodes.save ar).length progress
  | _, _ => True

/-- There is no process, and none can be started. -/
structure Lost (ar : Archive) (p : Program ι) (rootDirectory : WString) (s : Restarts O ι) : Prop where
  process : s.process = none
  loadNodes : ∀ heap, loadNodes ar p s.disk rootDirectory heap = none

/-- `V` holds of the nodes of the process and of those in the file, with the value and its copy. -/
structure Keeps (ar : Archive) (p : Program ι) (rootDirectory : WString) (V : Nodes → β → Prop)
    (s : Restarts O ι) (k : Checkpoint.Kept β) : Prop where
  process : ∀ w, s.process = some w → V w.nodes k.value
  disk : ∃ n, Stored ar p s.disk rootDirectory n ∧ V n k.copy

/-- Nothing comes after a save that was cut off. -/
theorem Lost.no_step (h : Lost ar p env.globals.rootDirectory s) : ¬ Step env os ar p s l s' := by
  intro hstep
  cases hstep with
  | callback _ => cases h.process
  | saveSecurity => cases h.process
  | ends => cases h.process
  | starts hconstruct =>
      rw [FileMount.construct_of_loadNodes (h.loadNodes _)] at hconstruct
      cases hconstruct

/-! ## One step -/

/-- What a save leaves. -/
theorem Keeps.saveSecurity {V : Nodes → β → Prop} {f : β → ω → β} {k : Checkpoint.Kept β} {progress : Progress}
    (h : Keeps ar p env.globals.rootDirectory V (⟨disk, some w⟩ : Restarts O ι) k)
    (hcut : ¬ cut (w.nodes.save ar).length progress) :
    Keeps ar p env.globals.rootDirectory V
      (⟨SeamlessSmb.saveSecurity ar p disk env.globals.rootDirectory w.nodes progress, survivor w progress⟩ :
        Restarts O ι)
      (k.act f (saved (w.nodes.save ar).length progress)) := by
  have hw := h.process w rfl
  cases progress with
  | notOpened => exact ⟨h.process, h.disk⟩
  | killed count =>
      have hcount : (w.nodes.save ar).length ≤ count := Nat.le_of_not_lt hcut
      have hsaved : (saved (w.nodes.save ar).length (.killed count) : Event ω) = .save := if_pos hcount
      rw [hsaved, saveSecurity_killed hcount]
      refine ⟨?_, w.nodes, stored_saveSecurity, hw⟩
      intro w' hw'
      cases hw'
  | done => exact ⟨h.process, w.nodes, stored_saveSecurity, hw⟩

/-- **A step** is to the nodes what its event is. -/
theorem Keeps.step {V : Nodes → β → Prop} {f : β → ω → β} {work : World O → Action × Trace → ω}
    {C : World O → Action × Trace → Prop} {k : Checkpoint.Kept β}
    (hcopy : ∀ n m b, V n b → Nodes.Copy n m → V m b)
    (hwork : ∀ w l w' b, V w.nodes b → Acts env os w l w' → C w l → V w'.nodes (f b (work w l)))
    (h : Keeps ar p env.globals.rootDirectory V s k) (hstep : Step env os ar p s l s')
    (hcut : Uncut ar s l s') (hC : Answers C s l s') :
    Keeps ar p env.globals.rootDirectory V s' (k.act f (event ar work s l)) := by
  cases hstep with
  | callback hacts =>
      refine ⟨?_, h.disk⟩
      intro w' hw'
      cases hw'
      exact hwork _ _ _ _ (h.process _ rfl) hacts (hC _ rfl)
  | saveSecurity => exact h.saveSecurity (hcut _ rfl)
  | ends =>
      refine ⟨?_, h.disk⟩
      intro w' hw'
      cases hw'
  | starts hconstruct =>
      refine ⟨?_, h.disk⟩
      intro w' hw'
      cases hw'
      obtain ⟨n, hstored, hV⟩ := h.disk
      obtain ⟨m, hload, hcp⟩ := hstored.loadNodes _
      obtain ⟨fileMount, -, hnodes⟩ := Option.bind_eq_some_iff.mp hconstruct
      rw [hload] at hnodes
      cases hnodes
      exact hcopy _ _ _ hV hcp

/-- A save that is cut off leaves no process, and none to come. -/
theorem lost_of_cut (hstep : Step env os ar p s l s') (hcut : ¬ Uncut ar s l s') :
    Lost ar p env.globals.rootDirectory s' := by
  cases hstep with
  | @saveSecurity disk w progress =>
      cases progress with
      | notOpened => exact (hcut fun _ _ => id).elim
      | done => exact (hcut fun _ _ => id).elim
      | killed count =>
          refine ⟨rfl, fun heap => loadNodes_killed (Nat.lt_of_not_le ?_)⟩
          intro hle
          refine hcut ?_
          intro w' hw' hlt
          cases hw'
          exact Nat.not_lt_of_le hle hlt
  | _ => exact (hcut trivial).elim

/-! ## Histories -/

/-- Along a history no save is cut off, or it ends with no process, and none to come. -/
theorem uncut_or_lost (h : History.Path (Step env os ar p) s history) :
    History.Along (Uncut ar) s history ∨ Lost ar p env.globals.rootDirectory (History.final s history) := by
  induction h with
  | nil => exact .inl trivial
  | @cons s s' l _ hstep hrest ih =>
      by_cases hcut : Uncut ar s l s'
      · rcases ih with huncut | hlost
        · exact .inl ⟨hcut, huncut⟩
        · exact .inr hlost
      · have hlost := lost_of_cut hstep hcut
        cases hrest with
        | nil => exact .inr hlost
        | cons hnext _ => exact (hlost.no_step hnext).elim

/-- The nodes after a history, and those in the file. -/
theorem keeps_along (V : Nodes → β → Prop) (f : β → ω → β) (work : World O → Action × Trace → ω)
    (C : World O → Action × Trace → Prop) {b : β}
    (hcopy : ∀ n m b, V n b → Nodes.Copy n m → V m b)
    (hwork : ∀ w l w' b, V w.nodes b → Acts env os w l w' → C w l → V w'.nodes (f b (work w l)))
    (hs : Stored ar p disk env.globals.rootDirectory n) (hV : V n b)
    (h : History.Path (Step env os ar p) ⟨disk, none⟩ history)
    (hcut : History.Along (Uncut ar) ⟨disk, none⟩ history)
    (hC : History.Along (Answers C) ⟨disk, none⟩ history) :
    Keeps ar p env.globals.rootDirectory V (History.final ⟨disk, none⟩ history)
      ((calls ar work ⟨disk, none⟩ history).map (List.foldl f b)) := by
  refine survivors_of_path (fun _ _ _ _ hkeeps hstep hboth => ?_) ?_ h (both_along hcut hC)
  · exact hkeeps.step hcopy hwork hstep hboth.1 hboth.2
  · refine ⟨?_, n, hs, hV⟩
    intro w hw
    cases hw

/-- Where there is a process, no save was cut off. -/
theorem uncut_of_process (h : History.Path (Step env os ar p) s history)
    (hw : (History.final s history).process = some w) : History.Along (Uncut ar) s history := by
  rcases uncut_or_lost h with huncut | hlost
  · exact huncut
  · rw [hlost.process] at hw
    cases hw

/-- **Starting again.**  Whatever happened, a process can be started exactly if no save was cut off. -/
theorem restarts_start_iff (dokanOptions : DokanOptions)
    (hs : Stored ar p disk env.globals.rootDirectory n)
    (h : History.Path (Step env os ar p) ⟨disk, none⟩ history) :
    (∃ n', FileMount.StartsWith ar p (History.final ⟨disk, none⟩ history).disk env.globals dokanOptions n') ↔
      History.Along (Uncut ar) ⟨disk, none⟩ history := by
  constructor
  · rintro ⟨n', hstarts⟩
    rcases uncut_or_lost h with huncut | hlost
    · exact huncut
    · obtain ⟨m, hm, -⟩ := hstarts n.heap 0 otherlog
      rw [FileMount.construct_of_loadNodes (hlost.loadNodes _)] at hm
      cases hm
  · intro hcut
    have hanswers : History.Along (Answers fun _ _ => True) ⟨disk, none⟩ history := by
      refine h.along_all (I := fun _ => True) ?_ trivial
      intro s l s' _ _
      cases l with
      | callback a tr => exact ⟨fun _ _ => trivial, trivial⟩
      | _ => exact ⟨trivial, trivial⟩
    -- of the nodes themselves nothing is asked
    have hkeeps := keeps_along (fun _ _ => True) (fun b _ => b) (fun _ _ => ()) (fun _ _ => True) (b := ())
      (fun _ _ _ _ _ => trivial) (fun _ _ _ _ _ _ _ => trivial) hs trivial h hcut hanswers
    obtain ⟨n', hstored, -⟩ := hkeeps.disk
    exact ⟨n', hstored.startsWith⟩

/-- What a call changes in the map. -/
def changed (env : Env) (w : World O) (l : Action × Trace) : Nodes.Change := l.1.change env w.nodes (asked l.2)

/-- **Refinement.**  While nothing is renamed onto a name in use, the map of the process there is comes to
what the changes that survived make of the first one, in their order, and the map that the next process
starts with to what those before the last save do. -/
theorem restarts_refine (hd : n.NamesDistinct) (hs : Stored ar p disk env.globals.rootDirectory n)
    (h : History.Path (Step env os ar p) ⟨disk, none⟩ history)
    (hfree : History.Along (Answers fun w l => KeepsFree env w l w) ⟨disk, none⟩ history) :
    (∀ w, (History.final ⟨disk, none⟩ history).process = some w →
      w.nodes.node = (calls ar (changed env) ⟨disk, none⟩ history).value.foldl Nodes.Change.apply n.node) ∧
    (History.Along (Uncut ar) ⟨disk, none⟩ history → ∀ dokanOptions, ∃ n',
      FileMount.StartsWith ar p (History.final ⟨disk, none⟩ history).disk env.globals dokanOptions n' ∧
        n'.node = (calls ar (changed env) ⟨disk, none⟩ history).copy.foldl Nodes.Change.apply n.node) := by
  have hkeeps : History.Along (Uncut ar) ⟨disk, none⟩ history →
      Keeps ar p env.globals.rootDirectory (fun n m => n.node = m ∧ n.NamesDistinct)
        (History.final ⟨disk, none⟩ history)
        ((calls ar (changed env) ⟨disk, none⟩ history).map (List.foldl Nodes.Change.apply n.node)) := by
    intro hcut
    refine keeps_along _ _ _ _ ?_ ?_ hs ⟨rfl, hd⟩ h hcut hfree
    · rintro n m _ ⟨rfl, hd⟩ hcopy
      exact ⟨hcopy.node, hcopy.namesDistinct_iff.mpr hd⟩
    · rintro w ⟨a, tr⟩ w' _ ⟨rfl, hd⟩ hacts hfree
      have hchange := action_change hacts
      exact ⟨hchange.node hd hfree, (hchange.namesDistinct_iff hd).mpr hfree⟩
  constructor
  · intro w hw
    exact ((hkeeps (uncut_of_process h hw)).process w hw).1
  · intro hcut dokanOptions
    obtain ⟨n', hstored, hnode, -⟩ := (hkeeps hcut).disk
    exact ⟨n', hstored.startsWith, hnode⟩

/-- The merge of a call for `F`. -/
def merged (F : WString) (w : World O) (l : Action × Trace) : Option (DWORD × SecurityDescriptor) :=
  l.1.merges F w.nodes (asked l.2)

def mergeInto (env : Env) (current : SecurityDescriptor) : Option (DWORD × SecurityDescriptor) → SecurityDescriptor
  | some (parts, sd) => env.merge parts sd current
  | none => current

/-- **Reading back.**  What a process reads of a file that is only set, whatever is done to the others, is
what the merges that survived make of the descriptor it had at first. -/
theorem restarts_read {fileName : WString} {parts bufferLength unset : DWORD} {tr : Trace}
    {res : GetFileSecurityResult} (hs : Stored ar p disk env.globals.rootDirectory n)
    (h : History.Path (Step env os ar p) ⟨disk, none⟩ history)
    (hF : History.Along (Answers fun _ l => l.1.OnlySets fileName) ⟨disk, none⟩ history)
    (hw : (History.final ⟨disk, none⟩ history).process = some w)
    (hread : Calls.Run (step env os) (mirrorGetFileSecurity env unset fileName parts bufferLength) w tr res w') :
    descriptorRead tr = some ((calls ar (merged fileName) ⟨disk, none⟩ history).value.foldl (mergeInto env)
      (env.readSD n fileName)) := by
  rw [run_getFileSecurity hread]
  refine congrArg some ((keeps_along (fun n sd => env.readSD n fileName = sd) _ _ _ ?_ ?_ hs rfl h
    (uncut_of_process h hw) hF).process w hw)
  · intro n m sd hV hcp
    exact (readSD_congr (congrFun hcp.node fileName)).trans hV
  · rintro w l w' sd rfl hacts hsets
    rw [action_settles hacts hsets]
    unfold settle mergeInto merged
    rfl

end

/-! ## A second process -/

/-- The call of `session_refines_set`. -/
def settingA : Action := .setSecurity (wide ['\\', 'a']) (.plain DACL_SECURITY_INFORMATION (.tag 1))

/-- The security of `\a` is set, and the process saves and ends. -/
def secondStart (tr : Trace) (w w' : World Unit) : List (Label × Restarts Unit WString) :=
  let disk := SeamlessSmb.saveSecurity .binary .plain (fun _ => none) (Env.plain false).globals.rootDirectory
    w.nodes .done
  [(.starts, ⟨fun _ => none, some (.start .none)⟩), (.callback settingA tr, ⟨fun _ => none, some w⟩),
    (.saveSecurity .done, ⟨disk, some w⟩), (.ends, ⟨disk, none⟩), (.starts, ⟨disk, some w'⟩)]

theorem exists_secondStart : ∃ tr w w',
    History.Path (Step (.plain false) (mergesAs none) .binary .plain) ⟨fun _ => none, none⟩
      (secondStart tr w w') := by
  obtain ⟨tr, w, hacts⟩ := exists_acts_set (wide ['\\', 'a']) (by decide) (World.start .none)
  have hstarts : FileMount.StartsWith .binary .plain (SeamlessSmb.saveSecurity .binary .plain (fun _ => none)
      (Env.plain false).globals.rootDirectory w.nodes .done) (Env.plain false).globals {} w.nodes :=
    stored_saveSecurity.startsWith
  obtain ⟨m, hm, -⟩ := hstarts w.nodes.heap 1 otherlog
  have hfirst : FileMount.construct .binary .plain (fun _ => none) Nodes.none.heap 1 (Env.plain false).globals {}
      otherlog = some (FileMount.fill 1 (Env.plain false).globals {}, (World.start .none).nodes) := rfl
  exact ⟨tr, w, .start m, .cons (.starts hfirst) (.cons (.callback hacts) (.cons .saveSecurity
    (.cons .ends (.cons (.starts hm) .nil))))⟩

theorem stored_nothing :
    Stored .binary .plain (fun _ : WString => none) (Env.plain false).globals.rootDirectory Nodes.none :=
  .inr ⟨rfl, rfl⟩

theorem restarts_start_second : ∃ tr w w' n',
    FileMount.StartsWith .binary .plain
      (History.final ⟨fun _ => none, none⟩ (secondStart tr w w')).disk (Env.plain false).globals {} n' := by
  obtain ⟨tr, w, w', hpath⟩ := exists_secondStart
  obtain ⟨n', hstarts⟩ := (restarts_start_iff {} stored_nothing hpath).mpr
    ⟨trivial, trivial, fun _ _ => id, trivial, trivial, trivial⟩
  exact ⟨tr, w, w', n', hstarts⟩

theorem restarts_refine_second : ∃ tr w w',
    History.Path (Step (.plain false) (mergesAs none) .binary .plain) ⟨fun _ => none, none⟩
      (secondStart tr w w') ∧
    w'.nodes.node = (changed (.plain false) (World.start .none) (settingA, tr)).apply Nodes.none.node := by
  obtain ⟨tr, w, w', hpath⟩ := exists_secondStart
  have hfree : History.Along (Answers fun w l => KeepsFree (.plain false) w l w) ⟨fun _ => none, none⟩
      (secondStart tr w w') := by
    refine ⟨trivial, ?_, trivial, trivial, trivial, trivial⟩
    intro w₁ hw₁
    cases hw₁
    -- a setting renames nothing
    show (newChange _ _ _ _).Free _
    unfold newChange
    split <;> trivial
  exact ⟨tr, w, w', hpath, (restarts_refine Nodes.namesDistinct_empty stored_nothing hpath hfree).1 w' rfl⟩

theorem restarts_read_second : ∃ tr w' tr' res w'',
    Calls.Run (step (.plain false) (mergesAs none))
      (mirrorGetFileSecurity (.plain false) 0 (wide ['\\', 'a']) DACL_SECURITY_INFORMATION 64) w' tr' res w'' ∧
    descriptorRead tr' = some (mergeInto (.plain false) (.tag 0)
      (merged (wide ['\\', 'a']) (World.start .none) (settingA, tr))) := by
  obtain ⟨tr, w, w', hpath⟩ := exists_secondStart
  have hreturns : Returns (.plain false) (mirrorGetFileSecurity (.plain false) 0 (wide ['\\', 'a'])
      DACL_SECURITY_INFORMATION 64) := returns_getFileSecurity rfl (by decide)
  obtain ⟨tr', res, w'', hget⟩ := hreturns.exists_run mergesAs_total w'
  refine ⟨tr, w', tr', res, w'', hget, restarts_read stored_nothing hpath ?_ rfl hget⟩
  exact ⟨trivial, fun _ _ _ => ⟨_, rfl⟩, trivial, trivial, trivial, trivial⟩

end Restarts

end SeamlessSmb
