/-
# `FileOps.Session` — the driver's calls, one after the other

The driver calls the callbacks in any order and with any arguments.  An `Action` is one
such call; `Acts` runs it, and a session is a history of them (`History.Path`).  The
callbacks of this list are those that come near the node store: no other callback of
`FileOps` searches it or changes it.

**Proved here:** every action is one change of the store, known from the action, the
store and what the platform was asked (`action_change`); so along a session the store
refines the map from names to nodes, and the names stay distinct exactly while no
action renames onto a name in use (`session_refines_iff`).
-/
import SeamlessSmb.Lib.History
import SeamlessSmb.FileOps.Security
import SeamlessSmb.FileOps.Create
import SeamlessSmb.FileOps.Delete
import SeamlessSmb.FileOps.Move

namespace SeamlessSmb

open Calls

/-! ## Actions -/

/-- A call of the driver. -/
inductive Action
  | create (q : CreateRequest) (info : DokanFileInfo)
  | getSecurity (fileName : WString) (parts bufferLength unset : DWORD)
  | setSecurity (fileName : WString) (r : SetCall)
  | deleteFile (fileName : WString) (info : DokanFileInfo)
  | deleteDirectory (fileName : WString) (info : DokanFileInfo)
  | cleanup (fileName : WString) (info : DokanFileInfo)
  | move (fileName newFileName : WString) (replaceIfExisting : Bool) (info : DokanFileInfo)

namespace Action

/-- The callback it calls.  What is returned goes to the driver. -/
def program (env : Env) : Action → Op Unit
  | create q info => do let _ ← mirrorCreateFile env q info
  | getSecurity fileName parts bufferLength unset => do
      let _ ← mirrorGetFileSecurity env unset fileName parts bufferLength
  | setSecurity fileName r => do
      let _ ← mirrorSetFileSecurity env r.stat r.stray fileName r.parts r.securityDescriptor r.info
  | deleteFile fileName info => do let _ ← mirrorDeleteFile env fileName info
  | deleteDirectory fileName info => do let _ ← SeamlessSmb.deleteDirectory env fileName info
  | cleanup fileName info => do let _ ← mirrorCleanup env fileName info
  | move fileName newFileName replaceIfExisting info => do
      let _ ← mirrorMoveFile env fileName newFileName replaceIfExisting info

/-- What the action does to the store `n`, by what it asked. -/
def change (env : Env) (n : Nodes) (shown : Trace) : Action → Nodes.Change
  | create q _ => createChange env q shown
  | getSecurity .. | cleanup .. => .keep
  | setSecurity fileName r => setChange env fileName r n shown
  | deleteFile fileName _ => deleteFileChange fileName shown
  | deleteDirectory fileName _ => deleteDirectoryChange fileName shown
  | move fileName newFileName _ _ => moveChange fileName newFileName shown

end Action

section

variable {O : Type} {env : Env} {os : O → (c : Win32Call) → Outcome c.Value → O → Prop}
  {w w' : World O} {tr : Trace}

/-- One action, with the calls it made. -/
def Acts (env : Env) (os : O → (c : Win32Call) → Outcome c.Value → O → Prop) (w : World O)
    (l : Action × Trace) (w' : World O) : Prop :=
  Run (step env os) (l.1.program env) w l.2 () w'

theorem run_ignore {α : Type} {p : Op α} :
    Run (step env os) (do let _ ← p) w tr () w' ↔ ∃ a, Run (step env os) p w tr a w' := by
  constructor
  · intro h
    obtain ⟨tr₁, a, w₁, tr₂, rfl, h₁, h₂⟩ := run_bind.mp h
    obtain ⟨rfl, -, rfl⟩ := run_done.mp h₂
    rw [List.append_nil]
    exact ⟨a, h₁⟩
  · rintro ⟨a, h⟩
    rw [← List.append_nil tr]
    exact h.bind .done

/-! ## Every action is a change -/

/-- **Actions.**  What an action does to the store is the change it comes with. -/
theorem action_change {a : Action} (h : Acts env os w (a, tr) w') :
    (a.change env w.nodes (asked tr)).Between w.nodes w'.nodes := by
  cases a with
  | create q info =>
      obtain ⟨res, hrun⟩ := run_ignore.mp h
      exact create_change hrun
  | getSecurity fileName parts bufferLength =>
      obtain ⟨res, hrun⟩ := run_ignore.mp h
      exact Nodes.Same.of_eq (getFileSecurity_nodes hrun)
  | setSecurity fileName r =>
      obtain ⟨status, hrun⟩ := run_ignore.mp h
      exact set_change hrun
  | deleteFile fileName info =>
      obtain ⟨status, hrun⟩ := run_ignore.mp h
      exact deleteFile_change hrun
  | deleteDirectory fileName info =>
      obtain ⟨status, hrun⟩ := run_ignore.mp h
      exact deleteDirectory_change hrun
  | cleanup fileName info =>
      obtain ⟨res, hrun⟩ := run_ignore.mp h
      exact Nodes.Same.of_eq (cleanup_nodes hrun)
  | move fileName newFileName replaceIfExisting info =>
      obtain ⟨status, hrun⟩ := run_ignore.mp h
      exact move_change hrun

/-- The step changes the map as its change says, and leaves the names distinct. -/
def Refines (env : Env) (w : World O) (l : Action × Trace) (w' : World O) : Prop :=
  w'.nodes.node = (l.1.change env w.nodes (asked l.2)).apply w.nodes.node ∧
    w'.nodes.NamesDistinct

/-- The action does not rename onto a name in use. -/
def KeepsFree (env : Env) (w : World O) (l : Action × Trace) (_ : World O) : Prop :=
  (l.1.change env w.nodes (asked l.2)).Free w.nodes

/-- **Sessions** refine the map exactly while nothing is renamed onto a name in use. -/
theorem session_refines_iff {history : List ((Action × Trace) × World O)}
    (hd : w.nodes.NamesDistinct) (h : History.Path (Acts env os) w history) :
    History.Along (Refines env) w history ↔ History.Along (KeepsFree env) w history := by
  refine h.along_iff (I := fun w => w.nodes.NamesDistinct) ?_ ?_ hd
  · intro w l w' hd hstep
    have hchange := action_change hstep
    constructor
    · rintro ⟨-, hd'⟩
      exact (hchange.namesDistinct_iff hd).mp hd'
    · intro hfree
      exact ⟨hchange.node hd hfree, (hchange.namesDistinct_iff hd).mpr hfree⟩
  · intro w l w' _ _ hrefines
    exact hrefines.2

end

/-- The security of a file of the sample mount can be set. -/
theorem exists_acts_set (fileName : WString)
    (hfits : (getFilePath (Env.plain false).globals DOKAN_MAX_PATH fileName).isSome) (w : World Unit) :
    ∃ tr w', Acts (.plain false) (mergesAs none) w
      (.setSecurity fileName (.plain DACL_SECURITY_INFORMATION (.tag 1)), tr) w' := by
  have hopen : (SetCall.plain DACL_SECURITY_INFORMATION (.tag 1)).Open := SetCall.plain_open
  obtain ⟨tr, status, w', hrun⟩ := exists_run_set (w := w) hfits hopen (.of_off rfl)
  exact ⟨tr, w', run_ignore.mpr ⟨status, hrun⟩⟩

/-- That of `\a`, which has no node, is set. -/
theorem session_refines_set :
    ∃ tr w', History.Along (Refines (.plain false)) (World.start .none)
      [((.setSecurity (wide ['\\', 'a']) (.plain DACL_SECURITY_INFORMATION (.tag 1)), tr), w')] := by
  obtain ⟨tr, w', hacts⟩ := exists_acts_set (wide ['\\', 'a']) (by decide) (World.start .none)
  refine ⟨tr, w', (session_refines_iff Nodes.namesDistinct_empty (.cons hacts .nil)).mpr ⟨?_, trivial⟩⟩
  -- a setting renames nothing
  show (newChange _ _ _ _).Free _
  unfold newChange
  split <;> trivial

end SeamlessSmb
