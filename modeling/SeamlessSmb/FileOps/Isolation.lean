/-
# `FileOps.Isolation` — what a session does to one file

All files of a mount share one list of nodes, and names in it need not be distinct: a renaming
onto a name in use leaves two nodes of that name.  Still a call of the driver reaches no node
but those of the names it is given, and this can be said without knowing what the list has
come to.

| call | the names whose nodes it may change |
| :-- | :-- |
| `MirrorCreateFile`, `MirrorSetFileSecurity`, `MirrorDeleteFile`, `DeleteDirectory` | its own |
| `MirrorMoveFile` | the old one and the new one |
| `MirrorGetFileSecurity`, `MirrorCleanup` | none |

So the descriptor of a file that is only ever set is known from its settings: each merges the
parts it selects into what the ones before have left (`settle`).

**Proved here:** a call leaves the node of every name alone that it is not given (`action_keeps`).
What `MirrorGetFileSecurity` reads of a file that is only set is what the merges of the session
make of the descriptor it had before (`session_reads`).
-/
import SeamlessSmb.FileOps.Deletion

namespace SeamlessSmb

open Calls

/-! ## Names -/

/-- The node of `F` may change. -/
def Action.Touches (F : WString) : Action → Prop
  | .create q _ => q.fileName = F
  | .setSecurity fileName _ | .deleteFile fileName _ | .deleteDirectory fileName _ => fileName = F
  | .getSecurity .. | .cleanup .. => False
  | .move fileName newFileName _ _ => fileName = F ∨ newFileName = F

section

variable {O : Type} {env : Env} {os : O → (c : Win32Call) → Outcome c.Value → O → Prop}
  {w w' : World O} {F : WString} {a : Action} {tr shown : Trace} {n : Nodes}
  {history : List ((Action × Trace) × World O)}

theorem createChange_concerns {q : CreateRequest} (h : (createChange env q shown).Concerns F) :
    q.fileName = F := by
  have hput : ∀ {b : Prop} [Decidable b] {isDirectory : Bool},
      (if b then .put (createdNode env q isDirectory) else .keep : Nodes.Change).Concerns F →
        q.fileName = F := by
    intro b _ isDirectory h
    split at h
    · exact h
    · exact h.elim
  unfold createChange at h
  split at h
  · exact hput h
  · exact hput h
  · exact h.elim

theorem setChange_concerns {fileName : WString} {r : SetCall}
    (h : (setChange env fileName r n shown).Concerns F) : fileName = F := by
  unfold setChange at h
  split at h
  · unfold existingChange at h
    split at h
    · split at h
      · exact h.elim
      · exact h
    · exact h.elim
  · unfold newChange at h
    split at h
    · exact h
    · exact h.elim

theorem moveChange_concerns {fileName newFileName : WString}
    (h : (moveChange fileName newFileName shown).Concerns F) : fileName = F ∨ newFileName = F := by
  unfold moveChange at h
  split at h
  · exact h
  · exact h.elim

/-- A call changes no node but those of the names it is given. -/
theorem Action.touches_of_concerns (h : (a.change env n shown).Concerns F) : a.Touches F := by
  cases a with
  | create q info => exact createChange_concerns h
  | getSecurity fileName parts bufferLength unset => exact h
  | setSecurity fileName r => exact setChange_concerns h
  | deleteFile fileName info =>
      change (deleteFileChange fileName shown).Concerns F at h
      rcases deleteFileChange_cases fileName shown with hc | hc
      · rw [hc] at h
        exact h.elim
      · rw [hc] at h
        exact h
  | deleteDirectory fileName info =>
      change (deleteDirectoryChange fileName shown).Concerns F at h
      rcases deleteDirectoryChange_cases fileName shown with hc | hc
      · rw [hc] at h
        exact h.elim
      · rw [hc] at h
        exact h
  | cleanup fileName info => exact h
  | move fileName newFileName replaceIfExisting info => exact moveChange_concerns h

/-- **One call** leaves the nodes of the other names alone. -/
theorem action_keeps (h : Acts env os w (a, tr) w') (ha : ¬ a.Touches F) :
    w'.nodes.node F = w.nodes.node F :=
  (action_change h).node_other fun hc => ha (Action.touches_of_concerns hc)

/-! ## Settings -/

/-- The merge that the call carries out for `F`, by what it asked: the parts, and the descriptor
they are taken from.  With a node it is carried out only if `stat` happens to be zero. -/
def Action.merges (F : WString) (n : Nodes) (shown : Trace) : Action → Option (DWORD × SecurityDescriptor)
  | .setSecurity fileName r =>
      if fileName = F ∧ (r.stat = ERROR_SUCCESS ∨ n.node F = none) then
        match shown with
        | [⟨.win32 (.setPrivateObjectSecurity parts sd _), .ok _ _⟩] => some (parts, sd)
        | _ => none
      else none
  | _ => none

/-- What the call does to the descriptor of `F`. -/
def settle (env : Env) (F : WString) (w : World O) (l : Action × Trace) (current : SecurityDescriptor) :
    SecurityDescriptor :=
  match l.1.merges F w.nodes (asked l.2) with
  | some (parts, sd) => env.merge parts sd current
  | none => current

/-- If the call may change the node of `F`, it sets its security. -/
def Action.OnlySets (F : WString) (a : Action) : Prop := a.Touches F → ∃ r, a = .setSecurity F r

theorem readSD_congr {n' : Nodes} {k : WString} (h : n'.node k = n.node k) :
    env.readSD n' k = env.readSD n k := by
  unfold Env.readSD
  rw [h]

theorem readSD_some {f : Filenode} (h : n.node F = some f) :
    env.readSD n F = f.security.getDescriptor env.defaultSD := by
  unfold Env.readSD
  rw [h]

theorem readSD_secure {p : Ptr} {s : SecurityInformations} (h : n.findFileNode F = some p) :
    env.readSD (n.secure p s) F = s.getDescriptor env.defaultSD :=
  readSD_some (f := { n.heap p with security := s }) (by rw [Nodes.node_secure h, Function.update_self])

theorem readSD_enter {f : Filenode} (h : n.findFileNode f.fileName = none) :
    env.readSD (n.enter f) f.fileName = f.security.getDescriptor env.defaultSD :=
  readSD_some (by rw [Nodes.node_enter h, Function.update_self])

/-- A setting of `F` leaves the descriptor its merge makes of the one before, or the one before. -/
theorem setSecurity_settles {r : SetCall} (h : Acts env os w (.setSecurity F r, tr) w') :
    env.readSD w'.nodes F = settle env F w (.setSecurity F r, tr) (env.readSD w.nodes F) := by
  obtain ⟨status, hrun⟩ := run_ignore.mp h
  refine ends_setFileSecurity (Q := fun shown _ w' => env.readSD w'.nodes F =
    match (Action.setSecurity F r).merges F w.nodes shown with
    | some (parts, sd) => env.merge parts sd (env.readSD w.nodes F)
    | none => env.readSD w.nodes F) (fun _ w₁ h₁ => ?_) (fun w₁ h₁ => ?_) tr status w' hrun
  · have hnone : (Action.setSecurity F r).merges F w.nodes [] = none := by simp [Action.merges]
    rw [hnone, h₁]
  · cases hf : w.nodes.findFileNode F with
    | some p =>
        have hnode : w.nodes.node F = some (w.nodes.heap p) := by rw [Nodes.node, hf]; rfl
        refine Sat.mono sat_setExisting ?_
        rintro tr status w' ⟨out, ⟨hallowed, -⟩, htr, hend⟩
        rw [h₁] at htr hend hallowed
        rw [htr]
        by_cases hstat : r.stat = ERROR_SUCCESS
        · rw [if_neg fun hne => hne hstat] at hend
          -- what is stored is read back, whether it was merged or not
          have hread : env.readSD w'.nodes F = out.toOption.getD (env.readSD w.nodes F) := by
            rw [hend.2, Nodes.setDescriptor, readSD_secure hf, readSD_some hnode]
            rfl
          rw [hread]
          cases out with
          | fail error => simp [Action.merges, Outcome.toOption]
          | ok merged e =>
              rw [← readSD_some hnode] at hallowed
              have hmerged : merged = env.merge r.parts r.securityDescriptor (env.readSD w.nodes F) :=
                hallowed
              simp [Action.merges, Outcome.toOption, hstat, hmerged]
        · rw [if_pos hstat] at hend
          have hnone : (Action.setSecurity F r).merges F w.nodes
              [⟨.win32 (.setPrivateObjectSecurity r.parts r.securityDescriptor
                ((w.nodes.heap p).security.getDescriptor env.defaultSD)), out⟩] = none := by
            simp [Action.merges, hstat, hnode]
          rw [hnone, hend.2]
    | none =>
        have hnode : w.nodes.node F = none := Nodes.node_eq_none.mpr hf
        have hdefault : env.readSD w.nodes F = env.defaultSD := by
          unfold Env.readSD
          rw [hnode]
        refine Sat.mono sat_setNew ?_
        rintro tr status w' ⟨out, ⟨hallowed, -⟩, htr, hend⟩
        rw [h₁] at hend
        rw [htr]
        cases out with
        | fail error =>
            rw [hend.2.1]
            simp [Action.merges]
        | ok merged e =>
            have hmerged : merged = env.merge r.parts r.securityDescriptor env.defaultSD := hallowed
            have hread : env.readSD w'.nodes F = merged := by
              rw [hend.2]
              exact readSD_enter (f := securedNode env r.stray F r.info merged) hf
            rw [hread, hdefault, hmerged]
            simp [Action.merges, hnode]

/-- **One call** of a session in which `F` is only set. -/
theorem action_settles {l : Action × Trace} (h : Acts env os w l w') (hl : l.1.OnlySets F) :
    env.readSD w'.nodes F = settle env F w l (env.readSD w.nodes F) := by
  obtain ⟨a, tr⟩ := l
  by_cases ha : a.Touches F
  · obtain ⟨r, rfl⟩ := hl ha
    exact setSecurity_settles h
  · have hnone : a.merges F w.nodes (asked tr) = none := by
      cases a with
      | setSecurity fileName r =>
          have hne : fileName ≠ F := ha
          simp [Action.merges, hne]
      | _ => rfl
    rw [readSD_congr (action_keeps h ha), settle, hnone]

/-- **Reading back.**  After a session in which a file is only set, its security is read from what
the merges of the session, in their order, make of the descriptor it had before. -/
theorem session_reads {fileName : WString} {parts bufferLength unset : DWORD} {res : GetFileSecurityResult}
    (h : History.Path (Acts env os) w history) (hF : ∀ e ∈ history, e.1.1.OnlySets fileName)
    (hread : Run (step env os) (mirrorGetFileSecurity env unset fileName parts bufferLength)
      (History.final w history) tr res w') :
    descriptorRead tr =
      some (History.replay (settle env fileName) w history (env.readSD w.nodes fileName)) := by
  rw [run_getFileSecurity hread]
  exact congrArg some (h.view_final (v := fun w : World O => env.readSD w.nodes fileName)
    (C := fun l => l.1.OnlySets fileName) (fun _ _ _ hact hl => action_settles hact hl) hF)

end

/-! ## A file that is set and read -/

/-- The security of `\a` is set, and then read. -/
theorem session_reads_set :
    ∃ tr w' tr' res w'', Acts (.plain false) (mergesAs none) (World.start .none)
        (.setSecurity (wide ['\\', 'a']) (.plain DACL_SECURITY_INFORMATION (.tag 1)), tr) w' ∧
      Run (step (.plain false) (mergesAs none))
        (mirrorGetFileSecurity (.plain false) 0 (wide ['\\', 'a']) DACL_SECURITY_INFORMATION 64) w' tr' res w'' ∧
      descriptorRead tr' = some (settle (.plain false) (wide ['\\', 'a']) (World.start .none)
        (.setSecurity (wide ['\\', 'a']) (.plain DACL_SECURITY_INFORMATION (.tag 1)), tr) (.tag 0)) := by
  obtain ⟨tr, w', hacts⟩ := exists_acts_set (wide ['\\', 'a']) (by decide) (World.start .none)
  have hreturns : Returns (.plain false) (mirrorGetFileSecurity (.plain false) 0 (wide ['\\', 'a'])
      DACL_SECURITY_INFORMATION 64) := returns_getFileSecurity rfl (by decide)
  obtain ⟨tr', res, w'', hget⟩ := hreturns.exists_run mergesAs_total w'
  refine ⟨tr, w', tr', res, w'', hacts, hget, session_reads (.cons hacts .nil) ?_ hget⟩
  intro e he
  rw [List.mem_singleton.mp he]
  exact fun _ => ⟨_, rfl⟩

end SeamlessSmb
