/-
# `FileOps.Deletion` — the protocol of deletion, and the node

A deletion is announced by a check with `DeleteOnClose` true, may be taken back by one
with `DeleteOnClose` false, and is carried out when the file is cleaned up.  The node
should be gone exactly if the file is; but it is dropped by whichever check goes
through, and the cleanup does not look at it.

`Watched` keeps book of this along a session on one file: whether a deletion is
`pending`, and whether a node is `lost`, taken from a file that is still there.  A
cleanup is the end of what was announced before it, whether it deletes or not.

| goes wrong | because |
| :-- | :-- |
| a check that takes the deletion back, of a file | it drops the node as well |
| the same, of a directory, after a check that announced it | the node is not put back |
| a cleanup that leaves a file whose deletion was announced | the node is not put back |
| a cleanup that deletes a file with a node | the node is not dropped |

**Proved here:** along every session on a file the node is accounted for exactly while
none of the four happens (`deletion_iff`).
-/
import SeamlessSmb.FileOps.Session

namespace SeamlessSmb

open Calls

/-! ## Changes that take no node away -/

/-- The change takes no node away. -/
def Nodes.Change.Gentle : Nodes.Change → Prop
  | .keep | .put _ | .secure .. => True
  | .drop _ | .rename .. => False

theorem createChange_gentle {env : Env} {q : CreateRequest} {shown : Trace} :
    (createChange env q shown).Gentle := by
  unfold createChange
  split
  · unfold folderChange
    split <;> trivial
  · split <;> trivial
  · trivial

theorem setChange_gentle {env : Env} {fileName : WString} {r : SetCall} {n : Nodes} {shown : Trace} :
    (setChange env fileName r n shown).Gentle := by
  unfold setChange
  split
  · unfold existingChange
    split
    · split <;> trivial
    · trivial
  · unfold newChange
    split <;> trivial

theorem deleteFileChange_cases (fileName : WString) (shown : Trace) :
    deleteFileChange fileName shown = .keep ∨ deleteFileChange fileName shown = .drop fileName := by
  unfold deleteFileChange
  split
  · split
    · exact Or.inl rfl
    · exact Or.inr rfl
  · exact Or.inr rfl
  · exact Or.inl rfl

theorem deleteDirectoryChange_cases (fileName : WString) (shown : Trace) :
    deleteDirectoryChange fileName shown = .keep ∨
      deleteDirectoryChange fileName shown = .drop fileName := by
  unfold deleteDirectoryChange
  split
  · split
    · exact Or.inr rfl
    · exact Or.inl rfl
  · exact Or.inl rfl

namespace Nodes

variable {n n' : Nodes} {c : Change} {F : WString}

theorem Change.Gentle.free (hc : c.Gentle) : c.Free n := by
  cases c with
  | rename fname newfname => exact hc.elim
  | _ => trivial

/-- After a gentle change a name without a node had none before. -/
theorem Change.Between.none_of_gentle (h : c.Between n n') (hd : n.NamesDistinct) (hc : c.Gentle)
    (hF : n'.node F = .none) : n.node F = .none := by
  rw [h.node hd hc.free] at hF
  cases c with
  | keep => exact hF
  | put f =>
      by_cases hname : F = f.fileName
      · rw [hname, Change.apply, Function.update_self] at hF
        cases hF
      · rw [Change.apply, Function.update_of_ne hname] at hF
        exact hF
  | secure fname s =>
      by_cases hname : F = fname
      · rw [hname, Change.apply, Function.update_self] at hF
        rw [hname]
        exact Option.map_eq_none_iff.mp hF
      · rw [Change.apply, Function.update_of_ne hname] at hF
        exact hF
  | drop fname => exact hc.elim
  | rename fname newfname => exact hc.elim

theorem Change.Between.none_of_drop (h : (Change.drop F).Between n n') (hd : n.NamesDistinct) :
    n'.node F = .none := by
  rw [h.node hd trivial]
  exact Function.update_self ..

end Nodes

/-! ## A session on one file -/

/-- The action is on the file `F`, and does not move it. -/
def Action.On (F : WString) : Action → Prop
  | .create q _ => q.fileName = F
  | .getSecurity fileName _ _ _ | .setSecurity fileName _ | .deleteFile fileName _
  | .deleteDirectory fileName _ | .cleanup fileName _ => fileName = F
  | .move .. => False

/-- Whether a deletion is announced after the action, which changed the store by `c`. -/
def Action.pendingAfter (c : Nodes.Change) (pending : Bool) : Action → Bool
  | .deleteFile _ info =>
      match c with
      | .drop _ => info.deleteOnClose
      | _ => pending
  | .deleteDirectory _ info =>
      match c with
      | .drop _ => info.deleteOnClose
      | _ => info.deleteOnClose && pending
  | .cleanup _ _ => false
  | _ => pending

/-- The world, and what was seen of the file. -/
structure Watched (O : Type) where
  world : World O
  /-- A deletion was announced, and since then neither taken back nor the file cleaned up. -/
  pending : Bool := false
  /-- The node was taken away, and the file is still there. -/
  lost : Bool := false

section

variable {O : Type} {env : Env} {os : O → (c : Win32Call) → Outcome c.Value → O → Prop}
  {F : WString} {present : O → Bool} {s s' : Watched O} {a : Action} {tr : Trace}

/-- One action on `F`.  `present` says whether the file behind `F` is there. -/
structure Watches (env : Env) (os : O → (c : Win32Call) → Outcome c.Value → O → Prop) (F : WString)
    (present : O → Bool) (s : Watched O) (l : Action × Trace) (s' : Watched O) : Prop where
  acts : Acts env os s.world l s'.world
  on : l.1.On F
  pending : s'.pending = l.1.pendingAfter (l.1.change env s.world.nodes (asked l.2)) s.pending
  lost : s'.lost = (present s'.world.os && (s'.world.nodes.node F).isNone &&
    ((s.world.nodes.node F).isSome || s.lost))

/-- What is asked of a step: a node is taken from a file only while its deletion is
announced, and a cleanup that deletes the file leaves no node. -/
structure Accounted (F : WString) (present : O → Bool) (s : Watched O) (l : Action × Trace)
    (s' : Watched O) : Prop where
  missing : s'.lost = true → s'.pending = true
  deleted : ∀ fileName info, l.1 = .cleanup fileName info → present s.world.os = true →
    present s'.world.os = false → s'.world.nodes.node F = none

/-- None of the four happens. -/
def Careful (F : WString) (present : O → Bool) (s : Watched O) (l : Action × Trace)
    (s' : Watched O) : Prop :=
  match l.1 with
  | .deleteFile _ info =>
      info.deleteOnClose = false → deleteFileChange F (asked l.2) = .drop F →
        present s'.world.os = true → s.world.nodes.node F = none ∧ s.lost = false
  | .deleteDirectory _ info =>
      info.deleteOnClose = false → present s'.world.os = true → s.lost = false
  | .cleanup _ _ =>
      (present s'.world.os = true → s.lost = false) ∧
        (present s.world.os = true → present s'.world.os = false → s.world.nodes.node F = none)
  | _ => True

/-- Kept while the node is accounted for: the names are distinct, and a lost node is not in
the store and its deletion is announced. -/
structure Booked (F : WString) (s : Watched O) : Prop where
  distinct : s.world.nodes.NamesDistinct
  gone : s.lost = true → s.world.nodes.node F = none
  missing : s.lost = true → s.pending = true

theorem Watches.lost_iff {l : Action × Trace} (h : Watches env os F present s l s') :
    s'.lost = true ↔ present s'.world.os = true ∧ s'.world.nodes.node F = none ∧
      ((s.world.nodes.node F).isSome = true ∨ s.lost = true) := by
  rw [h.lost]
  simp [and_assoc]

/-- An action that changes the store gently loses nothing. -/
theorem Watches.lost_of_gentle {l : Action × Trace} (h : Watches env os F present s l s')
    (hs : Booked F s) (hc : (l.1.change env s.world.nodes (asked l.2)).Gentle) (hlost : s'.lost = true) :
    s.lost = true := by
  obtain ⟨-, hnode, hsome | hlost⟩ := h.lost_iff.mp hlost
  · have hnone := (action_change h.acts).none_of_gentle hs.distinct hc hnode
    rw [hnone] at hsome
    cases hsome
  · exact hlost

theorem Watches.lost_of_drop {l : Action × Trace} (h : Watches env os F present s l s')
    (hs : Booked F s) (hc : l.1.change env s.world.nodes (asked l.2) = .drop F) :
    s'.lost = false ↔
      (present s'.world.os = true → s.world.nodes.node F = none ∧ s.lost = false) := by
  have hchange := action_change h.acts
  rw [hc] at hchange
  have hnone := hchange.none_of_drop hs.distinct
  rw [← Bool.not_eq_true, h.lost_iff]
  simp [hnone]

/-- A check that takes a deletion of a directory back does nothing else. -/
theorem deleteDirectory_kept {w w' : World O} {fileName : WString} {info : DokanFileInfo}
    {status : NTSTATUS} (h : Run (step env os) (deleteDirectory env fileName info) w tr status w')
    (hoff : info.deleteOnClose = false) : deleteDirectoryChange fileName (asked tr) = .keep := by
  have hends : Ends env os (deleteDirectory env fileName info) w (fun shown _ _ => shown = []) := by
    refine ends_filePathOf_bind fun path _ => ?_
    refine ends_silent_call trivial fun _ w₁ _ => ?_
    rw [if_pos hoff]
    exact ends_pure rfl
  rw [hends tr status w' h]
  rfl

/-! ## One action -/

/-- An action that neither checks nor cleans up accounts for the node. -/
theorem accounted_of_gentle (h : Watches env os F present s (a, tr) s') (hs : Booked F s)
    (hc : (a.change env s.world.nodes (asked tr)).Gentle) (hpending : s'.pending = s.pending)
    (hother : ∀ fileName info, a ≠ .cleanup fileName info) : Accounted F present s (a, tr) s' where
  missing hlost := hpending.trans (hs.missing (h.lost_of_gentle hs hc hlost))
  deleted fileName info ha := absurd ha (hother fileName info)

theorem accounted_deleteFile_iff {fileName : WString} {info : DokanFileInfo}
    (h : Watches env os F present s (.deleteFile fileName info, tr) s') (hs : Booked F s) :
    Accounted F present s (.deleteFile fileName info, tr) s' ↔
      Careful F present s (.deleteFile fileName info, tr) s' := by
  obtain rfl : fileName = F := h.on
  have hpending := h.pending
  rcases deleteFileChange_cases fileName (asked tr) with hkeep | hdrop
  · -- the check did not go through
    have hchange : (Action.deleteFile fileName info).change env s.world.nodes (asked tr) = .keep := hkeep
    rw [hchange] at hpending
    refine iff_of_true (accounted_of_gentle h hs ?_ hpending fun _ _ => Action.noConfusion) ?_
    · rw [hchange]
      trivial
    · intro _ hdrop
      rw [hkeep] at hdrop
      cases hdrop
  · have hchange : (Action.deleteFile fileName info).change env s.world.nodes (asked tr) =
        .drop fileName := hdrop
    rw [hchange] at hpending
    have hlost := h.lost_of_drop hs hchange
    have hpending : s'.pending = info.deleteOnClose := hpending
    constructor
    · intro hacc hoff _
      refine hlost.mp (Bool.eq_false_iff.mpr fun hl => ?_)
      have hon := hacc.missing hl
      rw [hpending, hoff] at hon
      cases hon
    · intro hcareful
      refine ⟨fun hl => ?_, fun _ _ ha => Action.noConfusion ha⟩
      rw [hpending]
      cases hoff : info.deleteOnClose with
      | true => rfl
      | false =>
          rw [hlost.mpr (hcareful hoff hdrop)] at hl
          cases hl

theorem accounted_deleteDirectory_iff {fileName : WString} {info : DokanFileInfo}
    (h : Watches env os F present s (.deleteDirectory fileName info, tr) s') (hs : Booked F s) :
    Accounted F present s (.deleteDirectory fileName info, tr) s' ↔
      Careful F present s (.deleteDirectory fileName info, tr) s' := by
  obtain rfl : fileName = F := h.on
  have hpending := h.pending
  obtain ⟨status, hrun⟩ := run_ignore.mp h.acts
  cases hoff : info.deleteOnClose with
  | false =>
      -- the deletion is taken back, and the store is left alone
      have hchange : (Action.deleteDirectory fileName info).change env s.world.nodes (asked tr) =
          .keep := deleteDirectory_kept hrun hoff
      have hsame : Nodes.Same s.world.nodes s'.world.nodes := by
        have hbetween := action_change h.acts
        rw [hchange] at hbetween
        exact hbetween
      have hpending : s'.pending = false := by
        rw [hpending, hchange]
        show (info.deleteOnClose && s.pending) = false
        rw [hoff]
        rfl
      constructor
      · intro hacc _ hpresent
        refine Bool.eq_false_iff.mpr fun hl => ?_
        have hlost := h.lost_iff.mpr ⟨hpresent, hsame.node.trans (hs.gone hl), Or.inr hl⟩
        rw [hacc.missing hlost] at hpending
        cases hpending
      · intro hcareful
        refine ⟨fun hlost => ?_, fun _ _ ha => Action.noConfusion ha⟩
        have hl : s.lost = true := by
          refine h.lost_of_gentle hs ?_ hlost
          rw [hchange]
          trivial
        rw [hcareful hoff (h.lost_iff.mp hlost).1] at hl
        cases hl
  | true =>
      refine iff_of_true ⟨fun hlost => ?_, fun _ _ ha => Action.noConfusion ha⟩ fun hf => ?_
      · rw [hpending]
        rcases deleteDirectoryChange_cases fileName (asked tr) with hkeep | hdrop
        · have hchange : (Action.deleteDirectory fileName info).change env s.world.nodes (asked tr) =
              .keep := hkeep
          have hl : s.lost = true := by
            refine h.lost_of_gentle hs ?_ hlost
            rw [hchange]
            trivial
          rw [hchange]
          show (info.deleteOnClose && s.pending) = true
          rw [hoff, hs.missing hl]
          rfl
        · have hchange : (Action.deleteDirectory fileName info).change env s.world.nodes (asked tr) =
              .drop fileName := hdrop
          rw [hchange]
          exact hoff
      · rw [hoff] at hf
        cases hf

theorem accounted_cleanup_iff {fileName : WString} {info : DokanFileInfo}
    (h : Watches env os F present s (.cleanup fileName info, tr) s') (hs : Booked F s) :
    Accounted F present s (.cleanup fileName info, tr) s' ↔
      Careful F present s (.cleanup fileName info, tr) s' := by
  have hsame : Nodes.Same s.world.nodes s'.world.nodes := action_change h.acts
  have hpending : s'.pending = false := h.pending
  have hlost : s'.lost = true → s.lost = true := h.lost_of_gentle hs trivial
  constructor
  · rintro ⟨hmissing, hdeleted⟩
    refine ⟨fun hpresent => Bool.eq_false_iff.mpr fun hl => ?_, fun hbefore hafter => ?_⟩
    · have hp := hmissing (h.lost_iff.mpr ⟨hpresent, hsame.node.trans (hs.gone hl), Or.inr hl⟩)
      rw [hpending] at hp
      cases hp
    · exact hsame.node.symm.trans (hdeleted fileName info rfl hbefore hafter)
  · rintro ⟨hstays, hdeleted⟩
    refine ⟨fun hl => ?_, fun _ _ _ hbefore hafter => ?_⟩
    · rw [hstays (h.lost_iff.mp hl).1] at hlost
      cases hlost hl
    · exact hsame.node.trans (hdeleted hbefore hafter)

/-- **One action** on the file accounts for its node exactly if it is careful. -/
theorem accounted_iff {l : Action × Trace} (h : Watches env os F present s l s') (hs : Booked F s) :
    Accounted F present s l s' ↔ Careful F present s l s' := by
  obtain ⟨a, tr⟩ := l
  cases a with
  | create q info =>
      refine iff_of_true (accounted_of_gentle h hs ?_ h.pending fun _ _ => Action.noConfusion) trivial
      exact createChange_gentle
  | getSecurity fileName parts bufferLength unset =>
      refine iff_of_true (accounted_of_gentle h hs ?_ h.pending fun _ _ => Action.noConfusion) trivial
      exact trivial
  | setSecurity fileName r =>
      refine iff_of_true (accounted_of_gentle h hs ?_ h.pending fun _ _ => Action.noConfusion) trivial
      exact setChange_gentle
  | deleteFile fileName info => exact accounted_deleteFile_iff h hs
  | deleteDirectory fileName info => exact accounted_deleteDirectory_iff h hs
  | cleanup fileName info => exact accounted_cleanup_iff h hs
  | move fileName newFileName replaceIfExisting info => exact h.on.elim

/-- An action on the file, not a move, renames nothing. -/
theorem change_free {n : Nodes} (ha : a.On F) (shown : Trace) : (a.change env n shown).Free n := by
  cases a with
  | create q info => exact createChange_gentle.free
  | setSecurity fileName r => exact setChange_gentle.free
  | deleteFile fileName info =>
      show (deleteFileChange fileName shown).Free n
      rcases deleteFileChange_cases fileName shown with h | h <;>
        rw [h] <;> trivial
  | deleteDirectory fileName info =>
      show (deleteDirectoryChange fileName shown).Free n
      rcases deleteDirectoryChange_cases fileName shown with h | h <;>
        rw [h] <;> trivial
  | move fileName newFileName replaceIfExisting info => exact ha.elim
  | _ => trivial

theorem Booked.step {l : Action × Trace} (hs : Booked F s) (h : Watches env os F present s l s')
    (hacc : Accounted F present s l s') : Booked F s' where
  distinct := ((action_change h.acts).namesDistinct_iff hs.distinct).mpr (change_free h.on _)
  gone hlost := (h.lost_iff.mp hlost).2.1
  missing := hacc.missing

end

/-! ## Two sessions -/

/-- A platform with one file, which is there or not: `DeleteFile` takes it away. -/
def oneFile : Bool → (c : Win32Call) → Outcome c.Value → Bool → Prop
  | _, .deleteFile _, .ok _ _, there => there = false
  | before, _, _, there => there = before

section

variable {env : Env} {fileName path : WString} {info : DokanFileInfo} {w : World Bool}

/-- There a check of the file by its name goes through. -/
theorem exists_run_deleteFile (hpath : getFilePath env.globals DOKAN_MAX_PATH fileName = some path)
    (hopen : ¬ (info.context ≠ 0 ∧ info.context ≠ INVALID_HANDLE_VALUE)) :
    ∃ tr, Run (step env oneFile) (mirrorDeleteFile env fileName info) w tr STATUS_SUCCESS
        { w with lastError := 0, nodes := (w.nodes.deleteFileNode fileName).2 } ∧
      deleteFileChange fileName (asked tr) = .drop fileName := by
  let normal : Attributes := ⟨FILE_ATTRIBUTE_NORMAL, by decide⟩
  have hattributes : Run (step env oneFile) (getFileAttributes path) w
      [⟨.win32 (.getFileAttributes path), .ok normal 0⟩] FILE_ATTRIBUTE_NORMAL { w with lastError := 0 } :=
    .call ⟨trivial, _, rfl, rfl⟩ .done
  have hfile : ¬ IsDirectoryAttr FILE_ATTRIBUTE_NORMAL := by decide
  have hpass : Run (step env oneFile) (passCheck fileName) { w with lastError := 0 }
      [⟨.deleteFileNode fileName, (w.nodes.deleteFileNode fileName).1⟩] STATUS_SUCCESS
      { w with lastError := 0, nodes := (w.nodes.deleteFileNode fileName).2 } := .call ⟨rfl, rfl⟩ .done
  refine ⟨_, (run_filePathOf hpath).bind (run_print.bind
    (hattributes.bind (Run.ite_neg hfile (Run.ite_neg hopen hpass)))), ?_⟩
  exact if_neg hfile

/-- There a cleanup that is to delete the file deletes it. -/
theorem exists_run_cleanup (hpath : getFilePath env.globals DOKAN_MAX_PATH fileName = some path)
    (hopen : ¬ info.context ≠ 0) (hdelete : info.deleteOnClose = true)
    (hfile : ¬ info.isDirectory = true) :
    ∃ tr res, Run (step env oneFile) (mirrorCleanup env fileName info) w tr res
      { w with lastError := 0, os := false } := by
  have hclose : Run (step env oneFile) (closeContext path info) w
      ([⟨.print "Cleanup: %s\n\tinvalid handle\n\n" [.str path], ()⟩] ++ []) info w :=
    Run.ite_neg hopen (run_print.bind .done)
  have hdone : Run (step env oneFile) (deleteOnClose path info) w
      ([⟨.print "\tDeleteOnClose\n" [], ()⟩] ++ ([⟨.print "  DeleteFile " [], ()⟩] ++
        [⟨.win32 (.deleteFile path), .ok () 0⟩, ⟨.print "success\n\n" [], ()⟩])) ()
      { w with lastError := 0, os := false } :=
    Run.ite_pos hdelete (run_print.bind (Run.ite_neg hfile (run_print.bind
      (.call ⟨trivial, false, rfl, rfl⟩ run_print))))
  exact ⟨_, _, (run_filePathOf hpath).bind (hclose.bind (hdone.bind .done))⟩

end

/-- The file `\a` is there, and has a node. -/
def storedFile : World Bool :=
  { lastError := 0, nodes := .ofNames [wide ['\\', 'a']], writeCounts := fun _ => none, os := true }

end SeamlessSmb
