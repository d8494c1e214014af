/-
# `FileOps.Move` — renaming a file or a directory

`MirrorMoveFile` has the platform rename the backing file and then renames one node:
the one stored under the old name gets the new name as it was passed.  A directory
takes the files below it along, a stream's new name is relative to its file, and a file
that is replaced may have a node of its own; of these the callback knows nothing.

**Proved here:** the lookups come out as the renaming asks for (`Moved`) exactly when
the target is no stream name and no other node is at or below the file or below the
target, nor in front of the file under the target's name (`move_correct_iff`).
-/
import SeamlessSmb.FileOps.World

namespace SeamlessSmb

open Calls

/-! ## The callback -/

def colon : WCHAR := wchar ':'

/-- The path `MirrorMoveFile` passes on: a stream name is not mapped. -/
def newPathOf (g : Globals) (newFileName : WString) : Op WString :=
  if newFileName.length ≠ 0 ∧ newFileName.head? ≠ some colon then filePathOf g newFileName
  else
    match wcsncpyS DOKAN_MAX_PATH newFileName newFileName.length with
    | some path => pure path
    | none => .call .invalidParameter Empty.elim

/-- `sizeof(FILE_RENAME_INFO)`. -/
def FILE_RENAME_INFO_SIZE : Nat := 24

/-- `MirrorMoveFile`. -/
def mirrorMoveFile (env : Env) (fileName newFileName : WString) (replaceIfExisting : Bool)
    (info : DokanFileInfo) : Op NTSTATUS := do
  let filePath ← filePathOf env.globals fileName
  let newFilePath ← newPathOf env.globals newFileName
  print "MoveFile %s -> %s\n\n" [.str filePath, .str newFilePath]
  if info.context = 0 ∨ info.context = INVALID_HANDLE_VALUE then do
    print "\tinvalid handle\n\n"
    pure STATUS_INVALID_HANDLE
  else do
    let renameInfo ← win32 (.malloc (BitVec.ofNat 32 (FILE_RENAME_INFO_SIZE + newFilePath.length * 2)))
    match renameInfo with
    | .fail _ => pure STATUS_BUFFER_OVERFLOW
    | .ok _ _ => do
        let result ← win32 (.setFileRenameInfo info.context replaceIfExisting newFilePath)
        match result with
        | .ok _ _ => do
            let _ ← Prog.perform (Call.rename fileName newFileName)
            pure STATUS_SUCCESS
        | .fail _ => do
            let error ← getLastError
            print "\tMoveFile error = %u\n" [.num error]
            pure (env.ntStatusFromWin32 error)

/-- What a move does to the store, by what it asked. -/
def moveChange (fileName newFileName : WString) : Trace → Nodes.Change
  | [⟨.win32 (.setFileRenameInfo ..), .ok _ _⟩] => .rename fileName newFileName
  | _ => .keep

section

variable {O : Type} {env : Env} {os : O → (c : Win32Call) → Outcome c.Value → O → Prop}
  {w w' : World O} {fileName newFileName : WString} {replaceIfExisting : Bool}
  {info : DokanFileInfo} {tr : Trace} {status : NTSTATUS}

theorem ends_newPathOf_bind {α : Type} {g : Globals} {k : WString → Op α}
    {Q : Trace → α → World O → Prop} (h : ∀ path, Ends env os (k path) w Q) :
    Ends env os (newPathOf g newFileName >>= k) w Q := by
  unfold newPathOf
  split
  · exact ends_filePathOf_bind fun path _ => h path
  · cases wcsncpyS DOKAN_MAX_PATH newFileName newFileName.length with
    | some path => exact ends_bind (ends_pure (h path))
    | none => exact sat_bind.mpr (sat_call.mpr fun r => r.elim)

/-- **Moving is a change of the store.** -/
theorem move_change
    (h : Run (step env os) (mirrorMoveFile env fileName newFileName replaceIfExisting info) w tr
      status w') :
    (moveChange fileName newFileName (asked tr)).Between w.nodes w'.nodes := by
  have hends : Ends env os (mirrorMoveFile env fileName newFileName replaceIfExisting info) w
      (fun shown _ w' => (moveChange fileName newFileName shown).Between w.nodes w'.nodes) := by
    refine ends_filePathOf_bind fun path _ => ends_newPathOf_bind fun newPath => ?_
    refine ends_silent_call trivial fun _ w₁ h₁ => ?_
    split
    · refine ends_silent_call trivial fun _ w₂ h₂ => ends_pure ?_
      exact Nodes.Same.of_eq (h₂.trans h₁)
    · refine ends_silent_call rfl fun renameInfo w₂ h₂ => ?_
      have h₂ : w₂.nodes = w.nodes := h₂.trans h₁
      cases renameInfo with
      | fail e => exact ends_pure (Nodes.Same.of_eq h₂)
      | ok u e =>
          refine ends_win32_bind fun result w₃ h₃ => ?_
          have hn₃ : w₃.nodes = w.nodes := h₃.trans h₂
          cases result with
          | fail e =>
              refine ends_silent_call trivial fun _ w₄ h₄ => ?_
              refine ends_silent_call trivial fun _ w₅ h₅ => ends_pure ?_
              exact Nodes.Same.of_eq (h₅.trans (h₄.trans hn₃))
          | ok u e =>
              refine ends_call fun _ w₄ ⟨_, h₄⟩ => ends_pure (Nodes.Same.of_eq ?_)
              rw [h₄, ← hn₃]
  exact hends tr status w' h

end

/-! ## What a move should do -/

/-- The full name of the target: a stream name stands for a stream of the file. -/
def moveTarget (fileName newFileName : WString) : WString :=
  if newFileName.head? = some colon then fileName.takeWhile (· ≠ colon) ++ newFileName
  else newFileName

/-- What continues a name at or below it. -/
def Continues (s : WString) : Prop := s = [] ∨ ∃ t, s = backslash :: t

/-- The lookups after `source` was moved to `target`. -/
structure Moved (n n' : Nodes) (source target : WString) : Prop where
  atTarget : ∀ s, Continues s → n'.findFileNode (target ++ s) = n.findFileNode (source ++ s)
  atSource : ∀ p, Inside source p → ¬ Inside target p → n'.findFileNode p = none
  elsewhere : ∀ p, ¬ Inside source p → ¬ Inside target p → n'.findFileNode p = n.findFileNode p

/-- The nodes are such that renaming one node moves all there is to move. -/
def MoveSafe (n : Nodes) (fileName newFileName : WString) : Prop :=
  match n.findFileNode fileName with
  | none =>
      moveTarget fileName newFileName = fileName ∨
        ∀ q ∈ n.filenodes, ¬ Inside fileName (n.name q) ∧
          ¬ Inside (moveTarget fileName newFileName) (n.name q)
  | some f =>
      moveTarget fileName newFileName = newFileName ∧
        (newFileName = fileName ∨
          (n.filenodes.find? fun q => q = f ∨ n.name q = newFileName) = some f ∧
          ∀ q ∈ n.filenodes, q ≠ f → ¬ Inside fileName (n.name q) ∧
            ∀ t, n.name q ≠ newFileName ++ backslash :: t)

section

variable {n n' : Nodes} {fileName newFileName target : WString} {f : Ptr}

theorem inside_iff {root p : WString} : Inside root p ↔ ∃ s, Continues s ∧ p = root ++ s := by
  constructor
  · rintro (rfl | ⟨t, rfl⟩)
    · exact ⟨[], Or.inl rfl, (List.append_nil _).symm⟩
    · exact ⟨backslash :: t, Or.inr ⟨t, rfl⟩, rfl⟩
  · rintro ⟨s, hs, rfl⟩
    exact inside_append.mpr hs

theorem findFileNode_isSome_of_mem {q : Ptr} (hq : q ∈ n.filenodes) :
    ∃ q', n.findFileNode (n.name q) = some q' := by
  cases hf : n.findFileNode (n.name q) with
  | some q' => exact ⟨q', rfl⟩
  | none => exact absurd rfl (Nodes.findFileNode_eq_none.mp hf q hq)

/-- A store that does not change has moved nothing only if there was nothing. -/
theorem moved_self_iff (hne : target ≠ fileName) :
    Moved n n fileName target ↔
      ∀ q ∈ n.filenodes, ¬ Inside fileName (n.name q) ∧ ¬ Inside target (n.name q) := by
  constructor
  · intro h q hq
    obtain ⟨q', hq'⟩ := findFileNode_isSome_of_mem hq
    refine ⟨fun hin => ?_, fun hin => ?_⟩
    · obtain ⟨s, hs, hname⟩ := inside_iff.mp hin
      rw [hname] at hq'
      have htarget := Nodes.findFileNode_name ((h.atTarget s hs).trans hq')
      exact hne (List.append_cancel_right (htarget.symm.trans (Nodes.findFileNode_name hq')))
    · obtain ⟨s, hs, hname⟩ := inside_iff.mp hin
      rw [hname] at hq'
      have hsource := Nodes.findFileNode_name ((h.atTarget s hs).symm.trans hq')
      exact hne (List.append_cancel_right ((Nodes.findFileNode_name hq').symm.trans hsource))
  · intro h
    have hfree : ∀ p, Inside fileName p ∨ Inside target p → n.findFileNode p = none := by
      intro p hp
      refine Nodes.findFileNode_eq_none.mpr fun q hq hname => ?_
      rw [← hname] at hp
      exact hp.elim (h q hq).1 (h q hq).2
    refine ⟨fun s hs => ?_, fun p hp _ => hfree p (Or.inl hp), fun p _ _ => rfl⟩
    rw [hfree _ (Or.inr (inside_append.mpr hs)), hfree _ (Or.inl (inside_append.mpr hs))]

/-- The renamed node is found under the new name, if nothing stands in front of it. -/
theorem find_rename_target (hf : n.findFileNode fileName = some f) :
    (n.rename fileName newFileName).2.findFileNode newFileName =
      n.filenodes.find? fun q => q = f ∨ n.name q = newFileName := by
  rw [Nodes.findFileNode_rename hf]
  unfold Keyed.first
  congr 1
  funext q
  by_cases hq : q = f
  · rw [hq, Keyed.rekey_self]
    simp
  · rw [Keyed.rekey_of_ne hq]
    simp [hq]

/-- A node other than the renamed one is found under its own name still. -/
theorem find_rename_other (hf : n.findFileNode fileName = some f) {q : Ptr} (hq : q ∈ n.filenodes)
    (hqf : q ≠ f) : ∃ q', (n.rename fileName newFileName).2.findFileNode (n.name q) = some q' ∧
      (n.name q ≠ newFileName → q' ≠ f ∧ n.name q' = n.name q) := by
  rw [Nodes.findFileNode_rename hf]
  cases hfind : Keyed.first (Keyed.rekey n.name f newFileName) n.filenodes (n.name q) with
  | none => exact absurd (Keyed.rekey_of_ne hqf) (Keyed.first_eq_none.mp hfind q hq)
  | some q' =>
      have hkey := Keyed.first_key hfind
      refine ⟨q', rfl, fun hne => ?_⟩
      have hq' : q' ≠ f := by
        intro he
        rw [he, Keyed.rekey_self] at hkey
        exact hne hkey.symm
      rw [Keyed.rekey_of_ne hq'] at hkey
      exact ⟨hq', hkey⟩

/-- Nothing is found under a name that only the renamed node had, or nobody. -/
theorem find_rename_none (hf : n.findFileNode fileName = some f) {p : WString}
    (hp : p ≠ newFileName) (hfree : ∀ q ∈ n.filenodes, q ≠ f → n.name q ≠ p) :
    (n.rename fileName newFileName).2.findFileNode p = none := by
  rw [Nodes.findFileNode_rename hf, Keyed.first_eq_none]
  intro q hq hkey
  by_cases hqf : q = f
  · rw [hqf, Keyed.rekey_self] at hkey
    exact hp hkey.symm
  · rw [Keyed.rekey_of_ne hqf] at hkey
    exact hfree q hq hqf hkey

theorem rename_self (hf : n.findFileNode fileName = some f) {p : WString} :
    (n.rename fileName fileName).2.findFileNode p = n.findFileNode p := by
  rw [Nodes.findFileNode_rename hf, Nodes.findFileNode_eq]
  refine Keyed.first_congr fun q hq => ?_
  by_cases hqf : q = f
  · rw [hqf, Keyed.rekey_self]
    exact (Nodes.findFileNode_name hf).symm
  · exact Keyed.rekey_of_ne hqf

/-- What a move must leave, the renaming leaves only if nothing else was to be moved. -/
theorem alone_of_moved (hf : n.findFileNode fileName = some f) (hne : newFileName ≠ fileName)
    (h : Moved n (n.rename fileName newFileName).2 fileName newFileName) :
    ∀ q ∈ n.filenodes, q ≠ f → ¬ Inside fileName (n.name q) ∧
      ∀ t, n.name q ≠ newFileName ++ backslash :: t := by
  have hbelow : ∀ {root : WString} {t : WString}, root ++ backslash :: t ≠ root :=
    fun h => List.cons_ne_nil _ _ (List.append_right_eq_self.mp h)
  intro q hq hqf
  have hother : ∃ q', (n.rename fileName newFileName).2.findFileNode (n.name q) = some q' ∧
      (n.name q ≠ newFileName → q' ≠ f ∧ n.name q' = n.name q) := find_rename_other hf hq hqf
  obtain ⟨q', hq', hname⟩ := hother
  refine ⟨fun hin => ?_, fun t ht => ?_⟩
  · rcases hin with hself | ⟨t, ht⟩
    · -- a second node of the file's own name
      rw [hself] at hq' hname
      obtain ⟨_, hname'⟩ := hname hne.symm
      by_cases hin : Inside newFileName fileName
      · obtain ⟨s, hs, hpath⟩ := inside_iff.mp hin
        have hsource := h.atTarget s hs
        rw [← hpath, hq'] at hsource
        have hlong := hname'.symm.trans (Nodes.findFileNode_name hsource.symm)
        rw [List.append_right_eq_self.mp hlong.symm, List.append_nil] at hpath
        exact hne hpath.symm
      · rw [h.atSource fileName (Or.inl rfl) hin] at hq'
        cases hq'
    · -- a node below the file would have to be found below the target
      obtain ⟨q'', hq''⟩ := findFileNode_isSome_of_mem hq
      rw [ht] at hq''
      have htarget := (h.atTarget (backslash :: t) (Or.inr ⟨t, rfl⟩)).trans hq''
      rw [Nodes.findFileNode_rename hf] at htarget
      have hkey := Keyed.first_key htarget
      by_cases hqf'' : q'' = f
      · rw [hqf'', Keyed.rekey_self] at hkey
        exact hbelow hkey.symm
      · rw [Keyed.rekey_of_ne hqf''] at hkey
        exact hne (List.append_cancel_right (hkey.symm.trans (Nodes.findFileNode_name hq'')))
  · -- a node below the target answers for the path below the file
    have hne' : n.name q ≠ newFileName := by
      rw [ht]
      exact hbelow
    have hsource := h.atTarget (backslash :: t) (Or.inr ⟨t, rfl⟩)
    rw [← ht, hq'] at hsource
    have hname' := Nodes.findFileNode_name hsource.symm
    rw [(hname hne').2, ht] at hname'
    exact hne (List.append_cancel_right hname')

/-- If nothing else was to be moved, the renaming leaves what a move must leave. -/
theorem moved_of_alone (hf : n.findFileNode fileName = some f)
    (hfront : (n.filenodes.find? fun q => q = f ∨ n.name q = newFileName) = some f)
    (halone : ∀ q ∈ n.filenodes, q ≠ f → ¬ Inside fileName (n.name q) ∧
      ∀ t, n.name q ≠ newFileName ++ backslash :: t) :
    Moved n (n.rename fileName newFileName).2 fileName newFileName := by
  have hbelow : ∀ {root : WString} {t : WString}, root ++ backslash :: t ≠ root :=
    fun h => List.cons_ne_nil _ _ (List.append_right_eq_self.mp h)
  refine ⟨fun s hs => ?_, fun p hp hnot => ?_, fun p hp hnot => ?_⟩
  · rcases hs with rfl | ⟨t, rfl⟩
    · rw [List.append_nil, List.append_nil, hf, find_rename_target hf, hfront]
    · rw [find_rename_none hf hbelow fun q hq hqf => (halone q hq hqf).2 t]
      refine (Nodes.findFileNode_eq_none.mpr fun q hq hname => ?_).symm
      by_cases hqf : q = f
      · rw [hqf, Nodes.findFileNode_name hf] at hname
        exact hbelow hname.symm
      · exact (halone q hq hqf).1 (Or.inr ⟨t, hname⟩)
  · refine find_rename_none hf (fun he => hnot (Or.inl he)) fun q hq hqf hname => ?_
    exact (halone q hq hqf).1 (hname ▸ hp)
  · rw [Nodes.findFileNode_rename hf, Nodes.findFileNode_eq]
    refine Keyed.first_rekey_of_ne (fun he => ?_) fun he => hnot (Or.inl he.symm)
    rw [Nodes.findFileNode_name hf] at he
    exact hp (Or.inl he.symm)

/-- Renaming one node moves what is to be moved exactly if the store is such. -/
theorem moved_rename_iff :
    Moved n (n.rename fileName newFileName).2 fileName (moveTarget fileName newFileName) ↔
      MoveSafe n fileName newFileName := by
  unfold MoveSafe
  cases hf : n.findFileNode fileName with
  | none =>
      rw [Nodes.rename_none hf]
      by_cases htarget : moveTarget fileName newFileName = fileName
      · rw [htarget]
        refine iff_of_true ⟨fun s _ => rfl, fun p hp hnot => absurd hp hnot, fun p _ _ => rfl⟩ ?_
        exact Or.inl rfl
      · rw [moved_self_iff htarget]
        exact (or_iff_right htarget).symm
  | some f =>
      constructor
      · intro h
        -- the renamed node is found under the target, so that is its name
        have hroot := h.atTarget [] (Or.inl rfl)
        rw [List.append_nil, List.append_nil, hf, Nodes.findFileNode_rename hf] at hroot
        have htarget : newFileName = moveTarget fileName newFileName := by
          rw [← Keyed.first_key hroot, Keyed.rekey_self]
        rw [← htarget] at h
        refine ⟨htarget.symm, ?_⟩
        by_cases hne : newFileName = fileName
        · exact Or.inl hne
        · refine Or.inr ⟨?_, alone_of_moved hf hne h⟩
          rw [← find_rename_target hf, Nodes.findFileNode_rename hf, htarget]
          rw [← htarget] at hroot ⊢
          exact hroot
      · rintro ⟨htarget, hself | ⟨hfront, halone⟩⟩
        · rw [htarget, hself]
          exact ⟨fun s _ => rename_self hf, fun p hp hnot => absurd hp hnot,
            fun p _ _ => rename_self hf⟩
        · rw [htarget]
          exact moved_of_alone hf hfront halone

theorem Moved.same {m m' : Nodes} (hm : Nodes.Same m m') :
    Moved n m' fileName target ↔ Moved n m fileName target := by
  constructor
  · intro h
    exact ⟨fun s hs => hm.findFileNode.symm.trans (h.atTarget s hs),
      fun p hp hnot => hm.findFileNode.symm.trans (h.atSource p hp hnot),
      fun p hp hnot => hm.findFileNode.symm.trans (h.elsewhere p hp hnot)⟩
  · intro h
    exact ⟨fun s hs => hm.findFileNode.trans (h.atTarget s hs),
      fun p hp hnot => hm.findFileNode.trans (h.atSource p hp hnot),
      fun p hp hnot => hm.findFileNode.trans (h.elsewhere p hp hnot)⟩

end

/-! ## Runs that rename -/

/-- The platform was asked to rename the file, and did. -/
def Renamed (tr : Trace) : Prop :=
  ∃ handle replaceIfExists path lastError,
    asked tr = [⟨.win32 (.setFileRenameInfo handle replaceIfExists path), .ok () lastError⟩]

section

variable {O : Type} {env : Env} {os : O → (c : Win32Call) → Outcome c.Value → O → Prop}
  {w w' : World O} {fileName newFileName : WString} {replaceIfExisting : Bool}
  {info : DokanFileInfo} {tr : Trace} {status : NTSTATUS}

theorem moved_run_iff
    (h : Run (step env os) (mirrorMoveFile env fileName newFileName replaceIfExisting info) w tr
      status w')
    (hok : Renamed tr) :
    Moved w.nodes w'.nodes fileName (moveTarget fileName newFileName) ↔
      Moved w.nodes (w.nodes.rename fileName newFileName).2 fileName
        (moveTarget fileName newFileName) := by
  obtain ⟨handle, replaceIfExists, path, lastError, hasked⟩ := hok
  have hchange := move_change h
  rw [hasked] at hchange
  exact Moved.same hchange

/-- **Moving** comes out right exactly when there is only the file's own node to move, and
no stream to be named. -/
theorem move_correct_iff
    (h : Run (step env os) (mirrorMoveFile env fileName newFileName replaceIfExisting info) w tr
      status w')
    (hok : Renamed tr) :
    Moved w.nodes w'.nodes fileName (moveTarget fileName newFileName) ↔
      MoveSafe w.nodes fileName newFileName :=
  (moved_run_iff h hok).trans moved_rename_iff

end

/-- A platform that may answer anything can rename a file with an open handle. -/
theorem exists_run_move {env : Env} {fileName newFileName path newPath : WString} {w : World Unit}
    {info : DokanFileInfo} (hpath : getFilePath env.globals DOKAN_MAX_PATH fileName = some path)
    (hnewPath : getFilePath env.globals DOKAN_MAX_PATH newFileName = some newPath)
    (hstream : newFileName.length ≠ 0 ∧ newFileName.head? ≠ some colon)
    (hopen : ¬ (info.context = 0 ∨ info.context = INVALID_HANDLE_VALUE)) :
    ∃ tr status w', Run (step env fun _ _ _ _ => True)
      (mirrorMoveFile env fileName newFileName true info) w tr status w' ∧ Renamed tr := by
  have hnew : Run (step env fun _ _ _ _ => True) (newPathOf env.globals newFileName) w [] newPath w := by
    unfold newPathOf
    rw [if_pos hstream]
    exact run_filePathOf hnewPath
  let size := BitVec.ofNat 32 (FILE_RENAME_INFO_SIZE + newPath.length * 2)
  have hrun : Run (step env fun _ _ _ _ => True)
      (mirrorMoveFile env fileName newFileName true info) w
      ([] ++ ([] ++ ([⟨.print "MoveFile %s -> %s\n\n" [.str path, .str newPath], ()⟩] ++
        [⟨.win32 (.malloc size), .ok () 0⟩,
          ⟨.win32 (.setFileRenameInfo info.context true newPath), .ok () 0⟩,
          ⟨.rename fileName newFileName, (w.nodes.rename fileName newFileName).1⟩])))
      STATUS_SUCCESS
      { w with lastError := 0, nodes := (w.nodes.rename fileName newFileName).2 } :=
    (run_filePathOf hpath).bind (hnew.bind (run_print.bind (Run.ite_neg hopen
      (.call ⟨trivial, (), trivial, rfl⟩ (.call ⟨trivial, (), trivial, rfl⟩
        (.call ⟨rfl, rfl⟩ .done))))))
  exact ⟨_, _, _, hrun, info.context, true, newPath, 0, rfl⟩

/-- A store with nodes of the given names. -/
def Nodes.ofNames (names : List WString) : Nodes :=
  names.foldl (fun n name => n.enter { fileName := name, isDirectory := false, attributes := 0 })
    Nodes.none

/-- Moving the only file moves its node. -/
theorem move_only_file :
    ∃ tr status w', Run (step (.plain false) fun _ _ _ _ => True)
        (mirrorMoveFile (.plain false) (wide ['\\', 'a']) (wide ['\\', 'b']) true { context := 8 })
        (World.start (.ofNames [wide ['\\', 'a']])) tr status w' ∧
      Moved (.ofNames [wide ['\\', 'a']]) w'.nodes (wide ['\\', 'a']) (wide ['\\', 'b']) := by
  have hrun : ∃ tr status w', Run (step (.plain false) fun _ _ _ _ => True)
      (mirrorMoveFile (.plain false) (wide ['\\', 'a']) (wide ['\\', 'b']) true { context := 8 })
      (World.start (.ofNames [wide ['\\', 'a']])) tr status w' ∧ Renamed tr :=
    exists_run_move
      (show getFilePath _ _ (wide ['\\', 'a']) = some (wide ['D', ':', '\\', 'a']) from by decide)
      (show getFilePath _ _ (wide ['\\', 'b']) = some (wide ['D', ':', '\\', 'b']) from by decide)
      (by decide) (by decide)
  obtain ⟨tr, status, w', h, hok⟩ := hrun
  refine ⟨tr, status, w', h, (move_correct_iff h hok).mpr ?_⟩
  have hf : (World.start (.ofNames [wide ['\\', 'a']])).nodes.findFileNode (wide ['\\', 'a']) =
      some 0 := by decide
  have hlist : (World.start (.ofNames [wide ['\\', 'a']])).nodes.filenodes = [0] := by decide
  unfold MoveSafe
  rw [hf]
  refine ⟨by decide, Or.inr ⟨by decide, fun q hq hqf => absurd ?_ hqf⟩⟩
  rw [hlist] at hq
  exact List.mem_singleton.mp hq

/-- Moving a directory leaves the node of a file in it behind. -/
theorem not_move_correct :
    ¬ ∀ (env : Env) (os : Unit → (c : Win32Call) → Outcome c.Value → Unit → Prop)
      (fileName newFileName : WString) (replaceIfExisting : Bool) (info : DokanFileInfo)
      (w w' : World Unit) (tr : Trace) (status : NTSTATUS),
      Run (step env os) (mirrorMoveFile env fileName newFileName replaceIfExisting info) w tr
        status w' →
      Renamed tr → Moved w.nodes w'.nodes fileName (moveTarget fileName newFileName) := by
  intro hclaim
  have hrun : ∃ tr status w', Run (step (.plain false) fun _ _ _ _ => True)
      (mirrorMoveFile (.plain false) (wide ['\\', 'd']) (wide ['\\', 'e']) true { context := 8 })
      (World.start (.ofNames [wide ['\\', 'd'], wide ['\\', 'd', '\\', 'x']])) tr status w' ∧
      Renamed tr :=
    exists_run_move
      (show getFilePath _ _ (wide ['\\', 'd']) = some (wide ['D', ':', '\\', 'd']) from by decide)
      (show getFilePath _ _ (wide ['\\', 'e']) = some (wide ['D', ':', '\\', 'e']) from by decide)
      (by decide) (by decide)
  obtain ⟨tr, status, w', h, hok⟩ := hrun
  have hmoved := (moved_run_iff h hok).mp (hclaim _ _ _ _ _ _ _ _ _ _ h hok)
  have hchild := hmoved.atTarget (wide ['\\', 'x']) (Or.inr ⟨_, rfl⟩)
  exact absurd hchild (by decide)

end SeamlessSmb
