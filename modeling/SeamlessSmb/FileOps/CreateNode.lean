/-
# `FileOps.CreateNode` — what creating a file does to the store of nodes

`MirrorCreateFile` adds a node for a `CREATE_NEW` request.  In the directory branch it
does so when `CreateDirectory` succeeded; in the file branch it tests the handle with
`handle != INVALID_HANDLE_VALUE || handle != NULL`, which no handle fails, so the node
is added when `CreateFile` failed too.

**Proved here:** a request that opens nothing leaves the store as it was unless it is
such a `CREATE_NEW` for a file without a node (`create_untouched_iff`); and after a
creation the creator's descriptor is read exactly if it was a `CREATE_NEW` without a
stale node, or if the descriptor happens to be the one read before
(`created_descriptor_iff`).
-/
import SeamlessSmb.FileOps.Security
import SeamlessSmb.FileOps.Create

namespace SeamlessSmb

open Calls

/-! ## What a run shows -/

/-- The event created or opened something. -/
def Opened : Event Call Answer → Prop
  | ⟨.win32 (.createDirectory ..), .ok _ _⟩ => True
  | ⟨.win32 (.createFile ..), .ok _ _⟩ => True
  | _ => False

/-- No `CreateDirectory` and no `CreateFile` of the run succeeded. -/
def OpensNothing (tr : Trace) : Prop := ∀ e ∈ tr, ¬ Opened e

/-- The event created a file or a directory.  `CreateFile` reports by the last error
whether the file was there before. -/
def Created : Event Call Answer → Prop
  | ⟨.win32 (.createDirectory ..), .ok _ _⟩ => True
  | ⟨.win32 (.createFile _ _ _ _ disposition _), .ok _ lastError⟩ =>
      disposition = CREATE_NEW ∨
        (disposition = OPEN_ALWAYS ∨ disposition = CREATE_ALWAYS) ∧ lastError ≠ ERROR_ALREADY_EXISTS
  | _ => False

/-- What `GetFileAttributes` answered in the run. -/
def attributesSeen (tr : Trace) : DWORD :=
  match asked tr with
  | ⟨.win32 (.getFileAttributes _), a⟩ :: _ => attributesOf a
  | _ => INVALID_FILE_ATTRIBUTES

/-- The request is a `CREATE_NEW` that gets to the `CreateFile` of the file branch. -/
def MakesFile (env : Env) (q : CreateRequest) (info : DokanFileInfo) (fileAttr : DWORD) : Prop :=
  ReachesFile env q info fileAttr ∧ (userFlags env q).creationDisposition = CREATE_NEW

instance (env : Env) (q : CreateRequest) (info : DokanFileInfo) (a : DWORD) :
    Decidable (MakesFile env q info a) := inferInstanceAs (Decidable (_ ∧ _))

section

variable {O : Type} {env : Env} {os : O → (c : Win32Call) → Outcome c.Value → O → Prop}
  {w w' : World O} {q : CreateRequest} {info : DokanFileInfo} {tr : Trace} {res : CreateResult}

theorem Created.opened {e : Event Call Answer} (h : Created e) : Opened e := by
  obtain ⟨c, r⟩ := e
  cases c with
  | win32 c =>
      cases c with
      | createDirectory path sd =>
          cases r with
          | ok u lastError => trivial
          | fail error => exact h
      | createFile path access share sd disposition flags =>
          cases r with
          | ok handle lastError => trivial
          | fail error => exact h
      | _ => exact h
  | _ => exact h

theorem Opened.asks {e : Event Call Answer} (h : Opened e) : e.call.asks = true := by
  obtain ⟨c, r⟩ := e
  cases c with
  | win32 c =>
      cases c with
      | createDirectory path sd => rfl
      | createFile path access share sd disposition flags => rfl
      | _ => exact h.elim
  | _ => exact h.elim

theorem opensNothing_asked : OpensNothing (asked tr) ↔ OpensNothing tr := by
  constructor
  · exact fun h e he hopen => h e (List.mem_filter.mpr ⟨he, hopen.asks⟩) hopen
  · exact fun h e he => h e (List.mem_of_mem_filter he)

theorem OpensExisting.not_created {e : Event Call Answer} (h : OpensExisting e) : ¬ Created e := by
  obtain ⟨path, access, share, sd, flags, r, rfl⟩ := h
  intro hc
  cases r with
  | fail error => exact hc
  | ok handle lastError =>
      rcases hc with hc | ⟨hc | hc, _⟩
      · exact absurd hc (by decide)
      · exact absurd hc (by decide)
      · exact absurd hc (by decide)

/-! ## Requests that open nothing -/

/-- A node that is put under a free name changes the list. -/
theorem not_same_of_put {n n' : Nodes} {f : Filenode} (h : (Nodes.Change.put f).Between n n')
    (hfree : n.node f.fileName = none) : ¬ Nodes.Same n n' := by
  intro hsame
  have hlist : (n.enter f).filenodes = n.filenodes := h.filenodes.symm.trans hsame.filenodes
  rw [Nodes.enter_of_none (Nodes.node_eq_none.mp hfree)] at hlist
  simp at hlist

/-- A `CREATE_NEW` of a file puts its node, whatever `CreateFile` answers. -/
theorem put_of_makesFile (h : Run (step env os) (mirrorCreateFile env q info) w tr res w')
    (hmakes : MakesFile env q info (attributesSeen tr)) :
    (Nodes.Change.put (createdNode env q false)).Between w.nodes w'.nodes := by
  obtain ⟨c, hrun, hchange⟩ := run_create h
  unfold attributesSeen at hmakes
  generalize asked tr = shown, res.status = status at hrun hmakes
  cases hrun with
  | existing hfile _ => exact absurd hmakes.1 hfile
  | folder hfile _ => exact absurd hmakes.1 hfile
  | file _ =>
      rw [if_pos hmakes.2] at hchange
      exact hchange

/-- Any other request that opens nothing changes nothing. -/
theorem keep_of_opensNothing (h : Run (step env os) (mirrorCreateFile env q info) w tr res w')
    (hopens : OpensNothing tr) (hmakes : ¬ MakesFile env q info (attributesSeen tr)) :
    Nodes.Same w.nodes w'.nodes := by
  obtain ⟨c, hrun, hchange⟩ := run_create h
  have hshown := opensNothing_asked.mpr hopens
  unfold attributesSeen at hmakes
  generalize asked tr = shown, res.status = status at hrun hmakes hshown
  cases hrun with
  | existing _ _ => exact hchange
  | @folder _ _ _ _ r _ _ _ _ =>
      cases r with
      | ok u e => exact absurd trivial (hshown _ (List.mem_cons_of_mem _ List.mem_cons_self))
      | fail e =>
          rw [folderChange, if_neg fun hmade => Bool.false_ne_true hmade.2] at hchange
          exact hchange
  | file hfile =>
      rw [if_neg fun hnew => hmakes ⟨hfile, hnew⟩] at hchange
      exact hchange

/-- **Nothing opened.**  Such a request leaves the store as it was exactly when it is no
`CREATE_NEW` of a file, or the file has a node already. -/
theorem create_untouched_iff (h : Run (step env os) (mirrorCreateFile env q info) w tr res w') :
    (OpensNothing tr → Nodes.Same w.nodes w'.nodes) ↔
      ¬ OpensNothing tr ∨ ¬ MakesFile env q info (attributesSeen tr) ∨
        (w.nodes.node q.fileName).isSome := by
  by_cases hopens : OpensNothing tr
  · by_cases hmakes : MakesFile env q info (attributesSeen tr)
    · have hput := put_of_makesFile h hmakes
      cases hnode : (w.nodes.node q.fileName).isSome with
      | true =>
          refine iff_of_true (fun _ => ?_) (Or.inr (Or.inr rfl))
          exact (Nodes.enter_of_some (Nodes.node_isSome ▸ hnode)).trans hput
      | false =>
          refine iff_of_false (fun hsame => ?_) ?_
          · have hfree : w.nodes.node q.fileName = none := by simpa using hnode
            exact not_same_of_put hput hfree (hsame hopens)
          · rintro (hno | hno | hno)
            · exact hno hopens
            · exact hno hmakes
            · exact Bool.false_ne_true hno
    · exact iff_of_true (fun hopens => keep_of_opensNothing h hopens hmakes) (Or.inr (Or.inl hmakes))
  · exact iff_of_true (fun hopens' => absurd hopens' hopens) (Or.inl hopens)

/-! ## Requests that create -/

/-- A run that created something put the node of a `CREATE_NEW`, or nothing. -/
theorem change_of_created (h : Run (step env os) (mirrorCreateFile env q info) w tr res w')
    (hcreated : ∃ e ∈ tr, Created e) :
    ∃ isDirectory, (if (userFlags env q).creationDisposition = CREATE_NEW then
        Nodes.Change.put (createdNode env q isDirectory) else .keep).Between w.nodes w'.nodes := by
  obtain ⟨c, hrun, hchange⟩ := run_create h
  obtain ⟨e, he, hcreated⟩ := hcreated
  have hmem : e ∈ asked tr := List.mem_filter.mpr ⟨he, hcreated.opened.asks⟩
  generalize asked tr = shown, res.status = status at hrun hmem
  cases hrun with
  | existing _ hopens =>
      rcases List.mem_cons.mp hmem with rfl | hmem
      · exact hcreated.elim
      · exact absurd hcreated (hopens e hmem).not_created
  | @folder _ _ _ _ r _ _ _ hopens =>
      refine ⟨true, ?_⟩
      rcases List.mem_cons.mp hmem with rfl | hmem
      · exact hcreated.elim
      · rcases List.mem_cons.mp hmem with rfl | hmem
        · cases r with
          | fail error => exact hcreated.elim
          | ok u error =>
              unfold folderChange at hchange
              simpa only [Outcome.succeeded, and_true] using hchange
        · exact absurd hcreated (hopens e hmem).not_created
  | file _ => exact ⟨false, hchange⟩

theorem readSD_created_iff {sd : SecurityDescriptor} (hsd : q.securityDescriptor = some sd)
    (h : Run (step env os) (mirrorCreateFile env q info) w tr res w')
    (hcreated : ∃ e ∈ tr, Created e) :
    env.readSD w'.nodes q.fileName = sd ↔
      (userFlags env q).creationDisposition = CREATE_NEW ∧ w.nodes.node q.fileName = none ∨
        env.readSD w.nodes q.fileName = sd := by
  obtain ⟨isDirectory, hchange⟩ := change_of_created h hcreated
  have hsame : Nodes.Same w.nodes w'.nodes →
      env.readSD w'.nodes q.fileName = env.readSD w.nodes q.fileName := by
    intro hsame
    rw [Env.readSD, hsame.node]
    rfl
  by_cases hnew : (userFlags env q).creationDisposition = CREATE_NEW
  · rw [if_pos hnew] at hchange
    have hput : Nodes.Same (w.nodes.enter (createdNode env q isDirectory)) w'.nodes := hchange
    cases hnode : w.nodes.node q.fileName with
    | none =>
        refine iff_of_true ?_ (Or.inl ⟨hnew, rfl⟩)
        have hmap := Nodes.node_enter (f := createdNode env q isDirectory)
          (Nodes.node_eq_none.mp hnode)
        have hread : w'.nodes.node q.fileName = some (createdNode env q isDirectory) := by
          rw [hput.node, hmap]
          exact Function.update_self ..
        rw [Env.readSD, hread, createdNode, hsd]
        rfl
    | some f =>
        have hin : (w.nodes.findFileNode q.fileName).isSome := by
          rw [← Nodes.node_isSome, hnode]
          rfl
        rw [hsame ((Nodes.enter_of_some hin).trans hput)]
        exact ⟨Or.inr, fun h => h.resolve_left fun h => absurd h.2 (Option.some_ne_none f)⟩
  · rw [if_neg hnew] at hchange
    rw [hsame hchange]
    exact ⟨Or.inr, fun h => h.resolve_left fun h => hnew h.1⟩

/-- **After a creation** with a descriptor the descriptor read under the name is the
creator's exactly when the creation was a `CREATE_NEW` and the name had no node, or the
one read before is the same. -/
theorem created_descriptor_iff {sd : SecurityDescriptor} {parts bufferLength unset : DWORD}
    {tr' : Trace} {res' : GetFileSecurityResult} {w'' : World O}
    (hsd : q.securityDescriptor = some sd)
    (h : Run (step env os) (mirrorCreateFile env q info) w tr res w')
    (hcreated : ∃ e ∈ tr, Created e)
    (h' : Run (step env os) (mirrorGetFileSecurity env unset q.fileName parts bufferLength) w' tr' res'
      w'') :
    descriptorRead tr' = some sd ↔
      (userFlags env q).creationDisposition = CREATE_NEW ∧ w.nodes.node q.fileName = none ∨
        env.readSD w.nodes q.fileName = sd := by
  rw [run_getFileSecurity h', Option.some_inj]
  exact readSD_created_iff hsd h hcreated

end

/-! ## A platform on which nothing exists -/

/-- Every call fails but `CreateFile`, which comes out as `created`. -/
def newFile (created : Outcome OpenHandle) :
    Unit → (c : Win32Call) → Outcome c.Value → Unit → Prop
  | _, .createFile .., r, _ => r = created
  | _, _, r, _ => r.succeeded = false

section

variable {env : Env} {created : Outcome OpenHandle} {q : CreateRequest} {info : DokanFileInfo}
  {w w' : World Unit} {tr : Trace} {res : CreateResult}

theorem newFile_total (o : Unit) (c : Win32Call) :
    ∃ r o', Win32Call.Allowed env c r ∧ newFile created o c r o' := by
  cases c with
  | createFile path access share sd disposition flags => exact ⟨created, (), trivial, rfl⟩
  | _ => exact ⟨.fail ⟨1, by decide⟩, (), trivial, rfl⟩

/-- There the file branch is taken as if the file were missing. -/
theorem run_create_newFile
    (hreach : ReachesFile env q info INVALID_FILE_ATTRIBUTES)
    (h : Run (step env (newFile created)) (mirrorCreateFile env q info) w tr res w') :
    attributesSeen tr = INVALID_FILE_ATTRIBUTES ∧
      res.status = fileStatus env (userFlags env q).creationDisposition created ∧
      ∃ path a path' access share sd flags, asked tr =
        [⟨.win32 (.getFileAttributes path), a⟩, ⟨.win32 (.createFile path' access share sd
          (userFlags env q).creationDisposition flags), created⟩] := by
  have hmissing : ∀ {path : WString} {a : Outcome Attributes},
      Answered env (newFile created) ⟨.win32 (.getFileAttributes path), a⟩ →
      attributesOf a = INVALID_FILE_ATTRIBUTES := by
    intro path a ⟨_, _, _, ha⟩
    cases a with
    | ok a e => cases ha
    | fail e => rfl
  have hans : ∀ e ∈ asked tr, Answered env (newFile created) e :=
    fun e he => run_answered h e (List.mem_of_mem_filter he)
  obtain ⟨c, hrun, -⟩ := run_create h
  unfold attributesSeen
  generalize asked tr = shown, res.status = status at hrun hans
  cases hrun with
  | existing hfile _ =>
      rw [hmissing (hans _ List.mem_cons_self)] at hfile
      exact absurd hreach hfile
  | folder hfile _ =>
      rw [hmissing (hans _ List.mem_cons_self)] at hfile
      exact absurd hreach hfile
  | file _ =>
      have hr := hans _ (List.mem_cons_of_mem _ List.mem_cons_self)
      obtain ⟨-, _, _, rfl⟩ := hr
      exact ⟨hmissing (hans _ List.mem_cons_self), rfl, _, _, _, _, _, _, _, rfl⟩

end

/-- A request for `\a` with a descriptor, of the given kernel disposition. -/
def CreateRequest.plain (createDisposition : DWORD) : CreateRequest where
  fileName := wide ['\\', 'a']
  securityDescriptor := some (.tag 1)
  desiredAccess := FILE_READ_DATA
  fileAttributes := FILE_ATTRIBUTE_NORMAL
  shareAccess := 0
  createDisposition := createDisposition
  createOptions := 0

theorem exists_run_create (created : Outcome OpenHandle) (createDisposition : DWORD)
    (w : World Unit) :
    ∃ tr res w', Run (step (.plain false) (newFile created))
      (mirrorCreateFile (.plain false) (.plain createDisposition) {}) w tr res w' :=
  (returns_create (q := .plain createDisposition) rfl
    (show (getFilePath (Env.plain false).globals DOKAN_MAX_PATH (wide ['\\', 'a'])).isSome from
      by decide)).exists_run newFile_total w

/-- A failing `CREATE_NEW` of a file with a node leaves the node. -/
theorem create_untouched_stale :
    ∃ tr res w', Run (step (.plain false) (newFile (.fail ⟨80, by decide⟩)))
        (mirrorCreateFile (.plain false) (.plain 2) {})
        (.start (Nodes.none.enter
          { fileName := wide ['\\', 'a'], isDirectory := false, attributes := 0 })) tr res w' ∧
      (OpensNothing tr → Nodes.Same (Nodes.none.enter
        { fileName := wide ['\\', 'a'], isDirectory := false, attributes := 0 }) w'.nodes) := by
  obtain ⟨tr, res, w', h⟩ := exists_run_create (.fail ⟨80, by decide⟩) 2 (.start (Nodes.none.enter
    { fileName := wide ['\\', 'a'], isDirectory := false, attributes := 0 }))
  exact ⟨tr, res, w', h, (create_untouched_iff h).mpr (Or.inr (Or.inr rfl))⟩

/-- A `CREATE_NEW` for which `CreateFile` reports that the file exists leaves a node. -/
theorem not_create_untouched :
    ¬ ∀ (env : Env) (os : Unit → (c : Win32Call) → Outcome c.Value → Unit → Prop)
      (q : CreateRequest) (info : DokanFileInfo) (w w' : World Unit) (tr : Trace)
      (res : CreateResult),
      Run (step env os) (mirrorCreateFile env q info) w tr res w' → OpensNothing tr →
        Nodes.Same w.nodes w'.nodes := by
  intro hclaim
  obtain ⟨tr, res, w', h⟩ := exists_run_create (.fail ⟨80, by decide⟩) 2 (.start .none)
  have ⟨hattr, _, _, _, _, _, _, _, _, hasked⟩ := run_create_newFile (by decide) h
  have hopens : OpensNothing tr := by
    rw [← opensNothing_asked, hasked]
    intro e he
    rcases List.mem_cons.mp he with rfl | he
    · exact id
    · rw [List.mem_singleton.mp he]
      exact id
  have hmakes : MakesFile (.plain false) (.plain 2) {} (attributesSeen tr) := by
    rw [hattr]
    decide
  exact not_same_of_put (put_of_makesFile h hmakes) rfl (hclaim _ _ _ _ _ _ _ _ h hopens)

/-- A request that creates the file shows it. -/
theorem created_of_newFile {createDisposition : DWORD} {handle : OpenHandle} {w w' : World Unit}
    {tr : Trace} {res : CreateResult}
    (hreach : ReachesFile (.plain false) (.plain createDisposition) {} INVALID_FILE_ATTRIBUTES)
    (hdisp : (userFlags (.plain false) (.plain createDisposition)).creationDisposition = CREATE_NEW ∨
      (userFlags (.plain false) (.plain createDisposition)).creationDisposition = OPEN_ALWAYS)
    (h : Run (step (.plain false) (newFile (.ok handle 0)))
      (mirrorCreateFile (.plain false) (.plain createDisposition) {}) w tr res w') :
    ∃ e ∈ tr, Created e := by
  have ⟨_, _, _, _, _, _, _, _, _, hasked⟩ := run_create_newFile hreach h
  have hmem := hasked ▸ List.mem_cons_of_mem _ List.mem_cons_self
  refine ⟨_, List.mem_of_mem_filter hmem, ?_⟩
  exact hdisp.imp_right fun hdisp => ⟨Or.inl hdisp, by decide⟩

theorem exists_run_getFileSecurity (created : Outcome OpenHandle) (w : World Unit) :
    ∃ tr res w', Run (step (.plain false) (newFile created)) (mirrorGetFileSecurity (.plain false) 0
      (wide ['\\', 'a']) DACL_SECURITY_INFORMATION 0) w tr res w' :=
  (returns_getFileSecurity rfl (show (getFilePath (Env.plain false).globals DOKAN_MAX_PATH
    (wide ['\\', 'a'])).isSome from by decide)).exists_run newFile_total w

/-- On the empty store a `CREATE_NEW` gives the file its descriptor. -/
theorem created_descriptor_new :
    ∃ tr res w' tr' res' w'',
      Run (step (.plain false) (newFile (.ok ⟨8, by decide⟩ 0)))
        (mirrorCreateFile (.plain false) (.plain 2) {}) (.start .none) tr res w' ∧
      Run (step (.plain false) (newFile (.ok ⟨8, by decide⟩ 0))) (mirrorGetFileSecurity (.plain false) 0
        (wide ['\\', 'a']) DACL_SECURITY_INFORMATION 0) w' tr' res' w'' ∧
      descriptorRead tr' = some (.tag 1) := by
  obtain ⟨tr, res, w', h⟩ := exists_run_create (.ok ⟨8, by decide⟩ 0) 2 (.start .none)
  obtain ⟨tr', res', w'', h'⟩ := exists_run_getFileSecurity (.ok ⟨8, by decide⟩ 0) w'
  have hcreated := created_of_newFile (by decide) (Or.inl (by decide)) h
  refine ⟨tr, res, w', tr', res', w'', h, h', ?_⟩
  exact (created_descriptor_iff rfl h hcreated h').mpr (Or.inl ⟨by decide, rfl⟩)

/-- A file created by `OPEN_ALWAYS` on the empty store is read with the default. -/
theorem not_created_descriptor :
    ¬ ∀ (env : Env) (os : Unit → (c : Win32Call) → Outcome c.Value → Unit → Prop)
      (q : CreateRequest) (info : DokanFileInfo) (sd : SecurityDescriptor) (parts len unset : DWORD)
      (w w' w'' : World Unit) (tr tr' : Trace) (res : CreateResult) (res' : GetFileSecurityResult),
      q.securityDescriptor = some sd →
      Run (step env os) (mirrorCreateFile env q info) w tr res w' → res.status = STATUS_SUCCESS →
      (∃ e ∈ tr, Created e) →
      Run (step env os) (mirrorGetFileSecurity env unset q.fileName parts len) w' tr' res' w'' →
      descriptorRead tr' = some sd := by
  intro hclaim
  obtain ⟨tr, res, w', h⟩ := exists_run_create (.ok ⟨8, by decide⟩ 0) 3 (.start .none)
  obtain ⟨tr', res', w'', h'⟩ := exists_run_getFileSecurity (.ok ⟨8, by decide⟩ 0) w'
  have hcreated := created_of_newFile (by decide) (Or.inr (by decide)) h
  have hstatus : res.status = STATUS_SUCCESS := (run_create_newFile (by decide) h).2.1.trans (by decide)
  have hread := hclaim _ _ _ _ _ _ _ _ _ _ _ _ _ _ _ rfl h hstatus hcreated h'
  rw [run_getFileSecurity h', Option.some_inj] at hread
  have hwrong := (readSD_created_iff rfl h hcreated).mp hread
  rcases hwrong with ⟨hnew, _⟩ | hdefault
  · exact absurd hnew (by decide)
  · exact absurd (congrArg SecurityDescriptor.bytes hdefault) (by decide)

end SeamlessSmb
