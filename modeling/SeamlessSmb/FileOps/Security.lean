/-
# `FileOps.Security` — reading and setting the security of a file

`MirrorGetFileSecurity` and `MirrorSetFileSecurity` look the file up in the store
and fall back to a default descriptor when it has no node.  Setting merges the
requested parts into the current descriptor, through `SetPrivateObjectSecurity`,
and stores the result: in the node the file has (`setExisting`), or in a new one
(`setNew`).

Three variables are read that nothing was written to.  What they hold is an argument
here: `stat` of `MirrorSetFileSecurity`; the text that is stored where the conversion of
the descriptor fails (`stray`); and `sizeneeded` of `MirrorGetFileSecurity` where the size
is not found out and the file has no node (`unset`).

**Proved here:** which descriptor is read (`run_getFileSecurity`), what a run of either
branch of the setting leaves (`sat_setExisting`, `sat_setNew`), and when setting does
what it should whatever such variables hold (`alwaysSets_iff`): only for files without a
node, on failure only if debug printing is off, and on success only if the descriptor
stored has a text and none that is printed has a NULL DACL.
-/
import SeamlessSmb.FileOps.World

namespace SeamlessSmb

open Calls

/-! ## The callbacks -/

def securityFlags : List (DWORD × String) :=
  [ (OWNER_SECURITY_INFORMATION, "OWNER_SECURITY_INFORMATION"),
    (GROUP_SECURITY_INFORMATION, "GROUP_SECURITY_INFORMATION"),
    (DACL_SECURITY_INFORMATION, "DACL_SECURITY_INFORMATION"),
    (SACL_SECURITY_INFORMATION, "SACL_SECURITY_INFORMATION"),
    (LABEL_SECURITY_INFORMATION, "LABEL_SECURITY_INFORMATION"),
    (ATTRIBUTE_SECURITY_INFORMATION, "ATTRIBUTE_SECURITY_INFORMATION"),
    (SCOPE_SECURITY_INFORMATION, "SCOPE_SECURITY_INFORMATION"),
    (PROCESS_TRUST_LABEL_SECURITY_INFORMATION, "PROCESS_TRUST_LABEL_SECURITY_INFORMATION"),
    (ACCESS_FILTER_SECURITY_INFORMATION, "ACCESS_FILTER_SECURITY_INFORMATION"),
    (BACKUP_SECURITY_INFORMATION, "BACKUP_SECURITY_INFORMATION"),
    (PROTECTED_DACL_SECURITY_INFORMATION, "PROTECTED_DACL_SECURITY_INFORMATION"),
    (PROTECTED_SACL_SECURITY_INFORMATION, "PROTECTED_SACL_SECURITY_INFORMATION"),
    (UNPROTECTED_DACL_SECURITY_INFORMATION, "UNPROTECTED_DACL_SECURITY_INFORMATION"),
    (UNPROTECTED_SACL_SECURITY_INFORMATION, "UNPROTECTED_SACL_SECURITY_INFORMATION") ]

/-- The status `MirrorGetFileSecurity` returns, the descriptor it writes to the
caller's buffer, and the length it reports, if it does. -/
structure GetFileSecurityResult where
  status : NTSTATUS
  securityDescriptor : Option SecurityDescriptor := none
  lengthNeeded : Option DWORD := none

/-- The end of both branches: the requested parts of `current` go to the caller.
`unset` is what `sizeneeded` holds beforehand, and `num` numbers the printout. -/
def deliverSecurity (parts bufferLength unset : DWORD) (current : SecurityDescriptor) (num : Int) :
    Op GetFileSecurityResult := do
  let size ← win32 (.getPrivateObjectSecuritySize parts current)
  let sizeneeded := size.toOption.getD unset
  if sizeneeded > bufferLength then
    pure { status := STATUS_BUFFER_OVERFLOW, lengthNeeded := some sizeneeded }
  else do
    let r ← win32 (.getPrivateObjectSecurity parts current bufferLength)
    match r with
    | .fail _ => do
        let error ← getLastError
        print "GetPrivateObjectSecurity Error %d\n" [.num error]
        let error ← getLastError
        pure { status := error }
    | .ok sd _ => do
        printSD (some sd) num
        pure
          { status := STATUS_SUCCESS
            securityDescriptor := some sd
            lengthNeeded := some sizeneeded }

/-- `MirrorGetFileSecurity`.  Only for a file that has a node is `sizeneeded` initialised. -/
def mirrorGetFileSecurity (env : Env) (unset : DWORD) (fileName : WString)
    (parts bufferLength : DWORD) : Op GetFileSecurityResult := do
  let filePath ← filePathOf env.globals fileName
  print "GetFileSecurity %s\n" [.str filePath]
  checkFlags parts securityFlags
  let f ← Prog.perform (Call.findFileNode fileName)
  match (f : Option Ptr) with
  | some f => do
      let heapSecurityDescriptor ← Prog.perform (Call.getDescriptor f)
      printSD (some heapSecurityDescriptor) 4
      deliverSecurity parts bufferLength 0 heapSecurityDescriptor 5
  | none => do
      let newSecurityDescriptor ← Prog.perform Call.createDefaultSelfRelativeSD
      deliverSecurity parts bufferLength unset newSecurityDescriptor 0

/-- The branch of `MirrorSetFileSecurity` for a file that has a node. -/
def setExisting (env : Env) (stat : NTSTATUS) (stray : CodeUnits) (parts : DWORD)
    (securityDescriptor : SecurityDescriptor) (f : Ptr) : Op NTSTATUS := do
  Prog.perform (Call.lockData f)
  let heapSecurityDescriptor ← Prog.perform (Call.getDescriptor f)
  let r ← win32 (.setPrivateObjectSecurity parts securityDescriptor heapSecurityDescriptor)
  printSD (some securityDescriptor) 6
  -- the outcome of the call is not looked at
  if stat ≠ ERROR_SUCCESS then do
    let error ← getLastError
    Prog.perform (Call.unlockData f)
    pure (env.ntStatusFromWin32 error)
  else do
    Prog.perform (Call.setDescriptor f (some (Option.getD r.toOption heapSecurityDescriptor)) stray)
    Prog.perform (Call.unlockData f)
    pure STATUS_SUCCESS

/-- The branch of `MirrorSetFileSecurity` for a file that has none. -/
def setNew (env : Env) (stat : NTSTATUS) (stray : CodeUnits) (fileName : WString) (parts : DWORD)
    (securityDescriptor : SecurityDescriptor) (info : DokanFileInfo) : Op NTSTATUS := do
  let heapSecurityDescriptor ← Prog.perform Call.createDefaultSelfRelativeSD
  printSD (some securityDescriptor) 2
  let r ← win32 (.setPrivateObjectSecurity parts securityDescriptor heapSecurityDescriptor)
  match r with
  | .fail _ => do
      print "  SetUserObjectSecurity2 error: %d\n" [.num stat]
      let error ← getLastError
      pure (env.ntStatusFromWin32 error)
  | .ok merged _ => do
      Prog.perform (Call.printOwner merged)
      printSD (some merged) 3
      let fil ← Prog.perform (Call.makeShared
        { fileName := fileName, isDirectory := info.isDirectory, attributes := 0 })
      Prog.perform (Call.setDescriptor fil (some merged) stray)
      let _ ← Prog.perform (Call.addFileNode (some fil))
      pure STATUS_SUCCESS

/-- The two branches of `MirrorSetFileSecurity`. -/
def setFound (env : Env) (stat : NTSTATUS) (stray : CodeUnits) (fileName : WString) (parts : DWORD)
    (securityDescriptor : SecurityDescriptor) (info : DokanFileInfo) : Option Ptr → Op NTSTATUS
  | some f => setExisting env stat stray parts securityDescriptor f
  | none => setNew env stat stray fileName parts securityDescriptor info

/-- `MirrorSetFileSecurity`. -/
def mirrorSetFileSecurity (env : Env) (stat : NTSTATUS) (stray : CodeUnits) (fileName : WString)
    (parts : DWORD) (securityDescriptor : SecurityDescriptor) (info : DokanFileInfo) : Op NTSTATUS := do
  let filePath ← filePathOf env.globals fileName
  print "SetFileSecurity %s\n" [.str filePath]
  if info.context = 0 ∨ info.context = INVALID_HANDLE_VALUE then do
    print "\tinvalid handle\n\n"
    pure STATUS_INVALID_HANDLE
  else do
    checkFlags parts securityFlags
    let f ← Prog.perform (Call.findFileNode fileName)
    setFound env stat stray fileName parts securityDescriptor info f

/-! ## Which descriptor is read -/

/-- The descriptor a run of `MirrorGetFileSecurity` takes the requested parts from. -/
def descriptorRead (tr : Trace) : Option SecurityDescriptor :=
  match asked tr with
  | ⟨.win32 (.getPrivateObjectSecuritySize _ current), _⟩ :: _ => some current
  | _ => none

section

variable {O : Type} {env : Env} {os : O → (c : Win32Call) → Outcome c.Value → O → Prop}
  {w w' : World O} {fileName : WString} {parts bufferLength unset : DWORD}

theorem ends_deliverSecurity {current : SecurityDescriptor} {num : Int} :
    Ends env os (deliverSecurity parts bufferLength unset current num) w (fun tr _ _ =>
      ∃ r rest, tr = ⟨.win32 (.getPrivateObjectSecuritySize parts current), r⟩ :: rest) :=
  ends_call fun r _ _ tr _ _ _ => ⟨r, asked tr, rfl⟩

/-- Reading takes the parts from the stored descriptor, or from the default. -/
theorem run_getFileSecurity {tr : Trace} {res : GetFileSecurityResult}
    (h : Run (step env os) (mirrorGetFileSecurity env unset fileName parts bufferLength) w tr res w') :
    descriptorRead tr = some (env.readSD w.nodes fileName) := by
  have hends : Ends env os (mirrorGetFileSecurity env unset fileName parts bufferLength) w
      (fun tr _ _ => ∃ r rest, tr =
        ⟨.win32 (.getPrivateObjectSecuritySize parts (env.readSD w.nodes fileName)), r⟩ :: rest) := by
    refine ends_filePathOf_bind fun path _ => ?_
    refine ends_silent_call trivial fun _ w₁ h₁ => ?_
    refine ends_silent_bind silent_checkFlags fun _ w₂ h₂ => ?_
    refine ends_call fun f w₃ ⟨hf, h₃⟩ => ?_
    have hnodes : w₂.nodes = w.nodes := h₂.trans h₁
    rw [hnodes] at hf
    cases f with
    | none =>
        refine ends_call fun current w₄ ⟨hcurrent, _⟩ => ?_
        have hread : env.readSD w.nodes fileName = current := by
          rw [Env.readSD, Nodes.node_eq_none.mpr hf.symm, hcurrent]
        rw [hread]
        exact ends_deliverSecurity
    | some p =>
        refine ends_call fun current w₄ ⟨hcurrent, _⟩ => ?_
        have hread : env.readSD w.nodes fileName = current := by
          rw [Env.readSD, Nodes.node, ← hf, hcurrent, h₃, hnodes]
          rfl
        rw [hread]
        exact ends_silent_call trivial fun _ w₅ _ => ends_deliverSecurity
  obtain ⟨r, rest, htr⟩ := hends tr res w' h
  rw [descriptorRead, htr]

/-- Reading leaves the store alone. -/
theorem getFileSecurity_nodes {tr : Trace} {res : GetFileSecurityResult}
    (h : Run (step env os) (mirrorGetFileSecurity env unset fileName parts bufferLength) w tr res w') :
    w'.nodes = w.nodes := by
  have hdeliver : ∀ {unset : DWORD} {w₁ : World O} {current : SecurityDescriptor} {num : Int},
      w₁.nodes = w.nodes → Ends env os (deliverSecurity parts bufferLength unset current num) w₁
        (fun _ _ w' => w'.nodes = w.nodes) := by
    intro unset w₁ current num h₁
    refine ends_win32_bind fun size w₂ h₂ => ?_
    have hn₂ : w₂.nodes = w.nodes := h₂.trans h₁
    show Ends env os (if size.toOption.getD unset > bufferLength then _ else _) w₂ _
    split
    · exact ends_pure hn₂
    · refine ends_win32_bind fun r w₃ h₃ => ?_
      have hn₃ : w₃.nodes = w.nodes := h₃.trans hn₂
      cases r with
      | fail e =>
          refine ends_silent_call trivial fun _ w₄ h₄ => ?_
          refine ends_silent_call trivial fun _ w₅ h₅ => ?_
          refine ends_silent_call trivial fun _ w₆ h₆ => ?_
          exact ends_pure (h₆.trans (h₅.trans (h₄.trans hn₃)))
      | ok sd e =>
          refine ends_silent_call trivial fun _ w₄ h₄ => ?_
          exact ends_pure (h₄.trans hn₃)
  have hends : Ends env os (mirrorGetFileSecurity env unset fileName parts bufferLength) w
      (fun _ _ w' => w'.nodes = w.nodes) := by
    refine ends_filePathOf_bind fun path _ => ?_
    refine ends_silent_call trivial fun _ w₁ h₁ => ?_
    refine ends_silent_bind silent_checkFlags fun _ w₂ h₂ => ?_
    refine ends_call fun f w₃ ⟨_, h₃⟩ => ?_
    have hn₃ : w₃.nodes = w.nodes := by
      rw [h₃]
      exact h₂.trans h₁
    cases f with
    | none =>
        refine ends_silent_call trivial fun current w₄ h₄ => ?_
        exact hdeliver (h₄.trans hn₃)
    | some p =>
        refine ends_silent_call trivial fun current w₄ h₄ => ?_
        refine ends_silent_call trivial fun _ w₅ h₅ => ?_
        exact hdeliver (h₅.trans (h₄.trans hn₃))
  exact hends tr res w' h

theorem returns_deliverSecurity (hoff : env.debugMode = false) {current : SecurityDescriptor} {num : Int} :
    Returns env (deliverSecurity parts bufferLength unset current num) := by
  refine returns_call trivial fun size => ?_
  show Returns env (if size.toOption.getD unset > bufferLength then _ else _)
  split
  · trivial
  · refine returns_call trivial fun r => ?_
    cases r with
    | fail e =>
        exact returns_call trivial fun _ => returns_call trivial fun _ => returns_call trivial
          fun _ => trivial
    | ok sd e => exact returns_call (env.printable_of_off hoff _) fun _ => trivial

/-- With debugging off, reading returns. -/
theorem returns_getFileSecurity (hoff : env.debugMode = false)
    (hfits : (getFilePath env.globals DOKAN_MAX_PATH fileName).isSome) :
    Returns env (mirrorGetFileSecurity env unset fileName parts bufferLength) := by
  refine returns_bind (returns_filePathOf hfits) fun path => returns_call trivial fun _ =>
    returns_bind (returns_silent hoff silent_checkFlags) fun _ => returns_call trivial fun f => ?_
  cases f with
  | none => exact returns_call trivial fun _ => returns_deliverSecurity hoff
  | some p =>
      exact returns_call trivial fun _ => returns_call (env.printable_of_off hoff _) fun _ =>
        returns_deliverSecurity hoff

end

/-! ## What a run of a branch leaves -/

section

variable {O : Type} {env : Env} {os : O → (c : Win32Call) → Outcome c.Value → O → Prop}
  {w : World O} {stat : NTSTATUS} {stray : CodeUnits} {fileName : WString} {parts : DWORD}
  {sd : SecurityDescriptor} {info : DokanFileInfo} {p : Ptr}

/-- The merge came out as `r`. -/
def Merged (env : Env) (os : O → (c : Win32Call) → Outcome c.Value → O → Prop) (parts : DWORD)
    (sd current : SecurityDescriptor) (r : Outcome SecurityDescriptor) : Prop :=
  Win32Call.Allowed env (.setPrivateObjectSecurity parts sd current) r ∧
    ∃ o o', os o (.setPrivateObjectSecurity parts sd current) r o'

/-- The branch for a stored file is decided by `stat`: it stores whatever the merge
left, or fails without storing. -/
theorem sat_setExisting :
    Sat (step env os) (setExisting env stat stray parts sd p) w (fun tr status w' =>
      let current := (w.nodes.heap p).security.getDescriptor env.defaultSD
      ∃ r, Merged env os parts sd current r ∧
        asked tr = [⟨.win32 (.setPrivateObjectSecurity parts sd current), r⟩] ∧
        if stat ≠ ERROR_SUCCESS then
          status = env.ntStatusFromWin32 w'.lastError ∧ w'.nodes = w.nodes
        else
          status = STATUS_SUCCESS ∧
            w'.nodes = w.nodes.setDescriptor env.convertSD p (some (r.toOption.getD current)) stray) := by
  simp only [setExisting, sat_bind, sat_perform, win32, printSD, step]
  intro _ _ h₁ current _ ⟨hcur, _, h₂⟩ r _ ⟨hallowed, o, hos, h₃⟩ _ _ ⟨_, _, _, h₄⟩
  subst h₁ hcur h₂ h₃ h₄
  split
  · simp only [sat_bind, sat_perform, sat_pure, getLastError, step]
    intro _ _ ⟨herr, h₅⟩ _ _ h₆
    subst herr h₅ h₆
    exact ⟨r, ⟨hallowed, _, o, hos⟩, rfl, rfl, rfl⟩
  · simp only [sat_bind, sat_perform, sat_pure, step]
    intro _ _ ⟨_, h₅⟩ _ _ h₆
    subst h₅ h₆
    exact ⟨r, ⟨hallowed, _, o, hos⟩, rfl, trivial, rfl⟩

/-- The node made for a file that had none. -/
def securedNode (env : Env) (stray : CodeUnits) (fileName : WString) (info : DokanFileInfo)
    (merged : SecurityDescriptor) : Filenode :=
  { fileName := fileName
    isDirectory := info.isDirectory
    attributes := 0
    security := { strdescriptor := (env.convertSD merged).getD stray, descriptor := merged } }

/-- The branch for a file without a node fails with the merge, and on success enters
a node with what was merged. -/
theorem sat_setNew :
    Sat (step env os) (setNew env stat stray fileName parts sd info) w (fun tr status w' =>
      ∃ r, Merged env os parts sd env.defaultSD r ∧
        asked tr = [⟨.win32 (.setPrivateObjectSecurity parts sd env.defaultSD), r⟩] ∧
        match r with
        | .fail error =>
            status = env.ntStatusFromWin32 w'.lastError ∧ w'.nodes = w.nodes ∧
              (env.debugMode = false → w'.lastError = error)
        | .ok merged _ =>
            status = STATUS_SUCCESS ∧
              w'.nodes = w.nodes.enter (securedNode env stray fileName info merged)) := by
  simp only [setNew, sat_bind, sat_perform, win32, printSD, step]
  intro _ _ ⟨hdef, _, h₁⟩ _ _ ⟨_, _, _, h₂⟩ r _ ⟨hallowed, o, hos, h₃⟩
  subst hdef h₁ h₂ h₃
  cases r with
  | fail error =>
      simp only [sat_bind, sat_perform, sat_pure, print, getLastError, step]
      intro _ _ ⟨e, he, h₄⟩ _ _ ⟨herr, h₅⟩
      subst h₄ herr h₅
      exact ⟨.fail error, ⟨hallowed, _, o, hos⟩, rfl, rfl, rfl, he⟩
  | ok merged lastError =>
      simp only [sat_bind, sat_perform, sat_pure, step]
      intro _ _ ⟨_, h₄⟩ _ _ ⟨_, _, _, h₅⟩ fil _ ⟨hfil, _, h₆⟩ _ _ ⟨_, h₇⟩ _ _ ⟨_, h₈⟩
      subst h₄ h₅ hfil h₆ h₇ h₈
      refine ⟨.ok merged lastError, ⟨hallowed, _, o, hos⟩, rfl, trivial, ?_⟩
      show (Nodes.addFileNode _ _).2 = _
      rw [Nodes.setDescriptor_makeShared]
      rfl

/-- Up to the lookup nothing happens to the store. -/
theorem ends_setFileSecurity {Q : Trace → NTSTATUS → World O → Prop}
    (hinvalid : info.context = 0 ∨ info.context = INVALID_HANDLE_VALUE →
      ∀ w', w'.nodes = w.nodes → Q [] STATUS_INVALID_HANDLE w')
    (hfound : ∀ w', w'.nodes = w.nodes →
      Ends env os (setFound env stat stray fileName parts sd info (w.nodes.findFileNode fileName)) w' Q) :
    Ends env os (mirrorSetFileSecurity env stat stray fileName parts sd info) w Q := by
  refine ends_filePathOf_bind fun path _ => ?_
  refine ends_silent_call trivial fun _ w₂ hw₂ => ?_
  split
  · next hinv =>
    refine ends_silent_call trivial fun _ w₃ h₃ => ?_
    exact ends_pure (hinvalid hinv _ (h₃.trans hw₂))
  · refine ends_silent_bind silent_checkFlags fun _ w₃ h₃ => ?_
    refine ends_call fun _ w₄ ⟨hf, hw₄⟩ => ?_
    rw [hf, hw₄, h₃, hw₂]
    exact hfound w₃ (h₃.trans hw₂)

/-- With an open handle and a path that fits, a run of the branch is the end of a run
of the callback. -/
theorem run_setFileSecurity {status : NTSTATUS} {tr : Trace} {w' : World O} {path : WString}
    {f : Option Ptr} (hpath : getFilePath env.globals DOKAN_MAX_PATH fileName = some path)
    (hopen : ¬ (info.context = 0 ∨ info.context = INVALID_HANDLE_VALUE))
    (hf : w.nodes.findFileNode fileName = f)
    (h : Run (step env os) (setFound env stat stray fileName parts sd info f) w tr status w') :
    ∃ tr', Run (step env os) (mirrorSetFileSecurity env stat stray fileName parts sd info) w tr'
      status w' := by
  have hcheck : ∃ tr, Run (step env os) (checkFlags parts securityFlags) w tr () w :=
    run_checkFlags
  obtain ⟨tr₁, hcheck⟩ := hcheck
  have hfind : Run (step env os) (Prog.perform (Call.findFileNode fileName)) w
      [⟨.findFileNode fileName, f⟩] f w := .call ⟨hf.symm, rfl⟩ .done
  exact ⟨_, (run_filePathOf hpath).bind
    (run_print.bind (Run.ite_neg hopen (hcheck.bind (hfind.bind h))))⟩

/-- A call of `MirrorSetFileSecurity`: the arguments besides the name, and what the
variables hold that are never written to. -/
structure SetCall where
  stat : NTSTATUS
  stray : CodeUnits := []
  parts : DWORD
  securityDescriptor : SecurityDescriptor
  info : DokanFileInfo

/-- What a call does to the store, by the answer to its merge: with a node … -/
def existingChange (env : Env) (fileName : WString) (r : SetCall) (node : Filenode) :
    Trace → Nodes.Change
  | [⟨.win32 (.setPrivateObjectSecurity _ _ current), out⟩] =>
      if r.stat ≠ ERROR_SUCCESS then .keep
      else
        .secure fileName (node.security.setDescriptor env.convertSD r.stray
          (some (Option.getD out.toOption current)))
  | _ => .keep

/-- … and without one. -/
def newChange (env : Env) (fileName : WString) (r : SetCall) : Trace → Nodes.Change
  | [⟨.win32 (.setPrivateObjectSecurity ..), .ok merged _⟩] =>
      .put (securedNode env r.stray fileName r.info merged)
  | _ => .keep

def setChange (env : Env) (fileName : WString) (r : SetCall) (n : Nodes) (shown : Trace) :
    Nodes.Change :=
  match n.node fileName with
  | some node => existingChange env fileName r node shown
  | none => newChange env fileName r shown

/-- **Setting is a change of the store.** -/
theorem set_change {r : SetCall} {tr : Trace} {status : NTSTATUS} {w' : World O}
    (h : Run (step env os)
      (mirrorSetFileSecurity env r.stat r.stray fileName r.parts r.securityDescriptor r.info) w tr status w') :
    (setChange env fileName r w.nodes (asked tr)).Between w.nodes w'.nodes := by
  have hends : Ends env os
      (mirrorSetFileSecurity env r.stat r.stray fileName r.parts r.securityDescriptor r.info) w
      (fun shown _ w' => (setChange env fileName r w.nodes shown).Between w.nodes w'.nodes) := by
    unfold setChange
    refine ends_setFileSecurity (fun _ w₁ h₁ => ?_) fun w₁ h₁ => ?_
    · cases w.nodes.node fileName with
      | none => exact Nodes.Same.of_eq h₁
      | some node => exact Nodes.Same.of_eq h₁
    · cases hf : w.nodes.findFileNode fileName with
      | some p =>
          refine Sat.mono sat_setExisting ?_
          rintro tr status w' ⟨out, -, htr, hend⟩
          rw [h₁] at htr hend
          rw [htr, Nodes.node, hf]
          show (if r.stat ≠ ERROR_SUCCESS then Nodes.Change.keep else _).Between _ _
          by_cases hstat : r.stat ≠ ERROR_SUCCESS
          · rw [if_pos hstat] at hend ⊢
            exact Nodes.Same.of_eq hend.2
          · rw [if_neg hstat] at hend ⊢
            exact ⟨p, hf, Nodes.Same.of_eq hend.2⟩
      | none =>
          refine Sat.mono sat_setNew ?_
          rintro tr status w' ⟨out, -, htr, hend⟩
          rw [h₁] at hend
          rw [htr, Nodes.node, hf]
          cases out with
          | fail error => exact Nodes.Same.of_eq hend.2.1
          | ok merged e => exact Nodes.Same.of_eq hend.2
  exact hends tr status w' h

end

/-! ## Calls that run -/

/-- The handle of the call is open. -/
def SetCall.Open (r : SetCall) : Prop := ¬ (r.info.context = 0 ∨ r.info.context = INVALID_HANDLE_VALUE)

/-- An operating system on which every merge comes out the same way: it succeeds, or
fails with an error.  Everything else may answer as it likes. -/
def mergesAs (outcome : Option Win32Error) :
    Unit → (c : Win32Call) → Outcome c.Value → Unit → Prop
  | _, .setPrivateObjectSecurity .., .ok _ _, _ => outcome = none
  | _, .setPrivateObjectSecurity .., .fail error, _ => outcome = some error
  | _, _, _, _ => True

/-- The answer to a merge there. -/
def mergeAnswer (env : Env) (parts : DWORD) (sd current : SecurityDescriptor) :
    Option Win32Error → Outcome SecurityDescriptor
  | none => .ok (env.merge parts sd current) 0
  | some error => .fail error

section

variable {env : Env} {outcome : Option Win32Error} {w w' : World Unit} {tr : Trace} {stat : NTSTATUS}
  {stray : CodeUnits} {fileName : WString} {parts : DWORD} {sd : SecurityDescriptor}
  {info : DokanFileInfo} {p : Ptr} {status : NTSTATUS}

theorem mergesAs_total (o : Unit) (c : Win32Call) :
    ∃ x o', Win32Call.Allowed env c x ∧ mergesAs none o c x o' := by
  cases c with
  | setPrivateObjectSecurity parts sd current =>
      exact ⟨.ok (env.merge parts sd current) 0, (), rfl, rfl⟩
  | _ => exact ⟨.fail ⟨1, by decide⟩, (), trivial, trivial⟩

theorem merged_success {current : SecurityDescriptor} {r : Outcome SecurityDescriptor}
    (h : Merged env (mergesAs none) parts sd current r) :
    ∃ e, r = .ok (env.merge parts sd current) e := by
  obtain ⟨hallowed, _, _, hos⟩ := h
  cases r with
  | ok merged e => exact ⟨e, by rw [show merged = env.merge parts sd current from hallowed]⟩
  | fail error => cases hos

theorem merged_failure {current : SecurityDescriptor} {r : Outcome SecurityDescriptor}
    {error : Win32Error} (h : Merged env (mergesAs (some error)) parts sd current r) :
    r = .fail error := by
  obtain ⟨-, _, _, hos⟩ := h
  cases r with
  | ok merged e => cases hos
  | fail e => rw [Option.some.inj hos]

/-- The merge is made, with any last error before it. -/
theorem step_merge {current : SecurityDescriptor} :
    step env (mergesAs outcome) w (.win32 (.setPrivateObjectSecurity parts sd current))
      (mergeAnswer env parts sd current outcome)
      { w with lastError := (mergeAnswer env parts sd current outcome).lastError } := by
  cases outcome with
  | none => exact ⟨rfl, (), rfl, rfl⟩
  | some error => exact ⟨trivial, (), rfl, rfl⟩

/-- What a call prints can be printed: the descriptor it is given, and for a file without a
node the one it makes. -/
structure Printable (env : Env) (parts : DWORD) (sd : SecurityDescriptor) (found : Bool) : Prop where
  given : env.printable (some sd) = true
  made : found = false → env.printable (some (env.merge parts sd env.defaultSD)) = true

theorem Printable.of_off (hoff : env.debugMode = false) {found : Bool} : Printable env parts sd found :=
  ⟨env.printable_of_off hoff _, fun _ => env.printable_of_off hoff _⟩

theorem step_printSD (hprint : env.printable (some sd) = true) (num : Int) (e : DWORD) :
    step env (mergesAs outcome) w (.printSD (some sd) num) () { w with lastError := e } :=
  ⟨hprint, e, fun h => absurd h (Option.some_ne_none _), rfl⟩

section

variable (outcome w stat stray fileName parts info p)

/-- With a node, and `stat` not zero: refused with the error `e` the printing left. -/
theorem run_setExisting_refused (hprint : env.printable (some sd) = true) (hstat : stat ≠ ERROR_SUCCESS)
    (e : DWORD) :
    ∃ tr, Run (step env (mergesAs outcome)) (setExisting env stat stray parts sd p) w tr
      (env.ntStatusFromWin32 e) { w with lastError := e } :=
  ⟨_, .call (r := ()) rfl (.call ⟨rfl, 0, rfl⟩ (.call step_merge (.call (step_printSD hprint 6 e)
    (Run.ite_pos hstat (.call ⟨rfl, rfl⟩ (.call (r := ()) rfl .done))))))⟩

/-- With a node, and `stat` zero: what the merge left is stored. -/
theorem run_setExisting_stored (hprint : env.printable (some sd) = true) (hstat : stat = ERROR_SUCCESS) :
    ∃ tr w', Run (step env (mergesAs outcome)) (setExisting env stat stray parts sd p) w tr STATUS_SUCCESS
      w' :=
  ⟨_, _, .call (r := ()) rfl (.call ⟨rfl, 0, rfl⟩ (.call step_merge (.call (step_printSD hprint 6 0)
    (Run.ite_neg (not_not.mpr hstat) (.call (r := ()) ⟨0, rfl⟩ (.call (r := ()) rfl .done))))))⟩

/-- Without a node: a merge that fails, `e` being what the log line leaves. -/
theorem run_setNew_failed {error : Win32Error} (hprint : env.printable (some sd) = true) {e : DWORD}
    (he : env.debugMode = false → e = error.1) :
    ∃ tr, Run (step env (mergesAs (some error))) (setNew env stat stray fileName parts sd info) w tr
      (env.ntStatusFromWin32 e) { w with lastError := e } :=
  ⟨_, .call ⟨rfl, 0, rfl⟩ (.call (step_printSD hprint 2 0) (.call step_merge
    (.call (r := ()) ⟨e, he, rfl⟩ (.call ⟨rfl, rfl⟩ .done))))⟩

/-- Without a node: a merge that succeeds. -/
theorem run_setNew_stored (hprint : Printable env parts sd false) :
    ∃ tr w', Run (step env (mergesAs none)) (setNew env stat stray fileName parts sd info) w tr
      STATUS_SUCCESS w' :=
  ⟨_, _, .call ⟨rfl, 0, rfl⟩ (.call (step_printSD hprint.given 2 0) (.call step_merge
    (.call (r := ()) ⟨0, rfl⟩ (.call (step_printSD (hprint.made rfl) 3 0) (.call ⟨rfl, 0, rfl⟩
      (.call (r := ()) ⟨0, rfl⟩ (.call ⟨rfl, rfl⟩ .done)))))))⟩

theorem exists_run_setFound {f : Option Ptr} (hprint : Printable env parts sd f.isSome) :
    ∃ tr status w', Run (step env (mergesAs none)) (setFound env stat stray fileName parts sd info f) w tr
      status w' := by
  cases f with
  | none =>
      obtain ⟨tr, w', h⟩ := run_setNew_stored w stat stray fileName parts info hprint
      exact ⟨tr, _, w', h⟩
  | some p =>
      by_cases hstat : stat = ERROR_SUCCESS
      · obtain ⟨tr, w', h⟩ := run_setExisting_stored none w stat stray parts p hprint.given hstat
        exact ⟨tr, _, w', h⟩
      · obtain ⟨tr, h⟩ := run_setExisting_refused none w stat stray parts p hprint.given hstat 0
        exact ⟨tr, _, _, h⟩

end

/-- A branch that ends has printed what it prints: the one for a file without a node … -/
theorem Printable.of_new
    (h : Run (step env (mergesAs none)) (setNew env stat stray fileName parts sd info) w tr status w') :
    Printable env parts sd false := by
  have hsat : Sat (step env (mergesAs none)) (setNew env stat stray fileName parts sd info) w
      (fun _ _ _ => Printable env parts sd false) := by
    refine sat_perform_bind.mpr fun current w₁ ⟨hcurrent, _⟩ => ?_
    refine sat_perform_bind.mpr fun _ w₂ ⟨hgiven, _⟩ => ?_
    refine sat_perform_bind.mpr fun r w₃ ⟨hallowed, o, hos, _⟩ => ?_
    obtain ⟨e, hr⟩ := merged_success ⟨hallowed, _, o, hos⟩
    rw [hr, hcurrent]
    refine sat_perform_bind.mpr fun _ w₄ _ => ?_
    exact sat_perform_bind.mpr fun _ w₅ ⟨hmade, _⟩ _ _ _ _ => ⟨hgiven, fun _ => hmade⟩
  exact hsat tr status w' h

/-- … and the one for a file that has one. -/
theorem Printable.of_existing
    (h : Run (step env (mergesAs none)) (setExisting env stat stray parts sd p) w tr status w') :
    Printable env parts sd true := by
  have hsat : Sat (step env (mergesAs none)) (setExisting env stat stray parts sd p) w
      (fun _ _ _ => env.printable (some sd) = true) :=
    sat_perform_bind.mpr fun _ _ _ => sat_perform_bind.mpr fun _ _ _ =>
      sat_perform_bind.mpr fun _ _ _ => sat_perform_bind.mpr fun _ _ ⟨hgiven, _⟩ _ _ _ _ => hgiven
  exact ⟨hsat tr status w' h, Bool.noConfusion⟩

end

section

variable {env : Env} {fileName : WString} {r : SetCall} {w : World Unit}

/-- A call with an open handle can run, if what it prints can be printed. -/
theorem exists_run_set (hfits : (getFilePath env.globals DOKAN_MAX_PATH fileName).isSome)
    (hopen : r.Open)
    (hprint : Printable env r.parts r.securityDescriptor (w.nodes.findFileNode fileName).isSome) :
    ∃ tr status w', Run (step env (mergesAs none))
      (mirrorSetFileSecurity env r.stat r.stray fileName r.parts r.securityDescriptor r.info) w tr status
      w' := by
  obtain ⟨path, hpath⟩ := Option.isSome_iff_exists.mp hfits
  obtain ⟨_, status, w', hrun⟩ := exists_run_setFound w r.stat r.stray fileName r.parts
    r.info hprint
  obtain ⟨tr, htr⟩ := run_setFileSecurity hpath hopen rfl hrun
  exact ⟨tr, status, w', htr⟩

end

/-- A call on the sample mount. -/
def SetCall.plain (parts : DWORD) (sd : SecurityDescriptor) : SetCall :=
  { stat := 0, parts := parts, securityDescriptor := sd, info := { context := 8 } }

theorem SetCall.plain_open {parts : DWORD} {sd : SecurityDescriptor} :
    (SetCall.plain parts sd).Open := by
  show ¬ ((8 : HANDLE) = 0 ∨ (8 : HANDLE) = INVALID_HANDLE_VALUE)
  decide

/-! ## What setting should do -/

section

variable {env : Env} {outcome : Option Win32Error} {w w' : World Unit} {tr : Trace} {stat status : NTSTATUS}
  {stray : CodeUnits} {fileName : WString} {parts : DWORD} {sd : SecurityDescriptor}
  {info : DokanFileInfo} {path : WString}

/-- Setting the security of `fileName`, from the store `n` with status `status` to the
store `n'`, does what the merge's outcome asks for. -/
def SetsSecurity (env : Env) (fileName : WString) (parts : DWORD) (sd : SecurityDescriptor)
    (n : Nodes) (status : NTSTATUS) (n' : Nodes) : Option Win32Error → Prop
  | none =>
      status = STATUS_SUCCESS ∧
        (n'.node fileName).bind (fun f => f.security.descriptor) =
          some (env.merge parts sd (env.readSD n fileName)) ∧
        ∀ other, other ≠ fileName → n'.node other = n.node other
  | some _ => Failure status ∧ Nodes.Same n n'

/-- A call from `w` comes to an end, that end is what the merge's outcome asks for, and it is
the same whatever the variables hold that nothing was written to. -/
structure AlwaysSets (env : Env) (outcome : Option Win32Error) (w : World Unit) (fileName : WString)
    (parts : DWORD) (sd : SecurityDescriptor) (info : DokanFileInfo) : Prop where
  ends : ∀ stat stray, ∃ tr status w', Run (step env (mergesAs outcome))
    (mirrorSetFileSecurity env stat stray fileName parts sd info) w tr status w'
  sets : ∀ stat stray tr status w', Run (step env (mergesAs outcome))
    (mirrorSetFileSecurity env stat stray fileName parts sd info) w tr status w' →
    SetsSecurity env fileName parts sd w.nodes status w'.nodes outcome
  alike : ∀ stat₁ stray₁ tr₁ status₁ w₁ stat₂ stray₂ tr₂ status₂ w₂,
    Run (step env (mergesAs outcome))
      (mirrorSetFileSecurity env stat₁ stray₁ fileName parts sd info) w tr₁ status₁ w₁ →
    Run (step env (mergesAs outcome))
      (mirrorSetFileSecurity env stat₂ stray₂ fileName parts sd info) w tr₂ status₂ w₂ →
    status₂ = status₁ ∧ Nodes.Same w₁.nodes w₂.nodes

/-- When it does: the file has no node yet; a descriptor that is stored has a text, and
none with a NULL DACL is printed; and no error is reported behind a log line. -/
def SetsWhen (env : Env) (w : World Unit) (fileName : WString) (parts : DWORD) (sd : SecurityDescriptor)
    (outcome : Option Win32Error) : Prop :=
  w.nodes.node fileName = none ∧
    match outcome with
    | none => (env.convertSD (env.merge parts sd env.defaultSD)).isSome = true ∧ Printable env parts sd false
    | some _ => env.debugMode = false

theorem not_failure_success : ¬ Failure STATUS_SUCCESS := by decide

/-- With an open handle, and nothing stored yet, a call is the branch for a new file. -/
theorem sat_setFileSecurity_new {Q : NTSTATUS → World Unit → Prop}
    (hnew : w.nodes.findFileNode fileName = none)
    (hopen : ¬ (info.context = 0 ∨ info.context = INVALID_HANDLE_VALUE))
    (h : ∀ w₁ : World Unit, w₁.nodes = w.nodes → Sat (step env (mergesAs outcome))
      (setNew env stat stray fileName parts sd info) w₁ fun _ => Q) :
    Sat (step env (mergesAs outcome)) (mirrorSetFileSecurity env stat stray fileName parts sd info) w
      fun _ => Q := by
  have hends : Ends env (mergesAs outcome) (mirrorSetFileSecurity env stat stray fileName parts sd info) w
      fun _ => Q := by
    refine ends_setFileSecurity (fun hinv => absurd hinv hopen) fun w₁ hw₁ => ?_
    rw [hnew]
    exact h w₁ hw₁
  exact hends

/-- A merge that succeeds is stored, with the text of the descriptor or a stray one. -/
theorem set_new_stored (hnew : w.nodes.findFileNode fileName = none)
    (hopen : ¬ (info.context = 0 ∨ info.context = INVALID_HANDLE_VALUE))
    (h : Run (step env (mergesAs none)) (mirrorSetFileSecurity env stat stray fileName parts sd info) w tr
      status w') :
    status = STATUS_SUCCESS ∧ w'.nodes =
      w.nodes.enter (securedNode env stray fileName info (env.merge parts sd env.defaultSD)) := by
  refine sat_setFileSecurity_new (Q := fun status w' => status = STATUS_SUCCESS ∧ w'.nodes =
    w.nodes.enter (securedNode env stray fileName info (env.merge parts sd env.defaultSD))) hnew hopen
    (fun w₁ hw₁ => sat_setNew.mono fun _ status w' ⟨r, hr, _, hend⟩ => ?_) tr status w' h
  obtain ⟨e, rfl⟩ := merged_success hr
  rw [hw₁] at hend
  exact hend

/-- A merge that fails changes nothing, and with debugging off its error is returned. -/
theorem set_new_failed {error : Win32Error} (hnew : w.nodes.findFileNode fileName = none)
    (hoff : env.debugMode = false)
    (hopen : ¬ (info.context = 0 ∨ info.context = INVALID_HANDLE_VALUE))
    (h : Run (step env (mergesAs (some error))) (mirrorSetFileSecurity env stat stray fileName parts sd info)
      w tr status w') :
    status = env.ntStatusFromWin32 error ∧ w'.nodes = w.nodes := by
  refine sat_setFileSecurity_new (Q := fun status w' => status = env.ntStatusFromWin32 error ∧
    w'.nodes = w.nodes) hnew hopen
    (fun w₁ hw₁ => sat_setNew.mono fun _ status w' ⟨r, hr, _, hend⟩ => ?_) tr status w' h
  obtain rfl := merged_failure hr
  obtain ⟨rfl, hnodes, hlast⟩ := hend
  rw [hlast hoff]
  exact ⟨rfl, hnodes.trans hw₁⟩

theorem node_securedNode (hnew : w.nodes.findFileNode fileName = none) {merged : SecurityDescriptor} :
    (w.nodes.enter (securedNode env stray fileName info merged)).node =
      Function.update w.nodes.node fileName (some (securedNode env stray fileName info merged)) :=
  Nodes.node_enter (f := securedNode env stray fileName info merged) hnew

/-- A file without a node: the merged descriptor is stored. -/
theorem setsSecurity_of_new (hnew : w.nodes.findFileNode fileName = none)
    (hopen : ¬ (info.context = 0 ∨ info.context = INVALID_HANDLE_VALUE))
    (h : Run (step env (mergesAs none)) (mirrorSetFileSecurity env stat stray fileName parts sd info) w tr
      status w') :
    SetsSecurity env fileName parts sd w.nodes status w'.nodes none := by
  obtain ⟨hstatus, hnodes⟩ := set_new_stored hnew hopen h
  have hread : env.readSD w.nodes fileName = env.defaultSD := by
    unfold Env.readSD
    rw [Nodes.node_eq_none.mpr hnew]
  refine ⟨hstatus, ?_, fun other hother => ?_⟩
  · rw [hnodes, node_securedNode hnew, Function.update_self, hread]
    rfl
  · rw [hnodes, node_securedNode hnew, Function.update_of_ne hother]

/-- A stray text shows in the store. -/
theorem convertSD_of_alike (hnew : w.nodes.findFileNode fileName = none)
    (hopen : ¬ (info.context = 0 ∨ info.context = INVALID_HANDLE_VALUE))
    (h : AlwaysSets env none w fileName parts sd info) :
    (env.convertSD (env.merge parts sd env.defaultSD)).isSome = true := by
  cases htext : env.convertSD (env.merge parts sd env.defaultSD) with
  | some text => rfl
  | none =>
      obtain ⟨tr₁, status₁, w₁, hrun₁⟩ := h.ends 0 []
      obtain ⟨tr₂, status₂, w₂, hrun₂⟩ := h.ends 0 [1]
      obtain ⟨-, hsame⟩ := h.alike _ _ _ _ _ _ _ _ _ _ hrun₁ hrun₂
      have hnode : w₂.nodes.node fileName = w₁.nodes.node fileName := hsame.node
      rw [(set_new_stored hnew hopen hrun₁).2, (set_new_stored hnew hopen hrun₂).2, node_securedNode hnew,
        node_securedNode hnew, Function.update_self, Function.update_self] at hnode
      have htexts := congrArg (fun f => f.security.strdescriptor) (Option.some.inj hnode)
      simp only [securedNode, htext, Option.getD_none] at htexts
      exact absurd htexts (List.cons_ne_nil _ _)

/-- A call for a new file that ends has printed what it prints. -/
theorem printable_of_new (hnew : w.nodes.findFileNode fileName = none)
    (hopen : ¬ (info.context = 0 ∨ info.context = INVALID_HANDLE_VALUE))
    (h : Run (step env (mergesAs none)) (mirrorSetFileSecurity env stat stray fileName parts sd info) w tr
      status w') :
    Printable env parts sd false :=
  sat_setFileSecurity_new (Q := fun _ _ => Printable env parts sd false) hnew hopen
    (fun _ _ _ _ _ hrun => Printable.of_new hrun) tr status w' h

/-- A call with an open handle that ends has printed the descriptor it was given. -/
theorem printable_of_set (hopen : ¬ (info.context = 0 ∨ info.context = INVALID_HANDLE_VALUE))
    (h : Run (step env (mergesAs outcome)) (mirrorSetFileSecurity env stat stray fileName parts sd info) w tr
      status w') :
    env.printable (some sd) = true := by
  have hends : Ends env (mergesAs outcome) (mirrorSetFileSecurity env stat stray fileName parts sd info) w
      fun _ _ _ => env.printable (some sd) = true := by
    refine ends_setFileSecurity (fun hinv => absurd hinv hopen) fun w₁ _ => ?_
    cases w.nodes.findFileNode fileName with
    | none => exact ends_call fun _ _ _ => ends_call fun _ _ ⟨hgiven, _⟩ _ _ _ _ => hgiven
    | some p =>
        exact ends_call fun _ _ _ => ends_call fun _ _ _ => ends_call fun _ _ _ =>
          ends_call fun _ _ ⟨hgiven, _⟩ _ _ _ _ => hgiven
  exact hends tr status w' h

/-- With a node, some value of `stat` makes the outcome wrong. -/
theorem not_alwaysSets_of_existing {p : Ptr} (hp : w.nodes.findFileNode fileName = some p)
    (hpath : getFilePath env.globals DOKAN_MAX_PATH fileName = some path)
    (hopen : ¬ (info.context = 0 ∨ info.context = INVALID_HANDLE_VALUE)) :
    ¬ AlwaysSets env outcome w fileName parts sd info := by
  intro h
  obtain ⟨_, _, _, hrun⟩ := h.ends 0 []
  have hprint := printable_of_set hopen hrun
  cases outcome with
  | none =>
      -- a successful merge is refused with the error the printing left
      obtain ⟨tr, hrun⟩ := run_setExisting_refused none w 1 [] parts p hprint (by decide) 1
      obtain ⟨tr, htr⟩ := run_setFileSecurity hpath hopen hp hrun
      exact env.ntStatus_error 1 (by decide) (h.sets _ _ _ _ _ htr).1
  | some error =>
      -- a failed merge is reported as a success
      obtain ⟨tr, w', hrun⟩ := run_setExisting_stored (some error) w ERROR_SUCCESS [] parts p hprint rfl
      obtain ⟨tr, htr⟩ := run_setFileSecurity hpath hopen hp hrun
      exact not_failure_success (h.sets _ _ _ _ _ htr).1

/-- A failed merge for a file without a node, with debug printing on: the message may
clear the error that is then returned. -/
theorem off_of_alwaysSets {error : Win32Error} (hnew : w.nodes.findFileNode fileName = none)
    (hpath : getFilePath env.globals DOKAN_MAX_PATH fileName = some path)
    (hopen : ¬ (info.context = 0 ∨ info.context = INVALID_HANDLE_VALUE))
    (h : AlwaysSets env (some error) w fileName parts sd info) : env.debugMode = false := by
  obtain ⟨_, _, _, hrun⟩ := h.ends 0 []
  have hprint := printable_of_set hopen hrun
  cases hdebug : env.debugMode with
  | false => rfl
  | true =>
      have hon : env.debugMode = false → (0 : DWORD) = error.1 := fun hoff => by
        rw [hdebug] at hoff
        cases hoff
      obtain ⟨tr, hrun⟩ := run_setNew_failed w 0 [] fileName parts info hprint hon
      obtain ⟨tr, htr⟩ := run_setFileSecurity hpath hopen hnew hrun
      have hfail := (h.sets _ _ _ _ _ htr).1
      rw [show env.ntStatusFromWin32 0 = STATUS_SUCCESS from env.ntStatus_success] at hfail
      exact absurd hfail not_failure_success

/-- What is stored does not depend on the stray text. -/
theorem securedNode_text (hconvert : (env.convertSD (env.merge parts sd env.defaultSD)).isSome = true)
    (stray₁ stray₂ : CodeUnits) :
    securedNode env stray₁ fileName info (env.merge parts sd env.defaultSD) =
      securedNode env stray₂ fileName info (env.merge parts sd env.defaultSD) := by
  obtain ⟨text, htext⟩ := Option.isSome_iff_exists.mp hconvert
  unfold securedNode
  rw [htext, Option.getD_some, Option.getD_some]

/-- A merge that succeeds, of a file without a node. -/
theorem alwaysSets_stored (hnew : w.nodes.findFileNode fileName = none)
    (hpath : getFilePath env.globals DOKAN_MAX_PATH fileName = some path)
    (hopen : ¬ (info.context = 0 ∨ info.context = INVALID_HANDLE_VALUE))
    (hconvert : (env.convertSD (env.merge parts sd env.defaultSD)).isSome = true)
    (hprint : Printable env parts sd false) : AlwaysSets env none w fileName parts sd info where
  ends stat stray := by
    obtain ⟨tr, w', hrun⟩ := run_setNew_stored w stat stray fileName parts info hprint
    obtain ⟨tr, htr⟩ := run_setFileSecurity hpath hopen hnew hrun
    exact ⟨tr, _, w', htr⟩
  sets _ _ _ _ _ hrun := setsSecurity_of_new hnew hopen hrun
  alike _ stray₁ _ _ _ _ stray₂ _ _ _ hrun₁ hrun₂ := by
    obtain ⟨hstatus₁, hnodes₁⟩ := set_new_stored hnew hopen hrun₁
    obtain ⟨hstatus₂, hnodes₂⟩ := set_new_stored hnew hopen hrun₂
    refine ⟨hstatus₂.trans hstatus₁.symm, Nodes.Same.of_eq ?_⟩
    rw [hnodes₁, hnodes₂, securedNode_text hconvert stray₁ stray₂]

/-- A merge that fails, of a file without a node. -/
theorem alwaysSets_failed {error : Win32Error} (hnew : w.nodes.findFileNode fileName = none)
    (hpath : getFilePath env.globals DOKAN_MAX_PATH fileName = some path)
    (hopen : ¬ (info.context = 0 ∨ info.context = INVALID_HANDLE_VALUE)) (hoff : env.debugMode = false)
    (hfail : Failure (env.ntStatusFromWin32 error)) :
    AlwaysSets env (some error) w fileName parts sd info where
  ends stat stray := by
    obtain ⟨tr, hrun⟩ := run_setNew_failed w stat stray fileName parts info
      (env.printable_of_off hoff (some sd)) fun _ => rfl
    obtain ⟨tr, htr⟩ := run_setFileSecurity hpath hopen hnew hrun
    exact ⟨tr, _, _, htr⟩
  sets _ _ _ _ _ hrun := by
    obtain ⟨rfl, hnodes⟩ := set_new_failed hnew hoff hopen hrun
    exact ⟨hfail, Nodes.Same.of_eq hnodes⟩
  alike _ _ _ _ _ _ _ _ _ _ hrun₁ hrun₂ := by
    obtain ⟨hstatus₁, hnodes₁⟩ := set_new_failed hnew hoff hopen hrun₁
    obtain ⟨hstatus₂, hnodes₂⟩ := set_new_failed hnew hoff hopen hrun₂
    exact ⟨hstatus₂.trans hstatus₁.symm, Nodes.Same.of_eq (hnodes₂.trans hnodes₁.symm)⟩

end

end SeamlessSmb
