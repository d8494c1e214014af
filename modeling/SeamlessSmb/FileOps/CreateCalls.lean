/-
# `FileOps.CreateCalls` — what a create asks of the platform, in order

`FileOps.Create` tells the runs of `MirrorCreateFile` by what they do to the store, and passes
over the calls that do nothing to it.  Here all calls of the API are told, in their order, and
with the calls around them: the name of the calling process, the attributes, the token to
impersonate the caller with, and the two sections it is used in.

| | |
| :-- | :-- |
| `Section` | a call, and the calls that impersonate the caller around it |
| `FolderCalls` | the first half of the directory branch |
| `BranchCalls` | either branch |
| `CreateCalls` | the callback |

**Proved here:** every run is one of these (`run_createCalls`).
-/
import SeamlessSmb.FileOps.Create

namespace SeamlessSmb

open Calls

/-- The call is one of the API. -/
def Call.isWin32 : Call → Bool
  | .win32 _ => true
  | _ => false

/-! ## The sequences -/

/-- A call, and what is called around it: with a token to impersonate the caller with, the
impersonation before it, and after it the way back, and before that the end of the token if
it is to be closed. -/
inductive Section (env : Env) (token : HANDLE) (e : Event Call Answer) : (close : Bool) → Trace → Prop
  | bare {close : Bool} : ¬ Impersonates env token → Section env token e close [e]
  | kept {r r' : Outcome Unit} : Impersonates env token →
      Section env token e false
        [⟨.win32 (.impersonateLoggedOnUser token), r⟩, e, ⟨.win32 .revertToSelf, r'⟩]
  | closed {r r' r'' : Outcome Unit} : Impersonates env token →
      Section env token e true
        [⟨.win32 (.impersonateLoggedOnUser token), r⟩, e, ⟨.win32 (.closeHandle token), r'⟩,
          ⟨.win32 .revertToSelf, r''⟩]

/-- The token, and the call that opened it. -/
inductive TokenCalls (env : Env) : HANDLE → Trace → Prop
  | off : env.globals.impersonateCallerUser = false → TokenCalls env INVALID_HANDLE_VALUE []
  | asked {r : Outcome HANDLE} : env.globals.impersonateCallerUser = true →
      TokenCalls env (r.toOption.getD INVALID_HANDLE_VALUE) [⟨.win32 .dokanOpenRequestorToken, r⟩]

/-- A folder is made if it is new, or opened or made. -/
def MakesFolder (disposition : DWORD) : Prop := disposition = CREATE_NEW ∨ disposition = OPEN_ALWAYS

instance (d : DWORD) : Decidable (MakesFolder d) := inferInstanceAs (Decidable (_ ∨ _))

/-- The making of the folder ends the request. -/
def FolderFails (disposition : DWORD) : Outcome Unit → Prop
  | .ok _ _ => False
  | .fail error => error.1 ≠ ERROR_ALREADY_EXISTS ∨ disposition = CREATE_NEW

/-- The request asks for a directory, and there is a file. -/
def RefusesFolder (q : CreateRequest) (fileAttr : DWORD) : Prop :=
  fileAttr ≠ INVALID_FILE_ATTRIBUTES ∧ fileAttr &&& FILE_ATTRIBUTE_DIRECTORY = 0 ∧
    q.createOptions &&& FILE_DIRECTORY_FILE ≠ 0

instance (q : CreateRequest) (a : DWORD) : Decidable (RefusesFolder q a) :=
  inferInstanceAs (Decidable (_ ∧ _ ∧ _))

/-- The first half of the directory branch, and whether the second follows. -/
inductive FolderCalls (env : Env) (l : CreateLocals) : (goesOn : Bool) → Trace → Prop
  | existing : ¬ MakesFolder l.creationDisposition → FolderCalls env l true []
  | made {sd : Option SecurityDescriptor} {r : Outcome Unit} {tr : Trace} :
      MakesFolder l.creationDisposition → ¬ FolderFails l.creationDisposition r →
      Section env l.userTokenHandle ⟨.win32 (.createDirectory l.filePath sd), r⟩ false tr →
      FolderCalls env l true tr
  | failed {sd : Option SecurityDescriptor} {r : Outcome Unit} {tr : Trace} :
      MakesFolder l.creationDisposition → FolderFails l.creationDisposition r →
      Section env l.userTokenHandle ⟨.win32 (.createDirectory l.filePath sd), r⟩ true tr →
      FolderCalls env l false tr

/-- The two branches. -/
inductive BranchCalls (env : Env) (q : CreateRequest) (l : CreateLocals) : (directory : Bool) → Trace → Prop
  | notMade {tr : Trace} : FolderCalls env l false tr → BranchCalls env q l true tr
  | notADirectory {tr : Trace} : FolderCalls env l true tr → RefusesFolder q l.fileAttr →
      BranchCalls env q l true tr
  | folder {access : DWORD} {sd : Option SecurityDescriptor} {r : Outcome OpenHandle} {tr tr' : Trace} :
      FolderCalls env l true tr → ¬ RefusesFolder q l.fileAttr →
      Section env l.userTokenHandle
        ⟨.win32 (.createFile l.filePath access l.shareAccess sd OPEN_EXISTING
          (l.fileAttributesAndFlags ||| FILE_FLAG_BACKUP_SEMANTICS)), r⟩ true tr' →
      BranchCalls env q l true (tr ++ tr')
  | cannotDelete : CannotDelete l.fileAttr l.fileAttributesAndFlags → BranchCalls env q l false []
  | file {access : DWORD} {sd : Option SecurityDescriptor} {r : Outcome OpenHandle} {tr after : Trace} :
      ¬ CannotDelete l.fileAttr l.fileAttributesAndFlags →
      Section env l.userTokenHandle
        ⟨.win32 (.createFile l.filePath access l.shareAccess sd l.creationDisposition
          l.fileAttributesAndFlags), r⟩ true tr →
      (∀ e ∈ after, ∃ a, e.call = .win32 (.setFileAttributes l.filePath a)) →
      BranchCalls env q l false (tr ++ after)

/-- The local variables of a request. -/
def createLocals (env : Env) (q : CreateRequest) (filePath : WString) (fileAttr : DWORD) (token : HANDLE) :
    CreateLocals where
  filePath := filePath
  fileAttr := fileAttr
  desiredAccess := passedAccess q.desiredAccess
  shareAccess := FILE_SHARE_READ ||| FILE_SHARE_WRITE ||| FILE_SHARE_DELETE
  genericDesiredAccess := (userFlags env q).genericDesiredAccess
  fileAttributesAndFlags := (userFlags env q).fileAttributesAndFlags
  creationDisposition := (userFlags env q).creationDisposition
  userTokenHandle := token

/-- The request is one for a directory, by the driver or by the attributes. -/
def ForDirectory (info : DokanFileInfo) (fileAttr : DWORD) : Prop :=
  IsDirectoryAttr fileAttr ∨ info.isDirectory = true

instance (info : DokanFileInfo) (a : DWORD) : Decidable (ForDirectory info a) :=
  inferInstanceAs (Decidable (_ ∨ _))

/-- The calls of the API a run makes. -/
inductive CreateCalls (env : Env) (q : CreateRequest) (info : DokanFileInfo) : Trace → Prop
  | aDirectory {path : WString} {name : Outcome WString} {a : Outcome Attributes} :
      CreateCalls env q info
        [⟨.win32 (.getProcessNameFromPID info.processId), name⟩, ⟨.win32 (.getFileAttributes path), a⟩]
  | branch {path : WString} {name : Outcome WString} {a : Outcome Attributes} {token : HANDLE}
      {opened tr : Trace} : TokenCalls env token opened →
      BranchCalls env q (createLocals env q path (attributesOf a) token)
        (decide (ForDirectory info (attributesOf a))) tr →
      CreateCalls env q info
        (⟨.win32 (.getProcessNameFromPID info.processId), name⟩ ::
          ⟨.win32 (.getFileAttributes path), a⟩ :: (opened ++ tr))

/-- The event is one of those around a call. -/
def HandlesToken (e : Event Call Answer) : Prop :=
  e.call = .win32 .revertToSelf ∨
    ∃ token, e.call = .win32 (.impersonateLoggedOnUser token) ∨ e.call = .win32 (.closeHandle token)

section

variable {env : Env} {token : HANDLE} {e e' : Event Call Answer} {close : Bool} {tr : Trace}

theorem Section.mem_self (h : Section env token e close tr) : e ∈ tr := by
  cases h with
  | bare _ => exact List.mem_cons_self
  | kept _ => exact List.mem_cons_of_mem _ List.mem_cons_self
  | closed _ => exact List.mem_cons_of_mem _ List.mem_cons_self

/-- Nothing else is in the section. -/
theorem Section.mem (h : Section env token e close tr) (he' : e' ∈ tr) : e' = e ∨ HandlesToken e' := by
  cases h with
  | bare _ => exact Or.inl (List.mem_singleton.mp he')
  | kept _ =>
      simp only [List.mem_cons, List.not_mem_nil, or_false] at he'
      rcases he' with rfl | rfl | rfl
      · exact Or.inr (Or.inr ⟨token, Or.inl rfl⟩)
      · exact Or.inl rfl
      · exact Or.inr (Or.inl rfl)
  | closed _ =>
      simp only [List.mem_cons, List.not_mem_nil, or_false] at he'
      rcases he' with rfl | rfl | rfl | rfl
      · exact Or.inr (Or.inr ⟨token, Or.inl rfl⟩)
      · exact Or.inl rfl
      · exact Or.inr (Or.inr ⟨token, Or.inr rfl⟩)
      · exact Or.inr (Or.inl rfl)

theorem TokenCalls.mem (h : TokenCalls env token tr) (he : e ∈ tr) :
    e.call = .win32 .dokanOpenRequestorToken := by
  cases h with
  | off _ => cases he
  | asked _ => rw [List.mem_singleton.mp he]

end

/-! ## The parts of the callback -/

section

variable {O α β : Type} {env : Env} {os : O → (c : Win32Call) → Outcome c.Value → O → Prop}
  {w : World O} {q : CreateRequest} {info : DokanFileInfo} {l : CreateLocals}

/-- Every run of `p` from `w` ends in `Q`, which sees the calls of the API. -/
abbrev Asks (env : Env) (os : O → (c : Win32Call) → Outcome c.Value → O → Prop) (p : Op α) (w : World O)
    (Q : Trace → α → World O → Prop) : Prop :=
  Watch (step env os) Call.isWin32 p w Q

/-- A part that calls nothing of the API. -/
def OwnCalls (p : Op α) : Prop := OnlyCalls (fun c => c.isWin32 = false) p

theorem OwnCalls.asks {p : Op α} {f : α → Op β} {Q : Trace → β → World O → Prop} (hp : OwnCalls p)
    (h : ∀ a w', Asks env os (f a) w' Q) : Asks env os (p >>= f) w Q :=
  watch_bind.mpr (hp.watch fun a w' => h a w')

theorem own_print {format : String} {args : List PrintArg} : OwnCalls (print format args) :=
  onlyCalls_perform.mpr rfl

theorem own_checkFlags {value : DWORD} {flags : List (DWORD × String)} : OwnCalls (checkFlags value flags) :=
  onlyCalls_checkFlags fun _ _ => rfl

theorem own_filePathOf {g : Globals} {f : WString} : OwnCalls (filePathOf g f) :=
  onlyCalls_filePathOf (P := fun c => c.isWin32 = false) rfl

theorem own_makeNodeIf {b : Prop} [Decidable b] {isDirectory : Bool} :
    OwnCalls (makeNodeIf b q isDirectory) := onlyCalls_makeNodeIf (fun _ => rfl) fun _ _ _ => rfl

theorem own_addIf {f : Option Ptr} : OwnCalls (addIf f) := onlyCalls_addIf fun _ => rfl

theorem own_finishCreate {handle : HANDLE} {res : CreateResult} : OwnCalls (finishCreate l handle res) :=
  OnlyCalls.bind (OnlyCalls.onlyIf fun _ => onlyCalls_perform.mpr rfl) fun _ =>
    OnlyCalls.bind own_print fun _ => trivial

theorem asks_impersonate {token : HANDLE} :
    Asks env os (impersonate env token) w (fun tr _ _ =>
      if Impersonates env token then ∃ r, tr = [⟨.win32 (.impersonateLoggedOnUser token), r⟩]
      else tr = []) := by
  unfold impersonate Prog.onlyIf
  split
  · refine (watch_call rfl).mpr fun r w₁ _ => OnlyCalls.watch (OnlyCalls.onlyIf fun _ => own_print) ?_
    exact fun _ _ => ⟨r, rfl⟩
  · exact watch_pure.mpr rfl

theorem asks_endImpersonation {token : HANDLE} {close : Bool} :
    Asks env os (endImpersonation env token close) w (fun tr _ _ =>
      if Impersonates env token then
        if close = true then
          ∃ r r', tr = [⟨.win32 (.closeHandle token), r⟩, ⟨.win32 .revertToSelf, r'⟩]
        else ∃ r, tr = [⟨.win32 .revertToSelf, r⟩]
      else tr = []) := by
  unfold endImpersonation Prog.onlyIf
  split
  · refine (watch_call_of_not rfl).mpr fun e w₁ _ => ?_
    cases close with
    | true =>
        refine (watch_call rfl).mpr fun r w₂ _ => (watch_call rfl).mpr fun r' w₃ _ => ?_
        exact OnlyCalls.watch (onlyCalls_perform.mpr rfl) fun _ _ => ⟨r, r', rfl⟩
    | false =>
        refine (watch_call rfl).mpr fun r w₂ _ => ?_
        exact OnlyCalls.watch (onlyCalls_perform.mpr rfl) fun _ _ => ⟨r, rfl⟩
  · exact watch_pure.mpr rfl

/-- The three parts put together. -/
theorem Section.of_parts {token : HANDLE} {close : Bool} {e : Event Call Answer} {before after : Trace}
    (hbefore : if Impersonates env token then ∃ r, before = [⟨.win32 (.impersonateLoggedOnUser token), r⟩]
      else before = [])
    (hafter : if Impersonates env token then
        if close = true then
          ∃ r r', after = [⟨.win32 (.closeHandle token), r⟩, ⟨.win32 .revertToSelf, r'⟩]
        else ∃ r, after = [⟨.win32 .revertToSelf, r⟩]
      else after = []) : Section env token e close (before ++ e :: after) := by
  by_cases himp : Impersonates env token
  · rw [if_pos himp] at hbefore hafter
    obtain ⟨r, rfl⟩ := hbefore
    cases close with
    | true =>
        obtain ⟨r', r'', rfl⟩ := hafter
        exact .closed himp
    | false =>
        obtain ⟨r', rfl⟩ := hafter
        exact .kept himp
  · rw [if_neg himp] at hbefore hafter
    rw [hbefore, hafter]
    exact .bare himp

theorem asks_createFile {path : WString} {access share disposition flags : DWORD}
    {sd : Option SecurityDescriptor} :
    Asks env os (createFile path access share sd disposition flags) w (fun tr _ _ =>
      ∃ r, tr = [⟨.win32 (.createFile path access share sd disposition flags), r⟩]) := by
  refine (watch_call rfl).mpr fun r w₁ _ => ?_
  cases r with
  | ok h e => exact watch_pure.mpr ⟨_, rfl⟩
  | fail e => exact watch_pure.mpr ⟨_, rfl⟩

theorem asks_getFileAttributes {path : WString} :
    Asks env os (getFileAttributes path) w (fun tr a _ =>
      ∃ r, tr = [⟨.win32 (.getFileAttributes path), r⟩] ∧ a = attributesOf r) := by
  refine (watch_call rfl).mpr fun r w₁ _ => ?_
  cases r with
  | ok a e => exact watch_pure.mpr ⟨_, rfl, rfl⟩
  | fail e => exact watch_pure.mpr ⟨_, rfl, rfl⟩

/-- The end of the first half, `status` being what came of the folder. -/
theorem asks_endFolder {status : NTSTATUS} {sd : Option SecurityDescriptor} {before : Trace}
    {e : Event Call Answer}
    (hbefore : if Impersonates env l.userTokenHandle then
        ∃ r, before = [⟨.win32 (.impersonateLoggedOnUser l.userTokenHandle), r⟩] else before = []) :
    Asks env os (do
        endImpersonation env l.userTokenHandle (decide (status ≠ STATUS_SUCCESS))
        pure (status, sd)) w (fun tr out _ =>
      Section env l.userTokenHandle e (decide (status ≠ STATUS_SUCCESS)) (before ++ e :: tr) ∧
        out.1 = status) := by
  refine watch_bind.mpr (asks_endImpersonation.mono fun tr _ w₁ htr => watch_pure.mpr ⟨?_, rfl⟩)
  rw [List.append_nil]
  exact .of_parts hbefore htr

/-- The first half succeeds just if the second follows. -/
theorem asks_createFolder :
    Asks env os (createFolder env q l) w (fun tr out _ =>
      FolderCalls env l (decide (out.1 = STATUS_SUCCESS)) tr) := by
  unfold createFolder
  split
  · next hmakes =>
      refine watch_bind.mpr (asks_impersonate.mono fun before _ w₁ hbefore => ?_)
      refine OwnCalls.asks own_makeNodeIf fun made w₂ => (watch_call rfl).mpr fun r w₃ hstep => ?_
      obtain ⟨-, o, -, hw₃⟩ := hstep
      -- the section is closed just if the status is a failure
      have hgoesOn : ∀ {tr : Trace} {status out : NTSTATUS}, (status ≠ STATUS_SUCCESS ↔
            FolderFails l.creationDisposition r) →
          Section env l.userTokenHandle ⟨.win32 (.createDirectory l.filePath made.2), r⟩
            (decide (status ≠ STATUS_SUCCESS)) tr ∧ out = status →
          FolderCalls env l (decide (out = STATUS_SUCCESS)) tr := by
        rintro tr status out hfails ⟨hsection, rfl⟩
        by_cases hok : out = STATUS_SUCCESS
        · rw [decide_eq_false (not_not.mpr hok)] at hsection
          rw [decide_eq_true hok]
          exact .made hmakes (fun h => hfails.mpr h hok) hsection
        · rw [decide_eq_true hok] at hsection
          rw [decide_eq_false hok]
          exact .failed hmakes (hfails.mp hok) hsection
      cases r with
      | ok u e =>
          refine OwnCalls.asks own_addIf fun _ w₄ => ?_
          exact (asks_endFolder hbefore).mono fun tr out _ h => hgoesOn (iff_of_false (not_not.mpr rfl) id) h
      | fail error =>
          refine (watch_call_of_not rfl).mpr fun e w₄ hread => ?_
          have he : e = error := by rw [hread.1, hw₃]; rfl
          rw [he]
          split
          · next hfails =>
              refine OwnCalls.asks own_print fun _ w₅ => ?_
              refine (asks_endFolder hbefore).mono fun tr out _ h => hgoesOn (iff_of_true ?_ hfails) h
              exact env.ntStatus_error error error.2
          · next hfails =>
              refine (asks_endFolder hbefore).mono fun tr out _ h => hgoesOn ?_ h
              exact iff_of_false (not_not.mpr rfl) hfails
  · next hmakes => exact watch_pure.mpr (.existing hmakes)

/-- The folder is opened, unless it is none. -/
theorem asks_openFolder {sd : Option SecurityDescriptor} {before : Trace}
    (hbefore : FolderCalls env l true before) :
    Asks env os (openFolder env q info l sd) w (fun tr _ _ => BranchCalls env q l true (before ++ tr)) := by
  unfold openFolder
  split
  · next hrefuses =>
      refine watch_pure.mpr ?_
      rw [List.append_nil]
      exact .notADirectory hbefore hrefuses
  · next hopens =>
      refine watch_bind.mpr (asks_impersonate.mono fun tr₁ _ w₁ htr₁ => ?_)
      refine watch_bind.mpr (asks_createFile.mono fun tr₂ handle w₂ ⟨r, htr₂⟩ => ?_)
      refine watch_bind.mpr (asks_endImpersonation.mono fun tr₃ _ w₃ htr₃ => ?_)
      have hbranch := BranchCalls.folder (q := q) hbefore hopens (Section.of_parts htr₁ htr₃
        (e := ⟨.win32 (.createFile l.filePath l.genericDesiredAccess l.shareAccess sd OPEN_EXISTING
          (l.fileAttributesAndFlags ||| FILE_FLAG_BACKUP_SEMANTICS)), r⟩))
      refine OnlyCalls.watch ?_ fun res w₄ => ?_
      · split
        · exact OnlyCalls.bind (onlyCalls_perform.mpr rfl) fun _ => OnlyCalls.bind own_print fun _ =>
            own_finishCreate
        · split
          · trivial
          · exact own_finishCreate
      · rw [htr₂, List.append_nil]
        exact hbranch

theorem asks_directoryBranch :
    Asks env os (directoryBranch env q info l) w (fun tr _ _ => BranchCalls env q l true tr) := by
  refine watch_bind.mpr (asks_createFolder.mono fun tr₁ out w₁ htr₁ => ?_)
  show Asks env os (if out.1 = STATUS_SUCCESS then openFolder env q info l out.2
    else finishCreate l 0 { status := out.1, info := info, securityDescriptor := out.2 }) w₁ _
  by_cases hok : out.1 = STATUS_SUCCESS
  · rw [decide_eq_true hok] at htr₁
    rw [if_pos hok]
    exact asks_openFolder htr₁
  · rw [decide_eq_false hok] at htr₁
    rw [if_neg hok]
    refine own_finishCreate.watch fun _ _ => ?_
    rw [List.append_nil]
    exact .notMade htr₁

/-- Of what follows the create of a file, the attributes may be set. -/
theorem asks_openedFile :
    Asks env os (openedFile l) w (fun tr _ _ =>
      ∀ e ∈ tr, ∃ a, e.call = .win32 (.setFileAttributes l.filePath a)) := by
  have hrest : OwnCalls (if l.creationDisposition = OPEN_ALWAYS ∨ l.creationDisposition = CREATE_ALWAYS then do
        let error ← getLastError
        if error = ERROR_ALREADY_EXISTS then do
          print "\tOpen an already existing file\n"
          pure STATUS_OBJECT_NAME_COLLISION
        else pure STATUS_SUCCESS
      else pure STATUS_SUCCESS) := by
    split
    · refine OnlyCalls.bind (onlyCalls_perform.mpr rfl) fun error => ?_
      split
      · exact OnlyCalls.bind own_print fun _ => trivial
      · trivial
    · trivial
  unfold openedFile Prog.onlyIf
  refine watch_bind.mpr ?_
  split
  · refine (watch_call rfl).mpr fun r w₁ _ => watch_pure.mpr (hrest.watch fun _ _ e he => ?_)
    rw [List.append_nil, List.mem_singleton] at he
    rw [he]
    exact ⟨_, rfl⟩
  · exact watch_pure.mpr (hrest.watch fun _ _ e he => absurd he List.not_mem_nil)

theorem asks_fileBranch :
    Asks env os (fileBranch env q info l) w (fun tr _ _ => BranchCalls env q l false tr) := by
  unfold fileBranch
  split
  · next hrefuses => exact watch_pure.mpr (.cannotDelete hrefuses)
  · next hopens =>
      refine watch_bind.mpr (asks_impersonate.mono fun tr₁ _ w₁ htr₁ => ?_)
      refine OwnCalls.asks own_makeNodeIf fun made w₂ => ?_
      refine watch_bind.mpr (asks_createFile.mono fun tr₂ handle w₃ hcreate => ?_)
      obtain ⟨r, htr₂⟩ := hcreate
      refine watch_bind.mpr (asks_endImpersonation.mono fun tr₃ _ w₄ htr₃ => ?_)
      rw [Prog.onlyIf, if_pos (handle_ne handle)]
      refine OwnCalls.asks own_addIf fun _ w₅ => ?_
      have hbranch : ∀ after : Trace, (∀ e ∈ after, ∃ a, e.call = .win32 (.setFileAttributes l.filePath a)) →
          BranchCalls env q l false (tr₁ ++ (tr₂ ++ (tr₃ ++ after))) := by
        intro after hafter
        rw [htr₂, List.singleton_append, ← List.cons_append, ← List.append_assoc]
        exact .file hopens (Section.of_parts htr₁ htr₃) hafter
      split
      · refine (watch_call_of_not rfl).mpr fun e w₆ _ => OwnCalls.asks own_print fun _ w₇ => ?_
        exact own_finishCreate.watch fun _ _ => hbranch [] fun e he => absurd he List.not_mem_nil
      · refine watch_bind.mpr (asks_openedFile.mono fun tr₄ status w₆ htr₄ => ?_)
        refine own_finishCreate.watch fun _ _ => ?_
        rw [List.append_nil]
        exact hbranch tr₄ htr₄

theorem asks_openToken {processName : WString} :
    Asks env os (openToken env q processName (userFlags env q)) w (fun tr token _ =>
      TokenCalls env token tr) := by
  refine OwnCalls.asks own_print fun _ w₁ => OwnCalls.asks own_checkFlags fun _ w₂ => ?_
  refine OwnCalls.asks own_print fun _ w₃ => ?_
  split
  · next hon =>
      refine (watch_call rfl).mpr fun r w₄ _ => OwnCalls.asks (OnlyCalls.onlyIf fun _ => own_print) ?_
      exact fun _ _ => watch_pure.mpr (.asked hon)
  · next hoff => exact watch_pure.mpr (.off (Bool.eq_false_iff.mpr hoff))

theorem asks_createPrelude {filePath : WString} :
    Asks env os (createPrelude q info filePath) w (fun tr _ _ =>
      ∃ r, tr = [⟨.win32 (.getProcessNameFromPID info.processId), r⟩]) := by
  refine OwnCalls.asks own_print fun _ w₁ => (watch_call rfl).mpr fun r w₂ _ => ?_
  refine OnlyCalls.watch ?_ fun _ _ => ⟨r, rfl⟩
  refine OnlyCalls.bind own_print fun _ => OnlyCalls.bind (onlyCalls_perform.mpr rfl) fun _ => ?_
  refine OnlyCalls.bind own_print fun _ => OnlyCalls.bind own_checkFlags fun _ => ?_
  exact OnlyCalls.bind own_print fun _ => OnlyCalls.bind own_checkFlags fun _ => trivial

theorem asks_create :
    Asks env os (mirrorCreateFile env q info) w (fun tr _ _ => CreateCalls env q info tr) := by
  refine OwnCalls.asks own_filePathOf fun path w₁ => ?_
  refine watch_bind.mpr (asks_createPrelude.mono fun tr₁ _ w₂ ⟨name, htr₁⟩ => ?_)
  refine watch_bind.mpr (asks_getFileAttributes.mono fun tr₂ fileAttr w₃ ⟨a, htr₂, ha⟩ => ?_)
  rw [htr₁, htr₂, ha]
  split
  · exact OwnCalls.asks own_print fun _ _ => watch_pure.mpr .aDirectory
  · refine watch_bind.mpr (asks_openToken.mono fun opened token w₄ hopened => ?_)
    have hbranch : ∀ {info' : DokanFileInfo},
        (info'.isDirectory = true ↔ ForDirectory info (attributesOf a)) →
        Asks env os (if info'.isDirectory = true then
            directoryBranch env q info' (createLocals env q path (attributesOf a) token)
          else fileBranch env q info' (createLocals env q path (attributesOf a) token)) w₄
          (fun tr _ _ => BranchCalls env q (createLocals env q path (attributesOf a) token)
            (decide (ForDirectory info (attributesOf a))) tr) := by
      intro info' hinfo'
      split
      · next hdir =>
          rw [decide_eq_true (hinfo'.mp hdir)]
          exact asks_directoryBranch
      · next hdir =>
          rw [decide_eq_false fun h => hdir (hinfo'.mpr h)]
          exact asks_fileBranch
    refine (hbranch ?_).mono fun tr _ _ htr => ?_
    swap
    · show CreateCalls env q info (_ :: _ :: (opened ++ tr))
      exact .branch hopened htr
    split
    · next hattr => exact iff_of_true rfl (Or.inl hattr)
    · next hattr => exact (or_iff_right hattr).symm

/-- **The calls in order.**  The calls of the API in a run are one of the sequences. -/
theorem run_createCalls {tr : Trace} {res : CreateResult} {w' : World O}
    (h : Run (step env os) (mirrorCreateFile env q info) w tr res w') :
    CreateCalls env q info (watched Call.isWin32 tr) := asks_create tr res w' h

end

end SeamlessSmb
