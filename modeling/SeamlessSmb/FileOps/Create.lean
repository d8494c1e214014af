/-
# `FileOps.Create` — creating and opening a file

`MirrorCreateFile` asks for the attributes of the backing path, and with them chooses
between a directory (`directoryBranch`: make the folder, then open it) and a file
(`fileBranch`).  A request mapped to `CREATE_NEW` makes a node with the creator's
security descriptor before the create is tried, and offers it to the store after.

The flags the callback adjusts and prints are mapped a second time before they are
used, so of the adjustments only the printout is left.

**Proved here:** all a run can do, by the questions it put to the platform
(`CreateRun`, `run_create`), and that with debugging off a request for a path that fits
has a run (`returns_create`).
-/
import SeamlessSmb.FileOps.World

namespace SeamlessSmb

open Calls

/-! ## The callback -/

/-- The arguments of `MirrorCreateFile`.  `securityDescriptor` is
`SecurityContext->AccessState.SecurityDescriptor`.  `stray` is the text a node made for the
request gets if the descriptor has none. -/
structure CreateRequest where
  fileName : WString
  securityDescriptor : Option SecurityDescriptor
  desiredAccess : DWORD
  fileAttributes : DWORD
  shareAccess : DWORD
  createDisposition : DWORD
  createOptions : DWORD
  stray : CodeUnits := []

/-- The status `MirrorCreateFile` returns, and what it leaves in the caller's
structures. -/
structure CreateResult where
  status : NTSTATUS
  info : DokanFileInfo
  securityDescriptor : Option SecurityDescriptor

/-- The local variables the two branches use. -/
structure CreateLocals where
  filePath : WString
  fileAttr : DWORD
  desiredAccess : DWORD
  shareAccess : DWORD
  genericDesiredAccess : DWORD
  fileAttributesAndFlags : DWORD
  creationDisposition : DWORD
  userTokenHandle : HANDLE

def shareFlags : List (DWORD × String) :=
  [ (FILE_SHARE_READ, "FILE_SHARE_READ"),
    (FILE_SHARE_WRITE, "FILE_SHARE_WRITE"),
    (FILE_SHARE_DELETE, "FILE_SHARE_DELETE") ]

def accessFlags : List (DWORD × String) :=
  [ (GENERIC_READ, "GENERIC_READ"),
    (GENERIC_WRITE, "GENERIC_WRITE"),
    (GENERIC_EXECUTE, "GENERIC_EXECUTE"),
    (DELETE, "DELETE"),
    (FILE_READ_DATA, "FILE_READ_DATA"),
    (FILE_READ_ATTRIBUTES, "FILE_READ_ATTRIBUTES"),
    (FILE_READ_EA, "FILE_READ_EA"),
    (READ_CONTROL, "READ_CONTROL"),
    (FILE_WRITE_DATA, "FILE_WRITE_DATA"),
    (FILE_WRITE_ATTRIBUTES, "FILE_WRITE_ATTRIBUTES"),
    (FILE_WRITE_EA, "FILE_WRITE_EA"),
    (FILE_APPEND_DATA, "FILE_APPEND_DATA"),
    (WRITE_DAC, "WRITE_DAC"),
    (WRITE_OWNER, "WRITE_OWNER"),
    (SYNCHRONIZE, "SYNCHRONIZE"),
    (FILE_EXECUTE, "FILE_EXECUTE"),
    (STANDARD_RIGHTS_READ, "STANDARD_RIGHTS_READ"),
    (STANDARD_RIGHTS_WRITE, "STANDARD_RIGHTS_WRITE"),
    (STANDARD_RIGHTS_EXECUTE, "STANDARD_RIGHTS_EXECUTE") ]

def attributeFlags : List (DWORD × String) :=
  [ (FILE_ATTRIBUTE_ARCHIVE, "FILE_ATTRIBUTE_ARCHIVE"),
    (FILE_ATTRIBUTE_COMPRESSED, "FILE_ATTRIBUTE_COMPRESSED"),
    (FILE_ATTRIBUTE_DEVICE, "FILE_ATTRIBUTE_DEVICE"),
    (FILE_ATTRIBUTE_DIRECTORY, "FILE_ATTRIBUTE_DIRECTORY"),
    (FILE_ATTRIBUTE_ENCRYPTED, "FILE_ATTRIBUTE_ENCRYPTED"),
    (FILE_ATTRIBUTE_HIDDEN, "FILE_ATTRIBUTE_HIDDEN"),
    (FILE_ATTRIBUTE_INTEGRITY_STREAM, "FILE_ATTRIBUTE_INTEGRITY_STREAM"),
    (FILE_ATTRIBUTE_NORMAL, "FILE_ATTRIBUTE_NORMAL"),
    (FILE_ATTRIBUTE_NOT_CONTENT_INDEXED, "FILE_ATTRIBUTE_NOT_CONTENT_INDEXED"),
    (FILE_ATTRIBUTE_NO_SCRUB_DATA, "FILE_ATTRIBUTE_NO_SCRUB_DATA"),
    (FILE_ATTRIBUTE_OFFLINE, "FILE_ATTRIBUTE_OFFLINE"),
    (FILE_ATTRIBUTE_READONLY, "FILE_ATTRIBUTE_READONLY"),
    (FILE_ATTRIBUTE_REPARSE_POINT, "FILE_ATTRIBUTE_REPARSE_POINT"),
    (FILE_ATTRIBUTE_SPARSE_FILE, "FILE_ATTRIBUTE_SPARSE_FILE"),
    (FILE_ATTRIBUTE_SYSTEM, "FILE_ATTRIBUTE_SYSTEM"),
    (FILE_ATTRIBUTE_TEMPORARY, "FILE_ATTRIBUTE_TEMPORARY"),
    (FILE_ATTRIBUTE_VIRTUAL, "FILE_ATTRIBUTE_VIRTUAL"),
    (FILE_FLAG_WRITE_THROUGH, "FILE_FLAG_WRITE_THROUGH"),
    (FILE_FLAG_OVERLAPPED, "FILE_FLAG_OVERLAPPED"),
    (FILE_FLAG_NO_BUFFERING, "FILE_FLAG_NO_BUFFERING"),
    (FILE_FLAG_RANDOM_ACCESS, "FILE_FLAG_RANDOM_ACCESS"),
    (FILE_FLAG_SEQUENTIAL_SCAN, "FILE_FLAG_SEQUENTIAL_SCAN"),
    (FILE_FLAG_DELETE_ON_CLOSE, "FILE_FLAG_DELETE_ON_CLOSE"),
    (FILE_FLAG_BACKUP_SEMANTICS, "FILE_FLAG_BACKUP_SEMANTICS"),
    (FILE_FLAG_POSIX_SEMANTICS, "FILE_FLAG_POSIX_SEMANTICS"),
    (FILE_FLAG_OPEN_REPARSE_POINT, "FILE_FLAG_OPEN_REPARSE_POINT"),
    (FILE_FLAG_OPEN_NO_RECALL, "FILE_FLAG_OPEN_NO_RECALL"),
    (SECURITY_ANONYMOUS, "SECURITY_ANONYMOUS"),
    (SECURITY_IDENTIFICATION, "SECURITY_IDENTIFICATION"),
    (SECURITY_IMPERSONATION, "SECURITY_IMPERSONATION"),
    (SECURITY_DELEGATION, "SECURITY_DELEGATION"),
    (SECURITY_CONTEXT_TRACKING, "SECURITY_CONTEXT_TRACKING"),
    (SECURITY_EFFECTIVE_ONLY, "SECURITY_EFFECTIVE_ONLY"),
    (SECURITY_SQOS_PRESENT, "SECURITY_SQOS_PRESENT") ]

/-- The line printed for a mapped disposition. -/
def dispositionLine (creationDisposition : DWORD) : String :=
  if creationDisposition = CREATE_NEW then "\tCREATE_NEW\n"
  else if creationDisposition = OPEN_ALWAYS then "\tOPEN_ALWAYS\n"
  else if creationDisposition = CREATE_ALWAYS then "\tCREATE_ALWAYS\n"
  else if creationDisposition = OPEN_EXISTING then "\tOPEN_EXISTING\n"
  else if creationDisposition = TRUNCATE_EXISTING then "\tTRUNCATE_EXISTING\n"
  else "\tUNKNOWN creationDisposition!\n"

/-- The access asked for, without the rights the callback does not pass on. -/
def passedAccess (desiredAccess : DWORD) : DWORD :=
  desiredAccess &&& ~~~WRITE_DAC &&& ~~~WRITE_OWNER &&& ~~~ACCESS_SYSTEM_SECURITY

/-- The flags as they are printed. -/
def printedFlags (desiredAccess flags : DWORD) (processName : WString) : DWORD :=
  let flags :=
    if desiredAccess &&& FILE_WRITE_DATA ≠ 0 then
      flags ||| (FILE_FLAG_WRITE_THROUGH ||| FILE_FLAG_NO_BUFFERING)
    else flags
  let flags :=
    if desiredAccess &&& FILE_READ_DATA ≠ 0 ∧ processName = wide "bztransmit64.exe".toList then
      flags ||| FILE_FLAG_SEQUENTIAL_SCAN
    else flags
  flags &&& ~~~FILE_FLAG_OPEN_REPARSE_POINT

/-- `ImpersonateCallerUser() && userTokenHandle != INVALID_HANDLE_VALUE`. -/
def Impersonates (env : Env) (token : HANDLE) : Prop :=
  env.globals.impersonateCallerUser = true ∧ token ≠ INVALID_HANDLE_VALUE

instance (env : Env) (token : HANDLE) : Decidable (Impersonates env token) :=
  inferInstanceAs (Decidable (_ ∧ _))

def impersonate (env : Env) (token : HANDLE) : Op Unit :=
  Prog.onlyIf (Impersonates env token) do
    let r ← win32 (.impersonateLoggedOnUser token)
    Prog.onlyIf (r.succeeded = false) (print "\tImpersonateLoggedOnUser failed.\n")

/-- The clean-up after the impersonated call, which restores the last error. -/
def endImpersonation (env : Env) (token : HANDLE) (close : Bool) : Op Unit :=
  Prog.onlyIf (Impersonates env token) do
    let lastError ← getLastError
    Prog.onlyIf (close = true) (closeHandle token)
    let _ ← win32 .revertToSelf
    setLastError lastError

/-- `make_shared<filenode>` and `SetDescriptor` with the creator's descriptor. -/
def makeNode (q : CreateRequest) (isDirectory : Bool) : Op Ptr := do
  let f ← Prog.perform (Call.makeShared
    { fileName := q.fileName, isDirectory := isDirectory, attributes := q.fileAttributes })
  Prog.perform (Call.setDescriptor f q.securityDescriptor q.stray)
  pure f

/-- A node for a new file, if there is to be one; with it the creator's descriptor is
used up. -/
def makeNodeIf (b : Prop) [Decidable b] (q : CreateRequest) (isDirectory : Bool) :
    Op (Option Ptr × Option SecurityDescriptor) :=
  if b then do
    let f ← makeNode q isDirectory
    pure (some f, none)
  else pure (none, q.securityDescriptor)

def addIf (f : Option Ptr) : Op Unit :=
  match f with
  | some f => do
      let _ ← Prog.perform (Call.addFileNode (some f))
      pure ()
  | none => pure ()

/-- The end of the callback: count a writer, print, return. -/
def finishCreate (l : CreateLocals) (handle : HANDLE) (result : CreateResult) : Op CreateResult := do
  Prog.onlyIf (l.desiredAccess &&& FILE_WRITE_DATA ≠ 0)
    (Prog.perform (Call.insertWriteCount handle))
  print "\n"
  pure result

/-- The first half of the directory branch: the folder is made, if it is to be.  The
status so far, and the descriptor that is left. -/
def createFolder (env : Env) (q : CreateRequest) (l : CreateLocals) :
    Op (NTSTATUS × Option SecurityDescriptor) :=
  if l.creationDisposition = CREATE_NEW ∨ l.creationDisposition = OPEN_ALWAYS then do
    impersonate env l.userTokenHandle
    let (f, sd) ← makeNodeIf
      (l.creationDisposition = CREATE_NEW ∨ l.creationDisposition = CREATE_ALWAYS) q true
    let r ← win32 (.createDirectory l.filePath sd)
    let status ←
      match r with
      | .fail _ => do
          let error ← getLastError
          -- an existing folder is no error for `OPEN_ALWAYS`
          if error ≠ ERROR_ALREADY_EXISTS ∨ l.creationDisposition = CREATE_NEW then do
            print "\terror code = %d\n\n" [.num error]
            pure (env.ntStatusFromWin32 error)
          else pure STATUS_SUCCESS
      | .ok _ _ => do
          addIf f
          pure STATUS_SUCCESS
    endImpersonation env l.userTokenHandle (status ≠ STATUS_SUCCESS)
    pure (status, sd)
  else pure (STATUS_SUCCESS, q.securityDescriptor)

/-- The second half: the folder is opened. -/
def openFolder (env : Env) (q : CreateRequest) (info : DokanFileInfo) (l : CreateLocals)
    (sd : Option SecurityDescriptor) : Op CreateResult :=
  if l.fileAttr ≠ INVALID_FILE_ATTRIBUTES ∧ l.fileAttr &&& FILE_ATTRIBUTE_DIRECTORY = 0 ∧
      q.createOptions &&& FILE_DIRECTORY_FILE ≠ 0 then
    pure { status := STATUS_NOT_A_DIRECTORY, info := info, securityDescriptor := sd }
  else do
    impersonate env l.userTokenHandle
    let handle ← createFile l.filePath l.genericDesiredAccess l.shareAccess sd OPEN_EXISTING
      (l.fileAttributesAndFlags ||| FILE_FLAG_BACKUP_SEMANTICS)
    endImpersonation env l.userTokenHandle true
    if handle = INVALID_HANDLE_VALUE then do
      let error ← getLastError
      print "\terror code = %d\n\n" [.num error]
      finishCreate l handle
        { status := env.ntStatusFromWin32 error, info := info, securityDescriptor := sd }
    else
      let info := { info with context := handle }
      -- the driver is told that the directory was opened, not created
      if l.creationDisposition = OPEN_ALWAYS ∧ l.fileAttr ≠ INVALID_FILE_ATTRIBUTES then
        pure { status := STATUS_OBJECT_NAME_COLLISION, info := info, securityDescriptor := sd }
      else
        finishCreate l handle { status := STATUS_SUCCESS, info := info, securityDescriptor := sd }

def directoryBranch (env : Env) (q : CreateRequest) (info : DokanFileInfo) (l : CreateLocals) :
    Op CreateResult := do
  let (status, sd) ← createFolder env q l
  if status = STATUS_SUCCESS then openFolder env q info l sd
  else finishCreate l 0 { status := status, info := info, securityDescriptor := sd }

/-- A read-only file is not opened for deletion. -/
def CannotDelete (fileAttr fileAttributesAndFlags : DWORD) : Prop :=
  (fileAttr ≠ INVALID_FILE_ATTRIBUTES ∧ fileAttr &&& FILE_ATTRIBUTE_READONLY ≠ 0 ∨
    fileAttributesAndFlags &&& FILE_ATTRIBUTE_READONLY ≠ 0) ∧
  fileAttributesAndFlags &&& FILE_FLAG_DELETE_ON_CLOSE ≠ 0

instance (a f : DWORD) : Decidable (CannotDelete a f) := inferInstanceAs (Decidable (_ ∧ _))

/-- What follows the create of a file that gave a handle. -/
def openedFile (l : CreateLocals) : Op NTSTATUS := do
  Prog.onlyIf (l.fileAttr ≠ INVALID_FILE_ATTRIBUTES ∧ l.creationDisposition = TRUNCATE_EXISTING) do
    let _ ← win32 (.setFileAttributes l.filePath (l.fileAttributesAndFlags ||| l.fileAttr))
    pure ()
  if l.creationDisposition = OPEN_ALWAYS ∨ l.creationDisposition = CREATE_ALWAYS then do
    let error ← getLastError
    if error = ERROR_ALREADY_EXISTS then do
      print "\tOpen an already existing file\n"
      pure STATUS_OBJECT_NAME_COLLISION
    else pure STATUS_SUCCESS
  else pure STATUS_SUCCESS

def fileBranch (env : Env) (q : CreateRequest) (info : DokanFileInfo) (l : CreateLocals) :
    Op CreateResult :=
  if CannotDelete l.fileAttr l.fileAttributesAndFlags then
    pure { status := STATUS_CANNOT_DELETE, info := info, securityDescriptor := q.securityDescriptor }
  else do
    let genericDesiredAccess :=
      if l.creationDisposition = TRUNCATE_EXISTING then l.genericDesiredAccess ||| GENERIC_WRITE
      else l.genericDesiredAccess
    impersonate env l.userTokenHandle
    let (f, sd) ← makeNodeIf (l.creationDisposition = CREATE_NEW) q false
    let handle ← createFile l.filePath genericDesiredAccess l.shareAccess sd l.creationDisposition
      l.fileAttributesAndFlags
    endImpersonation env l.userTokenHandle true
    -- of any handle one of the two is true
    Prog.onlyIf (handle ≠ INVALID_HANDLE_VALUE ∨ handle ≠ 0) (addIf f)
    if handle = INVALID_HANDLE_VALUE ∨ handle = 0 then do
      let error ← getLastError
      print "\terror code = %d\n\n" [.num error]
      finishCreate l handle
        { status := env.ntStatusFromWin32 error, info := info, securityDescriptor := sd }
    else do
      let status ← openedFile l
      finishCreate l handle
        { status := status, info := { info with context := handle }, securityDescriptor := sd }

/-- Up to the question for the attributes: the printout, and the process name. -/
def createPrelude (q : CreateRequest) (info : DokanFileInfo) (filePath : WString) : Op WString := do
  print "CreateFile : %s \n" [.str filePath, .str q.fileName]
  let r ← win32 (.getProcessNameFromPID info.processId)
  let processName := r.toOption.getD []
  print "\tProcess Name: %s \n" [.str processName]
  printSD q.securityDescriptor 7
  print "\tShareMode = 0x%x\n" [.num q.shareAccess]
  checkFlags q.shareAccess shareFlags
  print "\tDesiredAccess = 0x%x\n" [.num q.desiredAccess]
  checkFlags (passedAccess q.desiredAccess) accessFlags
  pure processName

/-- From the attributes to the branch: the printout of the flags, and the token to
impersonate the caller with. -/
def openToken (env : Env) (q : CreateRequest) (processName : WString) (flags : UserFlags) :
    Op HANDLE := do
  let printed := printedFlags (passedAccess q.desiredAccess) flags.fileAttributesAndFlags processName
  print "\tFlagsAndAttributes = 0x%x\n" [.num printed]
  checkFlags printed attributeFlags
  print (dispositionLine flags.creationDisposition)
  if env.globals.impersonateCallerUser = true then do
    let r ← win32 .dokanOpenRequestorToken
    let token := r.toOption.getD INVALID_HANDLE_VALUE
    Prog.onlyIf (token = INVALID_HANDLE_VALUE) (print "  DokanOpenRequestorToken failed\n")
    pure token
  else pure INVALID_HANDLE_VALUE

/-- `DokanMapKernelToUserCreateFileFlags` of a request. -/
def userFlags (env : Env) (q : CreateRequest) : UserFlags :=
  env.mapKernelToUser (passedAccess q.desiredAccess) q.fileAttributes q.createOptions
    q.createDisposition

/-- `MirrorCreateFile`. -/
def mirrorCreateFile (env : Env) (q : CreateRequest) (info : DokanFileInfo) :
    Op CreateResult := do
  let filePath ← filePathOf env.globals q.fileName
  let processName ← createPrelude q info filePath
  let fileAttr ← getFileAttributes filePath
  if IsDirectoryAttr fileAttr ∧ q.createOptions &&& FILE_NON_DIRECTORY_FILE ≠ 0 then do
    print "\tCannot open a dir as a file\n"
    pure
      { status := STATUS_FILE_IS_A_DIRECTORY
        info := info
        securityDescriptor := q.securityDescriptor }
  else do
    let info := if IsDirectoryAttr fileAttr then { info with isDirectory := true } else info
    let flags := userFlags env q
    let userTokenHandle ← openToken env q processName flags
    let l : CreateLocals :=
      { filePath := filePath
        fileAttr := fileAttr
        desiredAccess := passedAccess q.desiredAccess
        shareAccess := FILE_SHARE_READ ||| FILE_SHARE_WRITE ||| FILE_SHARE_DELETE
        genericDesiredAccess := flags.genericDesiredAccess
        fileAttributesAndFlags := flags.fileAttributesAndFlags
        creationDisposition := flags.creationDisposition
        userTokenHandle := userTokenHandle }
    if info.isDirectory = true then directoryBranch env q info l
    else fileBranch env q info l

/-! ## What the parts do

What a frame says of the calls a part makes, it says of the part. -/

section

variable {P : Call → Prop} {env : Env} {q : CreateRequest} {info : DokanFileInfo} {l : CreateLocals}

theorem onlyCalls_impersonate {token : HANDLE} (himp : P (.win32 (.impersonateLoggedOnUser token)))
    (hprint : ∀ format args, P (.print format args)) : OnlyCalls P (impersonate env token) :=
  OnlyCalls.onlyIf fun _ => OnlyCalls.bind (onlyCalls_perform.mpr himp) fun _ =>
    OnlyCalls.onlyIf fun _ => onlyCalls_perform.mpr (hprint _ _)

theorem onlyCalls_endImpersonation {token : HANDLE} {close : Bool} (hget : P .getLastError)
    (hset : ∀ error, P (.setLastError error)) (hrevert : P (.win32 .revertToSelf))
    (hclose : close = true → P (.win32 (.closeHandle token))) :
    OnlyCalls P (endImpersonation env token close) := by
  refine OnlyCalls.onlyIf fun _ => OnlyCalls.bind (onlyCalls_perform.mpr hget) fun error => ?_
  refine OnlyCalls.bind (OnlyCalls.onlyIf fun h => ?_) fun _ => ?_
  · exact OnlyCalls.bind (onlyCalls_perform.mpr (hclose h)) fun _ => trivial
  · exact OnlyCalls.bind (onlyCalls_perform.mpr hrevert) fun _ => onlyCalls_perform.mpr (hset error)

theorem onlyCalls_makeNodeIf {b : Prop} [Decidable b] {isDirectory : Bool}
    (hmake : ∀ node, P (.makeShared node)) (hset : ∀ p sd stray, P (.setDescriptor p sd stray)) :
    OnlyCalls P (makeNodeIf b q isDirectory) := by
  unfold makeNodeIf
  split
  · refine OnlyCalls.bind ?_ fun f => trivial
    refine OnlyCalls.bind (onlyCalls_perform.mpr (hmake _)) fun f => ?_
    exact OnlyCalls.bind (onlyCalls_perform.mpr (hset _ _ _)) fun _ => trivial
  · trivial

theorem onlyCalls_addIf {f : Option Ptr} (hadd : ∀ f, P (.addFileNode f)) : OnlyCalls P (addIf f) := by
  cases f with
  | none => trivial
  | some p => exact OnlyCalls.bind (onlyCalls_perform.mpr (hadd _)) fun _ => trivial

theorem onlyCalls_openedFile (hattributes : ∀ path a, P (.win32 (.setFileAttributes path a)))
    (hget : P .getLastError) (hprint : ∀ format args, P (.print format args)) :
    OnlyCalls P (openedFile l) := by
  refine OnlyCalls.bind (OnlyCalls.onlyIf fun _ => ?_) fun _ => ?_
  · exact OnlyCalls.bind (onlyCalls_perform.mpr (hattributes _ _)) fun _ => trivial
  · split
    · refine OnlyCalls.bind (onlyCalls_perform.mpr hget) fun error => ?_
      split
      · exact OnlyCalls.bind (onlyCalls_perform.mpr (hprint _ _)) fun _ => trivial
      · trivial
    · trivial

theorem onlyCalls_createPrelude {path : WString} (hprint : ∀ format args, P (.print format args))
    (hprintSD : ∀ sd num, P (.printSD sd num)) (hname : ∀ id, P (.win32 (.getProcessNameFromPID id))) :
    OnlyCalls P (createPrelude q info path) := by
  refine OnlyCalls.bind (onlyCalls_perform.mpr (hprint _ _)) fun _ => ?_
  refine OnlyCalls.bind (onlyCalls_perform.mpr (hname _)) fun _ => ?_
  refine OnlyCalls.bind (onlyCalls_perform.mpr (hprint _ _)) fun _ => ?_
  refine OnlyCalls.bind (onlyCalls_perform.mpr (hprintSD _ _)) fun _ => ?_
  refine OnlyCalls.bind (onlyCalls_perform.mpr (hprint _ _)) fun _ => ?_
  refine OnlyCalls.bind (onlyCalls_checkFlags hprint) fun _ => ?_
  refine OnlyCalls.bind (onlyCalls_perform.mpr (hprint _ _)) fun _ => ?_
  exact OnlyCalls.bind (onlyCalls_checkFlags hprint) fun _ => trivial

theorem onlyCalls_openToken {processName : WString} {flags : UserFlags}
    (hprint : ∀ format args, P (.print format args)) (htoken : P (.win32 .dokanOpenRequestorToken)) :
    OnlyCalls P (openToken env q processName flags) := by
  refine OnlyCalls.bind (onlyCalls_perform.mpr (hprint _ _)) fun _ => ?_
  refine OnlyCalls.bind (onlyCalls_checkFlags hprint) fun _ => ?_
  refine OnlyCalls.bind (onlyCalls_perform.mpr (hprint _ _)) fun _ => ?_
  split
  · exact OnlyCalls.bind (onlyCalls_perform.mpr htoken) fun _ =>
      OnlyCalls.bind (OnlyCalls.onlyIf fun _ => onlyCalls_perform.mpr (hprint _ _)) fun _ => trivial
  · trivial

end

/-! The helpers around the branches are silent.  The two that make and add a node are not,
and neither is the clean-up after an impersonation as far as the last error goes. -/

section

variable {O : Type} {env : Env} {os : O → (c : Win32Call) → Outcome c.Value → O → Prop}
  {w : World O} {q : CreateRequest} {info : DokanFileInfo} {l : CreateLocals}

theorem silent_impersonate {token : HANDLE} : OnlyCalls Call.Silent (impersonate env token) :=
  onlyCalls_impersonate rfl fun _ _ => trivial

theorem silent_endImpersonation {token : HANDLE} {close : Bool} :
    OnlyCalls Call.Silent (endImpersonation env token close) :=
  onlyCalls_endImpersonation trivial (fun _ => trivial) rfl fun _ => rfl

theorem silent_finishCreate {handle : HANDLE} {res : CreateResult} :
    OnlyCalls Call.Silent (finishCreate l handle res) :=
  OnlyCalls.bind (OnlyCalls.onlyIf fun _ => onlyCalls_perform.mpr trivial) fun _ =>
    OnlyCalls.bind (onlyCalls_perform.mpr trivial) fun _ => trivial

theorem silent_createPrelude {path : WString} : OnlyCalls Call.Silent (createPrelude q info path) :=
  onlyCalls_createPrelude (fun _ _ => trivial) (fun _ _ => trivial) fun _ => rfl

theorem silent_openToken {processName : WString} {flags : UserFlags} :
    OnlyCalls Call.Silent (openToken env q processName flags) :=
  onlyCalls_openToken (fun _ _ => trivial) rfl

/-- The node a `CREATE_NEW` request makes. -/
def createdNode (env : Env) (q : CreateRequest) (isDirectory : Bool) : Filenode :=
  { fileName := q.fileName
    isDirectory := isDirectory
    attributes := q.fileAttributes
    security := SecurityInformations.setDescriptor env.convertSD q.stray {} q.securityDescriptor }

/-- The node is made and in no list yet. -/
theorem ends_makeNodeIf {b : Prop} [Decidable b] {isDirectory : Bool} :
    Ends env os (makeNodeIf b q isDirectory) w (fun tr made w' =>
      tr = [] ∧ made.1 = (if b then some w.nodes.next else none) ∧
        w'.nodes = if b then w.nodes.makeShared (createdNode env q isDirectory) else w.nodes) := by
  unfold makeNodeIf
  split
  · refine ends_bind (ends_call fun p w₁ ⟨hp, _, h₁⟩ => ends_call fun _ w₂ ⟨_, h₂⟩ => ?_)
    refine ends_pure (ends_pure ⟨rfl, ?_, ?_⟩)
    · exact congrArg some hp
    · rw [h₂, h₁, hp]
      exact Nodes.setDescriptor_makeShared
  · exact ends_pure ⟨rfl, rfl, rfl⟩

theorem ends_addIf {f : Option Ptr} :
    Ends env os (addIf f) w (fun tr _ w' =>
      tr = [] ∧ w'.nodes = (w.nodes.addFileNode f).2 ∧ w'.lastError = w.lastError) := by
  cases f with
  | none => exact ends_pure ⟨rfl, rfl, rfl⟩
  | some p =>
      refine ends_call fun _ w₁ ⟨_, h₁⟩ => ends_pure ⟨rfl, ?_, ?_⟩
      · rw [h₁]
      · rw [h₁]

/-- The clean-up shows nothing and puts the last error back. -/
theorem ends_endImpersonation {token : HANDLE} {close : Bool} :
    Ends env os (endImpersonation env token close) w (fun tr _ w' =>
      tr = [] ∧ w'.nodes = w.nodes ∧ w'.lastError = w.lastError) := by
  unfold endImpersonation Prog.onlyIf
  split
  · refine ends_call fun e w₁ ⟨he, h₁⟩ => ?_
    refine ends_silent_bind (OnlyCalls.onlyIf fun _ => silent_closeHandle) fun _ w₂ h₂ => ?_
    refine ends_silent_call rfl fun _ w₃ h₃ => ?_
    refine sat_perform.mpr fun _ w₄ h₄ => ⟨rfl, ?_, ?_⟩
    · rw [h₄]
      exact h₃.trans (h₂.trans (congrArg World.nodes h₁))
    · rw [h₄]
      exact he
  · exact ends_pure ⟨rfl, rfl, rfl⟩

theorem ends_finishCreate {handle : HANDLE} {res : CreateResult} :
    Ends env os (finishCreate l handle res) w (fun tr res' w' =>
      tr = [] ∧ res' = res ∧ w'.nodes = w.nodes) := by
  refine ends_silent_bind (OnlyCalls.onlyIf fun _ => onlyCalls_perform.mpr trivial) fun _ w₁ h₁ => ?_
  exact ends_silent_call trivial fun _ w₂ h₂ =>
    ends_pure ⟨rfl, rfl, h₂.trans h₁⟩

/-! ## The branches -/

/-- The status of a file that was opened or created. -/
def openedStatus (disposition lastError : DWORD) : NTSTATUS :=
  if (disposition = OPEN_ALWAYS ∨ disposition = CREATE_ALWAYS) ∧ lastError = ERROR_ALREADY_EXISTS then
    STATUS_OBJECT_NAME_COLLISION
  else STATUS_SUCCESS

/-- The status the file branch returns for an outcome of its `CreateFile`. -/
def fileStatus (env : Env) (disposition : DWORD) : Outcome OpenHandle → NTSTATUS
  | .ok _ lastError => openedStatus disposition lastError
  | .fail error => env.ntStatusFromWin32 error

theorem ends_openedFile :
    Ends env os (openedFile l) w (fun tr status w' =>
      tr = [] ∧ w'.nodes = w.nodes ∧ status = openedStatus l.creationDisposition w.lastError) := by
  have hrest : ∀ {w : World O}, Ends env os
      (if l.creationDisposition = OPEN_ALWAYS ∨ l.creationDisposition = CREATE_ALWAYS then do
        let error ← getLastError
        if error = ERROR_ALREADY_EXISTS then do
          print "\tOpen an already existing file\n"
          pure STATUS_OBJECT_NAME_COLLISION
        else pure STATUS_SUCCESS
      else pure STATUS_SUCCESS) w
      (fun tr status w' => tr = [] ∧ w'.nodes = w.nodes ∧
        status = openedStatus l.creationDisposition w.lastError) := by
    intro w
    unfold openedStatus
    split
    · next hdisp =>
        refine ends_call fun e w₁ ⟨he, h₁⟩ => ?_
        rw [he, h₁]
        by_cases herror : w.lastError = ERROR_ALREADY_EXISTS
        · rw [if_pos herror, if_pos ⟨hdisp, herror⟩]
          exact ends_silent_call trivial fun _ w₂ h₂ =>
            ends_pure ⟨rfl, h₂, rfl⟩
        · rw [if_neg herror, if_neg fun h => herror h.2]
          exact ends_pure ⟨rfl, rfl, rfl⟩
    · next hdisp =>
        rw [if_neg fun h => hdisp h.1]
        exact ends_pure ⟨rfl, rfl, rfl⟩
  unfold openedFile Prog.onlyIf
  split
  · next htrunc =>
      refine ends_silent_bind (OnlyCalls.bind (onlyCalls_perform.mpr rfl) fun _ => trivial)
        fun _ w₁ h₁ => ?_
      refine hrest.mono fun tr status w' ⟨htr, hnodes, hstatus⟩ => ⟨htr, hnodes.trans h₁, ?_⟩
      -- a truncated file has neither of the dispositions that look at the error
      have hneither : ¬ (l.creationDisposition = OPEN_ALWAYS ∨ l.creationDisposition = CREATE_ALWAYS) := by
        rw [htrunc.2]
        decide
      rw [hstatus, openedStatus, openedStatus, if_neg fun h => hneither h.1,
        if_neg fun h => hneither h.1]
  · exact ends_bind (ends_pure hrest)

theorem handle_ne (h : HANDLE) : h ≠ INVALID_HANDLE_VALUE ∨ h ≠ 0 := by
  by_cases hz : h = 0
  · left
    rw [hz]
    decide
  · exact Or.inr hz

theorem ends_fileBranch (hfile : ¬ CannotDelete l.fileAttr l.fileAttributesAndFlags) :
    Ends env os (fileBranch env q info l) w (fun tr res w' =>
      ∃ access sd r, tr = [⟨.win32 (.createFile l.filePath access l.shareAccess sd
          l.creationDisposition l.fileAttributesAndFlags), r⟩] ∧
        res.status = fileStatus env l.creationDisposition r ∧
        if l.creationDisposition = CREATE_NEW then w'.nodes = w.nodes.enter (createdNode env q false)
        else w'.nodes = w.nodes) := by
  unfold fileBranch
  rw [if_neg hfile]
  refine ends_silent_bind silent_impersonate fun _ w₁ h₁ => ?_
  refine ends_bind (ends_makeNodeIf.mono fun tr₂ made w₂ ⟨htr₂, hf, h₂⟩ => ?_)
  rw [htr₂]
  refine ends_bind (ends_createFile.mono fun tr₃ handle w₃ ⟨r, htr₃, hhandle, h₃, he₃⟩ => ?_)
  refine ends_bind (ends_endImpersonation.mono fun tr₄ _ w₄ ⟨htr₄, h₄, he₄⟩ => ?_)
  rw [htr₄, Prog.onlyIf, if_pos (handle_ne handle)]
  refine ends_bind (ends_addIf.mono fun tr₅ _ w₅ ⟨htr₅, h₅, he₅⟩ => ?_)
  rw [htr₅]
  have hnodes : if l.creationDisposition = CREATE_NEW then
      w₅.nodes = w.nodes.enter (createdNode env q false) else w₅.nodes = w.nodes := by
    rw [h₅, h₄, h₃, h₂, hf, h₁]
    by_cases hnew : l.creationDisposition = CREATE_NEW
    · simp only [if_pos hnew]
      rfl
    · simp only [if_neg hnew]
      rfl
  have herror : w₅.lastError = r.lastError := he₅.trans (he₄.trans he₃)
  refine Ends.mono (Q := fun tr res w' => tr = [] ∧ w'.nodes = w₅.nodes ∧
    res.status = fileStatus env l.creationDisposition r) ?_ fun tr res w' ⟨htr, h₆, hstatus⟩ => ?_
  · cases r with
    | fail error =>
        have hfail : handle = INVALID_HANDLE_VALUE ∨ handle = 0 := Or.inl hhandle
        rw [if_pos hfail]
        refine ends_call fun e w₆ ⟨he, h₆⟩ => ?_
        refine ends_silent_call trivial fun _ w₇ h₇ => ?_
        refine ends_finishCreate.mono fun tr res w' ⟨htr, hres, h₈⟩ => ⟨by rw [htr]; rfl, ?_, ?_⟩
        · rw [h₈, h₇, h₆]
        · rw [hres, he, herror]
          rfl
    | ok h e =>
        have hopen : ¬ (handle = INVALID_HANDLE_VALUE ∨ handle = 0) := by
          rw [hhandle]
          exact not_or.mpr ⟨h.2.2, h.2.1⟩
        rw [if_neg hopen]
        refine ends_bind (ends_openedFile.mono fun tr₆ status w₆ ⟨htr₆, h₆, hstatus⟩ => ?_)
        refine ends_finishCreate.mono fun tr res w' ⟨htr, hres, h₇⟩ => ⟨?_, h₇.trans h₆, ?_⟩
        · rw [htr₆, htr]
          rfl
        · rw [hres, hstatus, herror]
          rfl
  · rw [htr, htr₃, h₆]
    exact ⟨_, _, r, rfl, hstatus, hnodes⟩

/-- What making a folder does to the store. -/
def folderChange (env : Env) (q : CreateRequest) (disposition : DWORD) (made : Bool) : Nodes.Change :=
  if disposition = CREATE_NEW ∧ made = true then .put (createdNode env q true) else .keep

/-- The event opens what exists and creates nothing. -/
def OpensExisting (e : Event Call Answer) : Prop :=
  ∃ path access share sd flags r,
    e = ⟨.win32 (.createFile path access share sd OPEN_EXISTING flags), r⟩

theorem ends_createFolder :
    Ends env os (createFolder env q l) w (fun tr _ w' =>
      l.creationDisposition ≠ CREATE_NEW ∧ tr = [] ∧ w'.nodes = w.nodes ∨
      ∃ path sd r, tr = [⟨.win32 (.createDirectory path sd), r⟩] ∧
        (folderChange env q l.creationDisposition r.succeeded).Between w.nodes w'.nodes) := by
  unfold createFolder
  split
  · next hdisp =>
      refine ends_silent_bind silent_impersonate fun _ w₁ h₁ => ?_
      refine ends_bind (ends_makeNodeIf.mono fun tr₂ made w₂ ⟨htr₂, hf, h₂⟩ => ?_)
      rw [htr₂]
      refine ends_win32_bind fun r w₃ hnodes₃ => ?_
      have hsame : Nodes.Same w.nodes w₃.nodes := by
        rw [hnodes₃, h₂, h₁]
        split
        · exact Nodes.makeShared_same
        · exact Nodes.Same.refl _
      cases r with
      | fail error =>
          have hkeep : folderChange env q l.creationDisposition (Outcome.fail error :
              Outcome Unit).succeeded = .keep := if_neg fun h => Bool.false_ne_true h.2
          have hend : ∀ {status : NTSTATUS} {w₄ : World O}, w₄.nodes = w₃.nodes →
              Ends env os (do
                endImpersonation env l.userTokenHandle (decide (status ≠ STATUS_SUCCESS))
                pure (status, made.2)) w₄ (fun tr _ w' => tr = [] ∧ w'.nodes = w₃.nodes) :=
            fun h₄ => ends_silent_bind silent_endImpersonation fun _ w₅ h₅ =>
              ends_pure ⟨rfl, h₅.trans h₄⟩
          refine Ends.mono (Q := fun tr _ w' => tr = [] ∧ w'.nodes = w₃.nodes) ?_
            fun tr _ w' ⟨htr, hw'⟩ => Or.inr ⟨l.filePath, made.2, .fail error, ?_, ?_⟩
          · refine ends_call fun e w₄ ⟨_, h₄⟩ => ?_
            have hnodes₄ : w₄.nodes = w₃.nodes := by rw [h₄]
            split
            · exact ends_silent_call trivial fun _ w₅ h₅ =>
                hend (h₅.trans hnodes₄)
            · exact hend hnodes₄
          · rw [htr]
            rfl
          · rw [hkeep]
            exact hsame.trans (Nodes.Same.of_eq hw')
      | ok u e =>
          refine ends_bind (ends_addIf.mono fun tr₄ _ w₄ ⟨htr₄, h₄, _⟩ => ?_)
          rw [htr₄]
          refine ends_bind (ends_pure ?_)
          refine ends_silent_bind silent_endImpersonation fun _ w₅ h₅ => ends_pure (Or.inr ?_)
          refine ⟨l.filePath, made.2, .ok u e, rfl, ?_⟩
          have hend : w₅.nodes = (w₃.nodes.addFileNode made.1).2 := h₅.trans h₄
          by_cases hnew : l.creationDisposition = CREATE_NEW
          · have hmade : l.creationDisposition = CREATE_NEW ∨ l.creationDisposition = CREATE_ALWAYS :=
              Or.inl hnew
            rw [if_pos hmade] at hf h₂
            rw [folderChange, if_pos ⟨hnew, rfl⟩]
            refine Nodes.Same.of_eq ?_
            rw [hend, hnodes₃, h₂, hf, h₁]
            rfl
          · have hmade : ¬ (l.creationDisposition = CREATE_NEW ∨
                l.creationDisposition = CREATE_ALWAYS) := by
              intro h
              rcases hdisp with hd | hd
              · exact hnew hd
              · rw [hd] at h
                exact absurd h (by decide)
            rw [if_neg hmade] at hf
            rw [folderChange, if_neg fun h => hnew h.1]
            refine hsame.trans (Nodes.Same.of_eq ?_)
            rw [hend, hf]
            rfl
  · next hdisp => exact ends_pure (Or.inl ⟨fun h => hdisp (Or.inl h), rfl, rfl⟩)

theorem ends_openFolder {sd : Option SecurityDescriptor} :
    Ends env os (openFolder env q info l sd) w (fun tr _ w' =>
      w'.nodes = w.nodes ∧ ∀ e ∈ tr, OpensExisting e) := by
  unfold openFolder
  split
  · exact ends_pure ⟨rfl, fun e he => absurd he List.not_mem_nil⟩
  · refine ends_silent_bind silent_impersonate fun _ w₁ h₁ => ?_
    refine ends_bind (ends_createFile.mono fun tr handle w₂ ⟨r, htr, _, h₂, _⟩ => ?_)
    refine (ends_silent (OnlyCalls.bind silent_endImpersonation fun _ => ?_)).mono
      fun tr' _ w' ⟨htr', hw'⟩ => ⟨hw'.trans (h₂.trans h₁), ?_⟩
    · split
      · exact OnlyCalls.bind (onlyCalls_perform.mpr trivial) fun _ =>
          OnlyCalls.bind (onlyCalls_perform.mpr trivial) fun _ => silent_finishCreate
      · split
        · trivial
        · exact silent_finishCreate
    · rw [htr, htr']
      intro e he
      rw [List.append_nil, List.mem_singleton] at he
      exact ⟨_, _, _, _, _, r, he⟩

theorem ends_directoryBranch :
    Ends env os (directoryBranch env q info l) w (fun tr _ w' =>
      ∃ opens, (∀ e ∈ opens, OpensExisting e) ∧
        (l.creationDisposition ≠ CREATE_NEW ∧ tr = opens ∧ w'.nodes = w.nodes ∨
          ∃ path sd r, tr = ⟨.win32 (.createDirectory path sd), r⟩ :: opens ∧
            (folderChange env q l.creationDisposition r.succeeded).Between w.nodes w'.nodes)) := by
  refine ends_bind (ends_createFolder.mono fun tr₁ out w₁ hfolder => ?_)
  have hopened : Ends env os
      (if out.1 = STATUS_SUCCESS then openFolder env q info l out.2
        else finishCreate l 0 { status := out.1, info := info, securityDescriptor := out.2 }) w₁
      (fun tr _ w' => w'.nodes = w₁.nodes ∧ ∀ e ∈ tr, OpensExisting e) := by
    split
    · exact ends_openFolder
    · refine ends_finishCreate.mono fun tr _ w' ⟨htr, _, hw'⟩ => ⟨hw', ?_⟩
      rw [htr]
      exact fun e he => absurd he List.not_mem_nil
  refine hopened.mono fun tr₂ _ w₂ ⟨hnodes, hopens⟩ => ⟨tr₂, hopens, ?_⟩
  rw [hnodes]
  rcases hfolder with ⟨hdisp, htr₁, h₁⟩ | ⟨path, sd, r, htr₁, hchange⟩
  · exact Or.inl ⟨hdisp, by rw [htr₁]; rfl, h₁⟩
  · exact Or.inr ⟨path, sd, r, by rw [htr₁]; rfl, hchange⟩

/-! ## All a run can do -/

/-- The request gets to the `CreateFile` of the file branch, the attributes being
`fileAttr`. -/
def ReachesFile (env : Env) (q : CreateRequest) (info : DokanFileInfo) (fileAttr : DWORD) : Prop :=
  info.isDirectory = false ∧ ¬ IsDirectoryAttr fileAttr ∧
    ¬ CannotDelete fileAttr (userFlags env q).fileAttributesAndFlags

instance (env : Env) (q : CreateRequest) (info : DokanFileInfo) (a : DWORD) :
    Decidable (ReachesFile env q info a) := inferInstanceAs (Decidable (_ ∧ _ ∧ _))

/-- The questions a run put to the platform, the status it returned, and what it did to
the store. -/
inductive CreateRun (env : Env) (q : CreateRequest) (info : DokanFileInfo) :
    Trace → NTSTATUS → Nodes.Change → Prop
  /-- Refused, or a directory that is only opened. -/
  | existing {path : WString} {a : Outcome Attributes} {opens : Trace} {status : NTSTATUS} :
      ¬ ReachesFile env q info (attributesOf a) → (∀ e ∈ opens, OpensExisting e) →
      CreateRun env q info (⟨.win32 (.getFileAttributes path), a⟩ :: opens) status .keep
  /-- A directory is made, and maybe opened. -/
  | folder {path path' : WString} {a : Outcome Attributes} {sd : Option SecurityDescriptor}
      {r : Outcome Unit} {opens : Trace} {status : NTSTATUS} :
      ¬ ReachesFile env q info (attributesOf a) → (∀ e ∈ opens, OpensExisting e) →
      CreateRun env q info
        (⟨.win32 (.getFileAttributes path), a⟩ :: ⟨.win32 (.createDirectory path' sd), r⟩ :: opens)
        status (folderChange env q (userFlags env q).creationDisposition r.succeeded)
  /-- A file is opened or created. -/
  | file {path path' : WString} {a : Outcome Attributes} {access share flags : DWORD}
      {sd : Option SecurityDescriptor} {r : Outcome OpenHandle} :
      ReachesFile env q info (attributesOf a) →
      CreateRun env q info
        [⟨.win32 (.getFileAttributes path), a⟩,
          ⟨.win32 (.createFile path' access share sd (userFlags env q).creationDisposition flags), r⟩]
        (fileStatus env (userFlags env q).creationDisposition r)
        (if (userFlags env q).creationDisposition = CREATE_NEW then .put (createdNode env q false)
          else .keep)

/-- **Inversion.**  Every run of `MirrorCreateFile` is one of the three. -/
theorem run_create {tr : Trace} {res : CreateResult} {w' : World O}
    (h : Run (step env os) (mirrorCreateFile env q info) w tr res w') :
    ∃ c, CreateRun env q info (asked tr) res.status c ∧ c.Between w.nodes w'.nodes := by
  have hends : Ends env os (mirrorCreateFile env q info) w (fun tr res w' =>
      ∃ c, CreateRun env q info tr res.status c ∧ c.Between w.nodes w'.nodes) := by
    refine ends_filePathOf_bind fun filePath _ => ?_
    refine ends_silent_bind silent_createPrelude fun processName w₁ h₁ => ?_
    refine ends_bind (ends_getFileAttributes.mono fun tr₂ fileAttr w₂ ⟨a, htr₂, ha, h₂⟩ => ?_)
    rw [htr₂, ha]
    have h₂ : w₂.nodes = w.nodes := h₂.trans h₁
    split
    · next hdir =>
        refine ends_silent_call trivial fun _ w₃ h₃ => ends_pure ?_
        refine ⟨.keep, .existing (fun hfile => hfile.2.1 hdir.1) fun e he => ?_, ?_⟩
        · exact absurd he List.not_mem_nil
        · exact Nodes.Same.of_eq (h₃.trans h₂)
    · refine ends_silent_bind silent_openToken fun token w₃ h₃ => ?_
      have h₃ : w₃.nodes = w.nodes := h₃.trans h₂
      have hinfo : (if IsDirectoryAttr (attributesOf a) then { info with isDirectory := true }
          else info).isDirectory = true ↔
          IsDirectoryAttr (attributesOf a) ∨ info.isDirectory = true := by
        split
        · next hattr => exact iff_of_true rfl (Or.inl hattr)
        · next hattr => exact (or_iff_right hattr).symm
      by_cases hdir : IsDirectoryAttr (attributesOf a) ∨ info.isDirectory = true
      · have hfile : ¬ ReachesFile env q info (attributesOf a) := by
          intro ⟨hnot, hattr, _⟩
          rcases hdir with hdir | hdir
          · exact hattr hdir
          · rw [hnot] at hdir
            exact Bool.false_ne_true hdir
        rw [if_pos (hinfo.mpr hdir)]
        refine ends_directoryBranch.mono fun tr res w' ⟨opens, hopens, hend⟩ => ?_
        rw [h₃] at hend
        rcases hend with ⟨_, htr, hw'⟩ | ⟨path, sd, r, htr, hchange⟩
        · rw [htr]
          exact ⟨.keep, .existing hfile hopens, Nodes.Same.of_eq hw'⟩
        · rw [htr]
          exact ⟨_, .folder hfile hopens, hchange⟩
      · rw [if_neg fun h => hdir (hinfo.mp h)]
        obtain ⟨hattr, hnot⟩ := not_or.mp hdir
        have hnot : info.isDirectory = false := Bool.eq_false_iff.mpr hnot
        by_cases hdel : CannotDelete (attributesOf a) (userFlags env q).fileAttributesAndFlags
        · have hfile : ¬ ReachesFile env q info (attributesOf a) := fun h => h.2.2 hdel
          unfold fileBranch
          rw [if_pos hdel]
          refine ends_pure ⟨.keep, .existing hfile fun e he => ?_, Nodes.Same.of_eq h₃⟩
          exact absurd he List.not_mem_nil
        · refine (ends_fileBranch hdel).mono fun tr res w' ⟨access, sd, r, htr, hstatus, hend⟩ => ?_
          rw [htr, hstatus]
          refine ⟨_, .file ⟨hnot, hattr, hdel⟩, ?_⟩
          rw [h₃] at hend
          show Nodes.Change.Between _ _ (if (userFlags env q).creationDisposition = CREATE_NEW then
            Nodes.Change.put (createdNode env q false) else Nodes.Change.keep)
          split
          · next hnew => exact Nodes.Same.of_eq (by simpa only [hnew, if_true] using hend)
          · next hnew => exact Nodes.Same.of_eq (by simpa only [hnew, if_false] using hend)
  exact hends tr res w' h

/-- What a request does to the store, by what it asked: a folder made for `CREATE_NEW`,
or a `CreateFile` tried for it, puts a node. -/
def createChange (env : Env) (q : CreateRequest) : Trace → Nodes.Change
  | _ :: ⟨.win32 (.createDirectory ..), r⟩ :: _ =>
      folderChange env q (userFlags env q).creationDisposition (Outcome.succeeded r)
  | [_, ⟨.win32 (.createFile _ _ _ _ disposition _), _⟩] =>
      if disposition = CREATE_NEW then .put (createdNode env q false) else .keep
  | _ => .keep

theorem CreateRun.change {shown : Trace} {status : NTSTATUS} {c : Nodes.Change}
    (h : CreateRun env q info shown status c) : c = createChange env q shown := by
  cases h with
  | @existing _ _ opens _ _ hopens =>
      match opens with
      | [] => rfl
      | [e] =>
          obtain ⟨path, access, share, sd, flags, r, rfl⟩ := hopens e List.mem_cons_self
          have hother : OPEN_EXISTING ≠ CREATE_NEW := by decide
          show Nodes.Change.keep =
            if OPEN_EXISTING = CREATE_NEW then .put (createdNode env q false) else .keep
          rw [if_neg hother]
      | e :: e' :: rest =>
          obtain ⟨path, access, share, sd, flags, r, rfl⟩ := hopens e List.mem_cons_self
          rfl
  | folder _ _ => rfl
  | file _ => rfl

/-- **Creating is a change of the store.** -/
theorem create_change {tr : Trace} {res : CreateResult} {w' : World O}
    (h : Run (step env os) (mirrorCreateFile env q info) w tr res w') :
    (createChange env q (asked tr)).Between w.nodes w'.nodes := by
  obtain ⟨c, hrun, hchange⟩ := run_create h
  rw [← hrun.change]
  exact hchange

/-! ## Every request returns -/

theorem returns_makeNodeIf {b : Prop} [Decidable b] {isDirectory : Bool} :
    Returns env (makeNodeIf b q isDirectory) := by
  unfold makeNodeIf
  split
  · exact returns_bind (returns_call trivial fun _ => returns_call trivial
      fun _ => trivial) fun _ => trivial
  · trivial

theorem returns_addIf {f : Option Ptr} : Returns env (addIf f) := by
  cases f with
  | none => trivial
  | some p => exact returns_call trivial fun _ => trivial

theorem returns_createFile {path : WString} {access share disposition flags : DWORD}
    {sd : Option SecurityDescriptor} :
    Returns env (createFile path access share sd disposition flags) := by
  refine returns_call trivial fun r => ?_
  cases r with
  | ok h e => trivial
  | fail e => trivial

theorem returns_createFolder (hoff : env.debugMode = false) : Returns env (createFolder env q l) := by
  unfold createFolder
  split
  · refine returns_bind (returns_silent hoff silent_impersonate) fun _ => returns_bind returns_makeNodeIf
      fun made => returns_call trivial fun r => ?_
    have hend : ∀ {status : NTSTATUS}, Returns env (do
        endImpersonation env l.userTokenHandle (decide (status ≠ STATUS_SUCCESS))
        pure (status, made.2)) :=
      returns_bind (returns_silent hoff silent_endImpersonation) fun _ => trivial
    cases r with
    | fail error =>
        refine returns_call trivial fun e => ?_
        split
        · exact returns_call trivial fun _ => hend
        · exact hend
    | ok u e => exact returns_bind returns_addIf fun _ => hend
  · trivial

theorem returns_openFolder (hoff : env.debugMode = false) {sd : Option SecurityDescriptor} :
    Returns env (openFolder env q info l sd) := by
  unfold openFolder
  split
  · trivial
  · refine returns_bind (returns_silent hoff silent_impersonate) fun _ => returns_bind returns_createFile
      fun handle => returns_bind (returns_silent hoff silent_endImpersonation) fun _ => ?_
    split
    · exact returns_call trivial fun _ => returns_call trivial fun _ =>
        returns_silent hoff silent_finishCreate
    · split
      · trivial
      · exact returns_silent hoff silent_finishCreate

theorem returns_directoryBranch (hoff : env.debugMode = false) : Returns env (directoryBranch env q info l) := by
  refine returns_bind (returns_createFolder hoff) fun out => ?_
  show Returns env (if out.1 = STATUS_SUCCESS then openFolder env q info l out.2
    else finishCreate l 0 { status := out.1, info := info, securityDescriptor := out.2 })
  split
  · exact returns_openFolder hoff
  · exact returns_silent hoff silent_finishCreate

theorem returns_openedFile (hoff : env.debugMode = false) : Returns env (openedFile l) := by
  refine returns_bind (returns_silent hoff (OnlyCalls.onlyIf fun _ => OnlyCalls.bind
    (onlyCalls_perform.mpr rfl) fun _ => trivial)) fun _ => ?_
  split
  · refine returns_call trivial fun e => ?_
    split
    · exact returns_call trivial fun _ => trivial
    · trivial
  · trivial

theorem returns_fileBranch (hoff : env.debugMode = false) : Returns env (fileBranch env q info l) := by
  unfold fileBranch
  split
  · trivial
  · refine returns_bind (returns_silent hoff silent_impersonate) fun _ => returns_bind returns_makeNodeIf
      fun made => returns_bind returns_createFile fun handle => returns_bind (returns_silent hoff
      silent_endImpersonation) fun _ => ?_
    rw [Prog.onlyIf, if_pos (handle_ne handle)]
    refine returns_bind returns_addIf fun _ => ?_
    split
    · exact returns_call trivial fun _ => returns_call trivial fun _ =>
        returns_silent hoff silent_finishCreate
    · exact returns_bind (returns_openedFile hoff) fun _ => returns_silent hoff silent_finishCreate

/-- With debugging off, a request whose backing path fits the buffer is answered. -/
theorem returns_create (hoff : env.debugMode = false)
    (hfits : (getFilePath env.globals DOKAN_MAX_PATH q.fileName).isSome) :
    Returns env (mirrorCreateFile env q info) := by
  refine returns_bind (returns_filePathOf hfits) fun path => returns_bind (returns_silent hoff
    silent_createPrelude) fun processName => returns_bind ?_ fun fileAttr => ?_
  · refine returns_call trivial fun r => ?_
    cases r with
    | ok a e => trivial
    | fail e => trivial
  · split
    · exact returns_call trivial fun _ => trivial
    · have hbranch : ∀ {info : DokanFileInfo} {l : CreateLocals}, Returns env
          (if info.isDirectory = true then directoryBranch env q info l
            else fileBranch env q info l) := by
        intro info l
        split
        · exact returns_directoryBranch hoff
        · exact returns_fileBranch hoff
      exact returns_bind (returns_silent hoff silent_openToken) fun token => hbranch

end

end SeamlessSmb
