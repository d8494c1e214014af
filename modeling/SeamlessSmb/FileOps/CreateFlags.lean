/-
# `FileOps.CreateFlags` — the flags a file is opened with

`MirrorCreateFile` maps the kernel's flags to those of `CreateFile` and adjusts them: no reparse
point is opened as such, a case sensitive mount opens by the POSIX rules, a writer writes through
and without a buffer, and the backup process reads sequentially.  Then it maps them again, into
the same variable, and opens with that.

| | |
| :-- | :-- |
| `adjustedFlags` | the flags after every adjustment |
| `MapsAdjusted` | the mapping gives them as the adjustments would |

**Proved here:** a `CreateFile` gets the adjusted flags just if the mapping gave them so
(`createFlags_iff`).
-/
import SeamlessSmb.Lib.Flags
import SeamlessSmb.FileOps.CreateCalls
import SeamlessSmb.FileOps.CreateNode
import SeamlessSmb.FileOps.Script

namespace SeamlessSmb

open Calls Flags

/-! ## The adjustments -/

/-- The flags after every adjustment of the callback. -/
def adjustedFlags (env : Env) (q : CreateRequest) (processName : WString) : DWORD :=
  let flags :=
    printedFlags (passedAccess q.desiredAccess) (userFlags env q).fileAttributesAndFlags processName
  if env.globals.caseSensitive = true then flags ||| FILE_FLAG_POSIX_SEMANTICS else flags

/-- What `CreateFile` is to be given for a file, or for a directory. -/
def openingFlags (directory : Prop) [Decidable directory] (flags : DWORD) : DWORD :=
  if directory then flags ||| FILE_FLAG_BACKUP_SEMANTICS else flags

/-- The backup process reads. -/
def BackupReads (q : CreateRequest) (processName : WString) : Prop :=
  q.desiredAccess &&& FILE_READ_DATA ≠ 0 ∧ processName = wide "bztransmit64.exe".toList

instance (q : CreateRequest) (processName : WString) : Decidable (BackupReads q processName) :=
  inferInstanceAs (Decidable (_ ∧ _))

/-- The flags added for the way data is read and written. -/
def dataFlags (q : CreateRequest) (processName : WString) : DWORD :=
  (if q.desiredAccess &&& FILE_WRITE_DATA ≠ 0 then FILE_FLAG_WRITE_THROUGH ||| FILE_FLAG_NO_BUFFERING
    else 0) |||
  (if BackupReads q processName then FILE_FLAG_SEQUENTIAL_SCAN else 0)

/-- The flags the adjustments add. -/
def addedFlags (env : Env) (q : CreateRequest) (processName : WString) : DWORD :=
  dataFlags q processName |||
    (if env.globals.caseSensitive = true then FILE_FLAG_POSIX_SEMANTICS else 0)

/-- The mapped flags are such that no adjustment changes them. -/
structure MapsAdjusted (env : Env) (q : CreateRequest) (processName : WString) : Prop where
  reparse : (userFlags env q).fileAttributesAndFlags &&& FILE_FLAG_OPEN_REPARSE_POINT = 0
  posix : env.globals.caseSensitive = true →
    Has (userFlags env q).fileAttributesAndFlags FILE_FLAG_POSIX_SEMANTICS
  write : q.desiredAccess &&& FILE_WRITE_DATA ≠ 0 →
    Has (userFlags env q).fileAttributesAndFlags (FILE_FLAG_WRITE_THROUGH ||| FILE_FLAG_NO_BUFFERING)
  read : BackupReads q processName →
    Has (userFlags env q).fileAttributesAndFlags FILE_FLAG_SEQUENTIAL_SCAN

section

variable {env : Env} {q : CreateRequest} {info : DokanFileInfo} {processName : WString}

/-- The rights that are not passed on are none of data. -/
theorem passedAccess_and {access right : DWORD}
    (hdisjoint : ~~~WRITE_DAC &&& (~~~WRITE_OWNER &&& (~~~ACCESS_SYSTEM_SECURITY &&& right)) = right) :
    passedAccess access &&& right = access &&& right := by
  unfold passedAccess
  rw [BitVec.and_assoc, BitVec.and_assoc, BitVec.and_assoc, hdisjoint]

/-- None of the flags added is the one taken away, or the one for directories. -/
theorem addedFlags_and :
    addedFlags env q processName &&& FILE_FLAG_OPEN_REPARSE_POINT = 0 ∧
      addedFlags env q processName &&& FILE_FLAG_BACKUP_SEMANTICS = 0 := by
  unfold addedFlags dataFlags
  split <;> split <;> split <;> decide

/-- The flag taken away and those added, in one step. -/
theorem adjustedFlags_eq :
    adjustedFlags env q processName =
      ((userFlags env q).fileAttributesAndFlags &&& ~~~FILE_FLAG_OPEN_REPARSE_POINT) |||
        addedFlags env q processName := by
  have hwrite : passedAccess q.desiredAccess &&& FILE_WRITE_DATA = q.desiredAccess &&& FILE_WRITE_DATA :=
    passedAccess_and (by decide)
  have hread : passedAccess q.desiredAccess &&& FILE_READ_DATA = q.desiredAccess &&& FILE_READ_DATA :=
    passedAccess_and (by decide)
  have hdata : dataFlags q processName &&& FILE_FLAG_OPEN_REPARSE_POINT = 0 := by
    unfold dataFlags
    split <;> split <;> decide
  have hprinted : printedFlags (passedAccess q.desiredAccess) (userFlags env q).fileAttributesAndFlags
      processName = ((userFlags env q).fileAttributesAndFlags ||| dataFlags q processName) &&&
        ~~~FILE_FLAG_OPEN_REPARSE_POINT := by
    unfold printedFlags dataFlags BackupReads
    rw [hwrite, hread]
    dsimp only
    rw [or_ite, or_ite, BitVec.or_assoc]
    rfl
  unfold adjustedFlags addedFlags
  rw [hprinted]
  dsimp only
  rw [or_ite, or_and_not hdata, BitVec.or_assoc]

/-- The adjustments change nothing just if the mapping did them. -/
theorem adjustedFlags_eq_self :
    adjustedFlags env q processName = (userFlags env q).fileAttributesAndFlags ↔
      MapsAdjusted env q processName := by
  rw [adjustedFlags_eq, clear_set_eq_self addedFlags_and.1]
  unfold addedFlags dataFlags
  rw [has_or, has_or, has_ite, has_ite, has_ite]
  constructor
  · rintro ⟨hreparse, ⟨hwrite, hread⟩, hposix⟩
    exact ⟨hreparse, hposix, hwrite, hread⟩
  · intro h
    exact ⟨h.reparse, ⟨h.write, h.read⟩, h.posix⟩

/-- The flag for directories tells nothing of the others. -/
theorem openingFlags_eq_iff {directory : Prop} [Decidable directory] :
    openingFlags directory (userFlags env q).fileAttributesAndFlags =
        openingFlags directory (adjustedFlags env q processName) ↔
      MapsAdjusted env q processName := by
  have hagree : (userFlags env q).fileAttributesAndFlags &&& FILE_FLAG_BACKUP_SEMANTICS =
      adjustedFlags env q processName &&& FILE_FLAG_BACKUP_SEMANTICS := by
    have hkept : ~~~FILE_FLAG_OPEN_REPARSE_POINT &&& FILE_FLAG_BACKUP_SEMANTICS =
        FILE_FLAG_BACKUP_SEMANTICS := by decide
    rw [adjustedFlags_eq, BitVec.and_or_distrib_right, addedFlags_and.2, BitVec.and_assoc, hkept]
    exact BitVec.or_zero.symm
  rw [← adjustedFlags_eq_self, eq_comm (a := adjustedFlags env q processName)]
  unfold openingFlags
  split
  · exact or_cancel hagree
  · exact Iff.rfl

/-! ## The flags that are passed -/

/-- The event opens a file or directory with these flags. -/
def OpensWith (flags : DWORD) (e : Event Call Answer) : Prop :=
  ∃ path access share sd disposition, e.call = .win32 (.createFile path access share sd disposition flags)

theorem OpensWith.not_handlesToken {flags : DWORD} {e : Event Call Answer} (h : OpensWith flags e) :
    ¬ HandlesToken e := by
  obtain ⟨path, access, share, sd, disposition, hcall⟩ := h
  rintro (htoken | ⟨token, htoken | htoken⟩) <;> rw [hcall] at htoken <;> cases htoken

/-- Around a call nothing is opened. -/
theorem Section.opensWith {token : HANDLE} {e e' : Event Call Answer} {close : Bool} {tr : Trace}
    {flags : DWORD} (h : Section env token e close tr) (he' : e' ∈ tr) (hopens : OpensWith flags e') :
    OpensWith flags e :=
  (h.mem he').elim (fun heq => heq ▸ hopens) fun htoken => absurd htoken hopens.not_handlesToken

/-- The first half of the directory branch opens nothing. -/
theorem FolderCalls.opens_nothing {l : CreateLocals} {goesOn : Bool} {tr : Trace} {flags : DWORD}
    {e : Event Call Answer} (h : FolderCalls env l goesOn tr) (he : e ∈ tr) : ¬ OpensWith flags e := by
  intro hopens
  cases h with
  | existing _ => cases he
  | made _ _ hsection =>
      obtain ⟨_, _, _, _, _, hcall⟩ := hsection.opensWith he hopens
      cases hcall
  | failed _ _ hsection =>
      obtain ⟨_, _, _, _, _, hcall⟩ := hsection.opensWith he hopens
      cases hcall

/-- What is opened is opened with the flags as they were mapped. -/
theorem BranchCalls.opensWith {l : CreateLocals} {directory : Bool} {tr : Trace} {flags : DWORD}
    {e : Event Call Answer} (h : BranchCalls env q l directory tr) (he : e ∈ tr) (hopens : OpensWith flags e) :
    flags = openingFlags (directory = true) l.fileAttributesAndFlags := by
  cases h with
  | notMade hfolder => exact absurd hopens (hfolder.opens_nothing he)
  | notADirectory hfolder _ => exact absurd hopens (hfolder.opens_nothing he)
  | folder hfolder _ hsection =>
      rcases List.mem_append.mp he with he | he
      · exact absurd hopens (hfolder.opens_nothing he)
      · obtain ⟨_, _, _, _, _, hcall⟩ := hsection.opensWith he hopens
        cases hcall
        rfl
  | cannotDelete _ => cases he
  | file _ hsection hafter =>
      rcases List.mem_append.mp he with he | he
      · obtain ⟨_, _, _, _, _, hcall⟩ := hsection.opensWith he hopens
        cases hcall
        rfl
      · obtain ⟨_, _, _, _, _, hcall⟩ := hopens
        obtain ⟨_, hset⟩ := hafter e he
        rw [hset] at hcall
        cases hcall

/-- The name of the calling process, as the run got it. -/
def callerName (tr : Trace) : WString :=
  match watched Call.isWin32 tr with
  | ⟨.win32 (.getProcessNameFromPID _), name⟩ :: _ => name.toOption.getD []
  | _ => []

theorem attributesSeen_watched {tr : Trace} : attributesSeen (watched Call.isWin32 tr) = attributesSeen tr := by
  have hasked : asked (watched Call.isWin32 tr) = asked tr := by
    unfold asked watched
    rw [List.filter_filter]
    refine List.filter_congr fun e _ => ?_
    cases hc : e.call with
    | win32 c => exact Bool.and_true _
    | _ => rfl
  unfold attributesSeen
  rw [hasked]

theorem CreateCalls.opensWith {tr : Trace} {flags : DWORD} {e : Event Call Answer}
    (h : CreateCalls env q info tr) (he : e ∈ tr) (hopens : OpensWith flags e) :
    flags = openingFlags (ForDirectory info (attributesSeen tr)) (userFlags env q).fileAttributesAndFlags := by
  obtain ⟨_, _, _, _, _, hcall⟩ := hopens
  cases h with
  | aDirectory =>
      simp only [List.mem_cons, List.not_mem_nil, or_false] at he
      rcases he with rfl | rfl
      · cases hcall
      · cases hcall
  | @branch path name a token opened tr hopened hbranch =>
      have hrest : e ∈ tr := by
        simp only [List.mem_cons, List.mem_append] at he
        rcases he with rfl | rfl | he | he
        · cases hcall
        · cases hcall
        · rw [hopened.mem he] at hcall
          cases hcall
        · exact he
      have hflags := hbranch.opensWith hrest ⟨_, _, _, _, _, hcall⟩
      simp only [decide_eq_true_eq] at hflags
      exact hflags

end

section

variable {O : Type} {env : Env} {os : O → (c : Win32Call) → Outcome c.Value → O → Prop} {w w' : World O}
  {q : CreateRequest} {info : DokanFileInfo} {tr : Trace} {res : CreateResult} {flags : DWORD}
  {e : Event Call Answer}

/-- The flags in a run are those of the second mapping. -/
theorem run_opensWith (h : Run (step env os) (mirrorCreateFile env q info) w tr res w') (he : e ∈ tr)
    (hopens : OpensWith flags e) :
    flags = openingFlags (ForDirectory info (attributesSeen tr)) (userFlags env q).fileAttributesAndFlags := by
  have hwatched : e ∈ watched Call.isWin32 tr := by
    obtain ⟨_, _, _, _, _, hcall⟩ := hopens
    refine List.mem_filter.mpr ⟨he, ?_⟩
    rw [hcall]
    rfl
  have hflags := (run_createCalls h).opensWith hwatched hopens
  rwa [attributesSeen_watched] at hflags

/-- **A file is opened with the adjusted flags** just if the mapping gave them so: the
adjustments are overwritten by the second mapping. -/
theorem createFlags_iff (h : Run (step env os) (mirrorCreateFile env q info) w tr res w') (he : e ∈ tr)
    (hopens : OpensWith flags e) :
    flags = openingFlags (ForDirectory info (attributesSeen tr)) (adjustedFlags env q (callerName tr)) ↔
      MapsAdjusted env q (callerName tr) := by
  rw [run_opensWith h he hopens]
  exact openingFlags_eq_iff

end

/-- A request for the new file `\a`, with the access of `access`. -/
def CreateRequest.accessing (access : DWORD) : CreateRequest :=
  { CreateRequest.plain 2 with desiredAccess := access }

/-- It opens the file. -/
theorem exists_opens (access : DWORD) :
    ∃ tr res w' flags e, Run (step (.plain false) (newFile (.ok ⟨8, by decide⟩ 0)))
        (mirrorCreateFile (.plain false) (.accessing access) {}) (.start .none) tr res w' ∧
      e ∈ tr ∧ OpensWith flags e := by
  have hfits : (getFilePath (Env.plain false).globals DOKAN_MAX_PATH (wide ['\\', 'a'])).isSome := by
    decide
  have hreturns : Returns (.plain false) (mirrorCreateFile (.plain false) (.accessing access) {}) :=
    returns_create rfl hfits
  have htotal : ∀ (o : Unit) (c : Win32Call), ∃ r o', Win32Call.Allowed (.plain false) c r ∧
      newFile (.ok ⟨8, by decide⟩ 0) o c r o' := newFile_total
  obtain ⟨tr, res, w', h⟩ := hreturns.exists_run htotal (.start .none)
  have hreach : ReachesFile (.plain false) (.accessing access) {} INVALID_FILE_ATTRIBUTES := by
    refine ⟨rfl, ?_, ?_⟩
    · decide
    · show ¬ CannotDelete INVALID_FILE_ATTRIBUTES FILE_ATTRIBUTE_NORMAL
      decide
  obtain ⟨-, -, _, _, path, acc, share, sd, flags, hasked⟩ := run_create_newFile hreach h
  have hmem := hasked ▸ List.mem_cons_of_mem _ List.mem_cons_self
  exact ⟨tr, res, w', flags, _, h, List.mem_of_mem_filter hmem, path, acc, share, sd, _, rfl⟩

/-- A file opened for nothing in particular gets the flags as they are. -/
theorem createFlags_plain :
    ∃ tr res w' flags e, Run (step (.plain false) (newFile (.ok ⟨8, by decide⟩ 0)))
        (mirrorCreateFile (.plain false) (.accessing 0) {}) (.start .none) tr res w' ∧
      e ∈ tr ∧ OpensWith flags e ∧ flags = openingFlags (ForDirectory {} (attributesSeen tr))
        (adjustedFlags (.plain false) (.accessing 0) (callerName tr)) := by
  obtain ⟨tr, res, w', flags, e, h, he, hopens⟩ := exists_opens 0
  refine ⟨tr, res, w', flags, e, h, he, hopens, (createFlags_iff h he hopens).mpr ?_⟩
  exact ⟨by decide, nofun, fun h => absurd rfl h, fun h => absurd rfl h.1⟩

/-- A file opened for writing is not written through. -/
theorem not_createFlags :
    ¬ ∀ (env : Env) (os : Unit → (c : Win32Call) → Outcome c.Value → Unit → Prop) (q : CreateRequest)
      (info : DokanFileInfo) (w w' : World Unit) (tr : Trace) (res : CreateResult) (flags : DWORD)
      (e : Event Call Answer),
      Run (step env os) (mirrorCreateFile env q info) w tr res w' → e ∈ tr → OpensWith flags e →
        flags = openingFlags (ForDirectory info (attributesSeen tr)) (adjustedFlags env q (callerName tr)) := by
  intro hclaim
  obtain ⟨tr, res, w', flags, e, h, he, hopens⟩ := exists_opens FILE_WRITE_DATA
  have hflags := hclaim _ _ _ _ _ _ _ _ _ _ h he hopens
  rw [run_opensWith h he hopens] at hflags
  have hwrite := (openingFlags_eq_iff.mp hflags).write (by decide)
  exact absurd hwrite (by decide)

end SeamlessSmb
