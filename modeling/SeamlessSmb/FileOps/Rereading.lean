/-
# `FileOps.Rereading` — where the log decides the status

Four of the callbacks return a last error they have read behind a log line.

| callback | behind | returned |
| :-- | :-- | :-- |
| `MirrorDeleteFile` | a failed `SetFileInformationByHandle` | the error mapped |
| `MirrorReadFile` | a failed `SetFilePointer` or `GetFileSizeEx`, filling the cache | the error mapped |
| `MirrorGetFileSecurity` | a failed `GetPrivateObjectSecurity` | the error |
| `MirrorSetFileSecurity` | `SetPrivateObjectSecurity` | the error mapped |

`MirrorReadFile` closes a file it has opened itself before it reads the error again, which is
harmless if the closing sets it.  In `MirrorSetFileSecurity` it is the failure that counts for a
file without a node, and for one with a node what the variable `stat` holds.

`Departs` follows two plays like `Alike`, and says of a status that is not the same that it is
what the printing has left.  And with debugging on a callback does not return that has to print
a descriptor whose DACL is `NULL`.

**Proved here:** `printFree_iff`, for every callback.
-/
import SeamlessSmb.FileOps.Printing

namespace SeamlessSmb

open Calls

/-! ## The callbacks -/

/-- What a callback gives back to the driver.  Closing and cleaning up return nothing. -/
structure Reply where
  status : Option NTSTATUS
  info : DokanFileInfo

/-- `DOKAN_OPERATIONS`, each with its arguments.  `unset`, `stat` and `stray` are what the
variables hold that nothing was written to. -/
inductive DokanOperation
  | zwCreateFile (q : CreateRequest)
  | cleanup (fileName : WString)
  | closeFile (fileName : WString)
  | readFile (fileName : WString) (bufferLength : DWORD) (offset : BitVec 64)
  | writeFile (fileName : WString) (buffer : List Byte) (numberOfBytesToWrite : DWORD)
      (offset : BitVec 64)
  | flushFileBuffers (fileName : WString)
  | getFileInformation (fileName : WString) (information : ByHandleFileInformation)
  | findFiles (fileName : WString)
  | setFileAttributes (fileName : WString) (fileAttributes : DWORD)
  | setFileTime (fileName : WString) (creationTime lastAccessTime lastWriteTime : Option FILETIME)
  | deleteFile (fileName : WString)
  | deleteDirectory (fileName : WString)
  | moveFile (fileName newFileName : WString) (replaceIfExisting : Bool)
  | setEndOfFile (fileName : WString) (byteOffset : BitVec 64)
  | setAllocationSize (fileName : WString) (allocSize : BitVec 64)
  | lockFile (fileName : WString) (byteOffset length : BitVec 64)
  | unlockFile (fileName : WString) (byteOffset length : BitVec 64)
  | getFileSecurity (fileName : WString) (parts bufferLength unset : DWORD)
  | setFileSecurity (fileName : WString) (stat : NTSTATUS) (stray : CodeUnits) (parts : DWORD)
      (sd : SecurityDescriptor)
  | getDiskFreeSpace
  | getVolumeInformation (q : VolumeRequest)
  | unmounted
  | findStreams (fileName : WString) (accepts : Nat → Bool)
  | mounted

/-- A callback that returns a status and leaves the structure of the file alone. -/
def replying {α : Type} (status : α → NTSTATUS) (info : DokanFileInfo) (p : Op α) : Op Reply := do
  let r ← p
  pure { status := some (status r), info := info }

namespace DokanOperation

/-- The callback. -/
def program (env : Env) (info : DokanFileInfo) : DokanOperation → Op Reply
  | .zwCreateFile q => do
      let r ← mirrorCreateFile env q info
      pure { status := some r.status, info := r.info }
  | .cleanup fileName => do
      let info ← mirrorCleanup env fileName info
      pure { status := none, info := info }
  | .closeFile fileName => do
      let info ← mirrorCloseFile env fileName info
      pure { status := none, info := info }
  | .readFile fileName bufferLength offset =>
      replying ReadFileResult.status info (mirrorReadFile env fileName bufferLength offset info)
  | .writeFile fileName buffer numberOfBytesToWrite offset =>
      replying WriteFileResult.status info
        (mirrorWriteFile env fileName buffer numberOfBytesToWrite offset info)
  | .flushFileBuffers fileName => replying id info (mirrorFlushFileBuffers env fileName info)
  | .getFileInformation fileName information =>
      replying FileInformationResult.status info
        (mirrorGetFileInformation env fileName information info)
  | .findFiles fileName => replying ListingResult.status info (mirrorFindFiles env fileName)
  | .setFileAttributes fileName fileAttributes =>
      replying id info (mirrorSetFileAttributes env fileName fileAttributes)
  | .setFileTime fileName creationTime lastAccessTime lastWriteTime =>
      replying id info (mirrorSetFileTime env fileName creationTime lastAccessTime lastWriteTime info)
  | .deleteFile fileName => replying id info (mirrorDeleteFile env fileName info)
  | .deleteDirectory fileName => replying id info (SeamlessSmb.deleteDirectory env fileName info)
  | .moveFile fileName newFileName replaceIfExisting =>
      replying id info (mirrorMoveFile env fileName newFileName replaceIfExisting info)
  | .setEndOfFile fileName byteOffset => replying id info (mirrorSetEndOfFile env fileName byteOffset info)
  | .setAllocationSize fileName allocSize =>
      replying id info (mirrorSetAllocationSize env fileName allocSize info)
  | .lockFile fileName byteOffset length =>
      replying id info (mirrorLockFile env fileName byteOffset length info)
  | .unlockFile fileName byteOffset length =>
      replying id info (mirrorUnlockFile env fileName byteOffset length info)
  | .getFileSecurity fileName parts bufferLength unset =>
      replying GetFileSecurityResult.status info
        (mirrorGetFileSecurity env unset fileName parts bufferLength)
  | .setFileSecurity fileName stat stray parts sd =>
      replying id info (mirrorSetFileSecurity env stat stray fileName parts sd info)
  | .getDiskFreeSpace => replying DiskFreeSpaceResult.status info (mirrorDokanGetDiskFreeSpace env)
  | .getVolumeInformation q =>
      replying VolumeInformation.status info (mirrorGetVolumeInformation env q)
  | .unmounted => replying id info mirrorUnmounted
  | .findStreams fileName accepts =>
      replying ListingResult.status info (mirrorFindStreams env fileName accepts)
  | .mounted => replying id info mirrorMounted

/-- No callback looks at the debug mode. -/
theorem program_debugging {env : Env} {info : DokanFileInfo} {on : Bool} {q : DokanOperation} :
    q.program (env.debugging on) info = q.program env info := by
  cases q with
  | getDiskFreeSpace =>
      refine congrArg (replying _ info) (congrArg (Prog.call _) (funext fun r => ?_))
      cases r with
      | ok space e => rfl
      | fail e => rfl
  | _ => rfl

end DokanOperation

/-! ## The reads that decide -/

/-- The request to delete the file on close was refused. -/
def DispositionFails : Event Call Answer → Prop
  | ⟨.win32 (.setFileDispositionInfo _ _), .fail _⟩ => True
  | _ => False

/-- The kept file could not be rewound, or its size not be found out. -/
def FillFails : Event Call Answer → Prop
  | ⟨.win32 (.setFilePointer _), .fail _⟩ => True
  | ⟨.win32 (.getFileSizeEx _), .fail _⟩ => True
  | _ => False

/-- The parts asked for could not be taken out of the descriptor. -/
def PartsFail : Event Call Answer → Prop
  | ⟨.win32 (.getPrivateObjectSecurity _ _ _), .fail _⟩ => True
  | _ => False

/-- The merge after which a failure is returned: of a file with a node by what `stat` holds,
of one without by the outcome. -/
def MergeFails (found : Bool) (stat : NTSTATUS) : Event Call Answer → Prop
  | ⟨.win32 (.setPrivateObjectSecurity _ _ _), r⟩ =>
      if found = true then stat ≠ ERROR_SUCCESS else r.succeeded = false
  | _ => False

/-- The calls behind which the status is a last error read after a line was printed. -/
def DokanOperation.decides (n : Nodes) : DokanOperation → Event Call Answer → Prop
  | .deleteFile _ => DispositionFails
  | .readFile _ _ _ => FillFails
  | .getFileSecurity _ _ _ _ => PartsFail
  | .setFileSecurity fileName stat _ _ _ => MergeFails (n.findFileNode fileName).isSome stat
  | _ => fun _ => False

/-- `DokanNtStatusFromWin32`, but `MirrorGetFileSecurity` returns the error as it is. -/
def DokanOperation.mapped (env : Env) : DokanOperation → DWORD → NTSTATUS
  | .getFileSecurity _ _ _ _ => id
  | _ => env.ntStatusFromWin32

namespace Script

/-- The `k`-th call, if it closes a handle, leaves the last error alone. -/
def Keeps (s : Script) (k : ℕ) : Event Call Answer → Prop
  | ⟨.win32 (.closeHandle _), r⟩ => r.succeeded = true ∧ s.keeps k = true
  | _ => True

/-- Every handle closed in the trace leaves the last error alone. -/
def ClosesKeep (s : Script) : ℕ → Trace → Prop
  | _, [] => True
  | k, e :: tr => s.Keeps k e ∧ s.ClosesKeep (k + 1) tr

/-- One of the calls in `D` was made, and no handle closed after it set the last error. -/
def Rereads (s : Script) (D : Event Call Answer → Prop) : ℕ → Trace → Prop
  | _, [] => False
  | k, e :: tr => D e ∧ s.ClosesKeep (k + 1) tr ∨ s.Rereads D (k + 1) tr

end Script

/-! ## The property -/

/-- What is seen of a callback: what it gives back, the node store, the counted writes and the
cache. -/
structure Seen where
  reply : Reply
  nodes : Nodes
  writeCounts : HANDLE → Option (BitVec 8)
  cache : Cache

def seen (x : Trace × Reply × Turn) : Seen where
  reply := x.2.1
  nodes := x.2.2.world.nodes
  writeCounts := x.2.2.world.writeCounts
  cache := x.2.2.world.cache

/-- Under the script, the callback comes to the same with debugging on as with debugging off,
whatever the printing does to the last error. -/
def PrintFree (s : Script) (env : Env) (w : World Unit) (info : DokanFileInfo) (q : DokanOperation) :
    Prop :=
  ∀ printed, (s.play env printed (q.program (env.debugging printed.on) info) w).map seen =
    (s.play env quiet (q.program (env.debugging false) info) w).map seen

/-! ## Two plays that come apart -/

section

variable {s : Script} {env : Env} {printed : Printing} {b : Bool} {α β : Type}
  {D : Event Call Answer → Prop} {F : DWORD → NTSTATUS}

theorem Script.not_rereads {tr : Trace} {k : ℕ} (h : ∀ e ∈ tr, ¬ D e) : ¬ s.Rereads D k tr := by
  induction tr generalizing k with
  | nil => exact id
  | cons e tr ih =>
      rintro (⟨hD, -⟩ | hrest)
      · exact h e List.mem_cons_self hD
      · exact ih (fun e he => h e (List.mem_cons_of_mem _ he)) hrest

/-- Calls that decide nothing are passed over. -/
theorem Script.rereads_append {tr tr' : Trace} {k : ℕ} (h : ∀ e ∈ tr, ¬ D e) :
    s.Rereads D k (tr ++ tr') ↔ s.Rereads D (k + tr.length) tr' := by
  induction tr generalizing k with
  | nil => exact Iff.rfl
  | cons e tr ih =>
      have hrest : s.Rereads D (k + 1) (tr ++ tr') ↔ s.Rereads D (k + 1 + tr.length) tr' :=
        ih fun e he => h e (List.mem_cons_of_mem _ he)
      have hcount : k + (e :: tr).length = k + 1 + tr.length := by
        rw [List.length_cons]
        omega
      rw [hcount, ← hrest]
      constructor
      · rintro (⟨hD, -⟩ | hrest)
        · exact absurd hD (h e List.mem_cons_self)
        · exact hrest
      · exact .inr

/-- The call may be one of those that decide. -/
def Call.mayDecide : Call → Bool
  | .win32 (.setFileDispositionInfo _ _) | .win32 (.setFilePointer _) | .win32 (.getFileSizeEx _)
  | .win32 (.getPrivateObjectSecurity _ _ _) | .win32 (.setPrivateObjectSecurity _ _ _) => true
  | _ => false

/-- `D` is about such calls. -/
def Deciding (D : Event Call Answer → Prop) : Prop := ∀ e, D e → e.call.mayDecide = true

theorem deciding_dispositionFails : Deciding DispositionFails := by
  intro e h
  unfold DispositionFails at h
  split at h
  · rfl
  · cases h

theorem deciding_fillFails : Deciding FillFails := by
  intro e h
  unfold FillFails at h
  split at h
  · rfl
  · rfl
  · cases h

theorem deciding_partsFail : Deciding PartsFail := by
  intro e h
  unfold PartsFail at h
  split at h
  · rfl
  · cases h

theorem deciding_mergeFails {found : Bool} {stat : NTSTATUS} : Deciding (MergeFails found stat) := by
  intro e h
  unfold MergeFails at h
  split at h
  · rfl
  · cases h

/-- The call changes the node store. -/
def Call.movesNodes : Call → Bool
  | .makeShared _ | .addFileNode _ | .rename _ _ | .deleteFileNode _ | .setDescriptor _ _ _ => true
  | _ => false

/-- One call is counted, and most leave the nodes alone. -/
theorem resolve_next {t u : Turn} {c : Call} {r : Answer c}
    (h : s.resolve env printed t c = some (r, u)) :
    ∃ w, u = t.next w ∧ (c.movesNodes = false → w.nodes = t.world.nodes) := by
  cases c with
  | makeShared _ | addFileNode _ | rename _ _ | deleteFileNode _ | setDescriptor _ _ _ =>
      cases h
      exact ⟨_, rfl, nofun⟩
  | printSD sd num =>
      cases sd with
      | none =>
          cases h
          exact ⟨_, rfl, fun _ => rfl⟩
      | some sd =>
          cases hfaults : printed.on && env.nullDacl sd with
          | true => cases (resolve_faults hfaults).symm.trans h
          | false =>
              cases (resolve_printSD hfaults).symm.trans h
              exact ⟨_, rfl, fun _ => rfl⟩
  | invalidParameter => cases h
  | _ =>
      cases h
      exact ⟨_, rfl, fun _ => rfl⟩

theorem resolve_calls {t u : Turn} {c : Call} {r : Answer c}
    (h : s.resolve env printed t c = some (r, u)) : u.calls = t.calls + 1 := by
  obtain ⟨w, rfl, -⟩ := resolve_next h
  rfl

theorem resolve_nodes {t u : Turn} {c : Call} {r : Answer c} (hc : c.movesNodes = false)
    (h : s.resolve env printed t c = some (r, u)) : u.world.nodes = t.world.nodes := by
  obtain ⟨w, rfl, hnodes⟩ := resolve_next h
  exact hnodes hc

/-- The first of the two plays. -/
def Script.Answers (s : Script) (env : Env) (printed : Printing) (t : Turn) (c : Call) (r : Answer c) (u : Turn) : Prop :=
  s.resolve env printed.hushed t c = some (r, u)

theorem sat_calls {p : Op α} {t : Turn} :
    Sat (s.Answers env printed) p t fun tr _ u => u.calls = t.calls + tr.length := by
  induction p generalizing t with
  | done a => exact sat_done.mpr rfl
  | call c k ih =>
      refine sat_call.mpr fun r t₁ hanswer => (ih r).mono fun tr _ u hu => ?_
      rw [hu, resolve_calls hanswer, List.length_cons]
      omega

/-- Printing changes what `p` comes to only behind one of the calls in `D`, and there the
status is what the printing left in the last error. -/
def Departs (s : Script) (env : Env) (printed : Printing) (D : Event Call Answer → Prop)
    (F : DWORD → NTSTATUS) (n : Nodes) (b : Bool) (p : Op α) (status : α → NTSTATUS) : Prop :=
  ∀ ⦃t t'⦄, t.Like b t' → t.world.nodes = n →
    Twins (s.resolve env printed.hushed) (s.resolve env printed) p p t t' fun tr a u a' u' =>
      u.Like true u' ∧ (¬ s.Rereads D t.calls tr → a' = a) ∧
        (s.Rereads D t.calls tr → ∃ k e, status a' = F (printed.leaves k e))

/-- The same, once such a call was made. -/
def Rests (s : Script) (env : Env) (printed : Printing) (F : DWORD → NTSTATUS) (b : Bool) (p : Op α)
    (status : α → NTSTATUS) : Prop :=
  ∀ ⦃t t'⦄, t.Like b t' →
    Twins (s.resolve env printed.hushed) (s.resolve env printed) p p t t' fun tr a u a' u' =>
      u.Like true u' ∧ (¬ s.ClosesKeep t.calls tr → a' = a) ∧
        (s.ClosesKeep t.calls tr → ∃ k e, status a' = F (printed.leaves k e))

variable {n : Nodes} {p : Op α} {status : α → NTSTATUS}

theorem Deciding.not (hD : Deciding D) {tr : Trace} (h : ∀ e ∈ tr, e.call.mayDecide = false) :
    ∀ e ∈ tr, ¬ D e :=
  fun e he hDe => Bool.false_ne_true ((h e he).symm.trans (hD e hDe))

theorem departs_of_alike (hD : Deciding D) (hp : Indifferent s env printed b p)
    (hcalls : OnlyCalls (·.mayDecide = false) p) : Departs s env printed D F n b p status := by
  intro t t' ht _
  have htrace := hcalls.sat (M := s.Answers env printed) (fun _ => ()) (fun _ _ _ _ _ _ => rfl) t
  refine ((hp ht).and_sat (fun _ _ _ _ h => h) htrace).mono fun tr a u a' u' ⟨⟨htr, _⟩, ha, _, hu, _⟩ => ?_
  exact ⟨hu.taint, fun _ => ha, fun h => absurd h (Script.not_rereads (hD.not htr))⟩

theorem departs_of_never (hD : ∀ e, ¬ D e) (hp : Indifferent s env printed b p) :
    Departs s env printed D F n b p status := by
  intro t t' ht _
  refine (hp ht).mono fun tr a u a' u' ⟨ha, _, hu, _⟩ => ?_
  exact ⟨hu.taint, fun _ => ha, fun h => absurd h (Script.not_rereads fun e _ => hD e)⟩

/-- Sequencing: the first part decides nothing and leaves the nodes alone. -/
theorem departs_bind {f : α → Op β} {P : Bool → α → Prop} {status : β → NTSTATUS} (hD : Deciding D)
    (hp : Alike s env printed b p P)
    (hcalls : OnlyCalls (fun c => c.mayDecide = false ∧ c.movesNodes = false) p)
    (hf : ∀ b' a, P b' a → Departs s env printed D F n b' (f a) status) :
    Departs s env printed D F n b (p >>= f) status := by
  intro t t' ht hn
  have htrace := hcalls.sat (M := s.Answers env printed) (fun t => t.world.nodes)
    (fun _ _ _ _ hc h => resolve_nodes hc.2 h) t
  have hboth : Sat (s.Answers env printed) p t fun tr _ u =>
      ((∀ e ∈ tr, e.call.mayDecide = false ∧ e.call.movesNodes = false) ∧
        u.world.nodes = t.world.nodes) ∧ u.calls = t.calls + tr.length :=
    fun tr a u h => ⟨htrace tr a u h, sat_calls tr a u h⟩
  refine twins_bind (((hp ht).and_sat (fun _ _ _ _ h => h) hboth).mono fun tr a u a' u' h => ?_)
  obtain ⟨⟨⟨htr, hnodes⟩, hcount⟩, ha, b', hu, hP⟩ := h
  rw [ha]
  refine (hf b' a hP hu (hnodes.trans hn)).mono fun tr' c v c' v' ⟨hv, hsame, hother⟩ => ?_
  have happend : s.Rereads D t.calls (tr ++ tr') ↔ s.Rereads D u.calls tr' := by
    rw [hcount]
    exact Script.rereads_append (hD.not fun e he => (htr e he).1)
  rw [happend]
  exact ⟨hv, hsame, hother⟩

theorem departs_assoc {γ : Type} {p : Op γ} {f : γ → Op α} {g : α → Op β} {status : β → NTSTATUS}
    (h : Departs s env printed D F n b (p >>= fun a => f a >>= g) status) :
    Departs s env printed D F n b ((p >>= f) >>= g) status := by
  show Departs s env printed D F n b ((p.bind f).bind g) status
  rw [Prog.bind_assoc]
  exact h

/-- A call that is answered, is not in `D`, and after which the program goes on in one way. -/
theorem departs_answered {b' : Bool} {c : Call} {f : Answer c → Op α} {r r' : Answer c} {t t' u u' : Turn}
    (hu : s.resolve env printed.hushed t c = some (r, u)) (hu' : s.resolve env printed t' c = some (r', u'))
    (hlike : u.Like b' u') (hnot : ¬ D ⟨c, r⟩) (hc : c.movesNodes = false) (hsame : f r' = f r)
    (hrest : Departs s env printed D F t.world.nodes b' (f r) status) :
    Twins (s.resolve env printed.hushed) (s.resolve env printed) (Prog.perform c >>= f) (Prog.perform c >>= f) t t'
      fun tr a u a' u' => u.Like true u' ∧ (¬ s.Rereads D t.calls tr → a' = a) ∧
        (s.Rereads D t.calls tr → ∃ k e, status a' = F (printed.leaves k e)) := by
  refine twins_perform hu hu' ?_
  rw [hsame]
  refine (hrest hlike (resolve_nodes hc hu)).mono fun tr a v a' v' ⟨hv, heq, hother⟩ => ?_
  have hiff : s.Rereads D t.calls (⟨c, r⟩ :: tr) ↔ s.Rereads D u.calls tr := by
    rw [resolve_calls hu]
    constructor
    · rintro (⟨h, -⟩ | h)
      · exact absurd h hnot
      · exact h
    · exact .inr
  rw [hiff]
  exact ⟨hv, heq, hother⟩

/-- One that is in `D`. -/
theorem departs_decided {b' : Bool} {c : Call} {f : Answer c → Op α} {r r' : Answer c} {t t' u u' : Turn}
    (hD : Deciding D) (hu : s.resolve env printed.hushed t c = some (r, u))
    (hu' : s.resolve env printed t' c = some (r', u')) (hlike : u.Like b' u') (hdecides : D ⟨c, r⟩)
    (hsame : f r' = f r) (honce : OnlyCalls (·.mayDecide = false) (f r))
    (hrest : Rests s env printed F b' (f r) status) :
    Twins (s.resolve env printed.hushed) (s.resolve env printed) (Prog.perform c >>= f) (Prog.perform c >>= f) t t'
      fun tr a u a' u' => u.Like true u' ∧ (¬ s.Rereads D t.calls tr → a' = a) ∧
        (s.Rereads D t.calls tr → ∃ k e, status a' = F (printed.leaves k e)) := by
  have htrace := honce.sat (M := s.Answers env printed) (fun _ => ()) (fun _ _ _ _ _ _ => rfl) u
  refine twins_perform hu hu' ?_
  rw [hsame]
  refine ((hrest hlike).and_sat (fun _ _ _ _ h => h) htrace).mono ?_
  intro tr a v a' v' ⟨⟨htr, _⟩, hv, heq, hother⟩
  have hiff : s.Rereads D t.calls (⟨c, r⟩ :: tr) ↔ s.ClosesKeep u.calls tr := by
    rw [resolve_calls hu]
    constructor
    · rintro (⟨-, h⟩ | h)
      · exact h
      · exact absurd h (Script.not_rereads (hD.not htr))
    · exact fun h => .inl ⟨hdecides, h⟩
  rw [hiff]
  exact ⟨hv, heq, hother⟩

/-- A look into the node store. -/
theorem departs_findFileNode {fname : WString} {f : Option Ptr → Op α} (hD : Deciding D)
    (hf : Departs s env printed D F n b (f (n.findFileNode fname)) status) :
    Departs s env printed D F n b (Prog.perform (Call.findFileNode fname) >>= f) status := by
  rintro t t' ⟨e, he, rfl⟩ rfl
  exact departs_answered rfl rfl ⟨e, he, rfl⟩ (fun h => Bool.false_ne_true (hD _ h)) rfl rfl hf

/-- A call of the platform that decides nothing. -/
theorem departs_win32_aside {c : Win32Call} {f : Outcome c.Value → Op α} (hD : Deciding D)
    (hc : (Call.win32 c).mayDecide = false) (hf : ∀ v e e', f (.ok v e) = f (.ok v e'))
    (hok : ∀ b' v e, Departs s env printed D F n b' (f (.ok v e)) status)
    (hfail : ∀ e, Departs s env printed D F n false (f (.fail e)) status) :
    Departs s env printed D F n b (win32 c >>= f) status := by
  rintro t t' ht rfl
  have hnot : ∀ r, ¬ D ⟨.win32 c, r⟩ := fun r h => Bool.false_ne_true (hc.symm.trans (hD _ h))
  cases houtcome : s.outcome t.calls c with
  | fail e =>
      obtain ⟨u, u', hu, hu', hlike⟩ := resolve_fail_like env printed ht houtcome
      exact departs_answered hu hu' hlike (hnot _) rfl rfl (hfail e)
  | ok v e =>
      obtain ⟨e₁, e₂, u, u', hu, hu', hlike⟩ := resolve_ok_like env printed ht houtcome
      exact departs_answered hu hu' hlike (hnot _) rfl (hf v e₂ e₁) (hok _ v e₁)

theorem departs_win32_any {c : Win32Call} {f : Outcome c.Value → Op α} (hD : Deciding D)
    (hc : (Call.win32 c).mayDecide = false) (hf : ∀ v e e', f (.ok v e) = f (.ok v e'))
    (hrest : ∀ b' r, Departs s env printed D F n b' (f r) status) :
    Departs s env printed D F n b (win32 c >>= f) status :=
  departs_win32_aside hD hc hf (fun b' v e => hrest b' (.ok v e)) fun e => hrest false (.fail e)

/-- A call of the platform whose failure is in `D`, and whose success is not. -/
theorem departs_win32 {c : Win32Call} {f : Outcome c.Value → Op α} (hD : Deciding D)
    (hf : ∀ v e e', f (.ok v e) = f (.ok v e')) (hok' : ∀ v e, ¬ D ⟨.win32 c, .ok v e⟩)
    (hok : ∀ b' v e, Departs s env printed D F n b' (f (.ok v e)) status)
    (hfail' : ∀ e, D ⟨.win32 c, .fail e⟩) (honce : ∀ e, OnlyCalls (·.mayDecide = false) (f (.fail e)))
    (hfail : ∀ e, Rests s env printed F false (f (.fail e)) status) :
    Departs s env printed D F n b (win32 c >>= f) status := by
  rintro t t' ht rfl
  cases houtcome : s.outcome t.calls c with
  | fail e =>
      obtain ⟨u, u', hu, hu', hlike⟩ := resolve_fail_like env printed ht houtcome
      exact departs_decided hD hu hu' hlike (hfail' e) rfl (honce e) (hfail e)
  | ok v e =>
      obtain ⟨e₁, e₂, u, u', hu, hu', hlike⟩ := resolve_ok_like env printed ht houtcome
      exact departs_answered hu hu' hlike (hok' v e₁) rfl (hf v e₂ e₁) (hok _ v e₁)

/-- A call of the platform that is in `D` however it comes out. -/
theorem departs_win32_both {c : Win32Call} {f : Outcome c.Value → Op α} (hD : Deciding D)
    (hf : ∀ v e e', f (.ok v e) = f (.ok v e')) (hdecides : ∀ r, D ⟨.win32 c, r⟩)
    (honce : ∀ r, OnlyCalls (·.mayDecide = false) (f r))
    (hrest : ∀ b' r, Rests s env printed F b' (f r) status) :
    Departs s env printed D F n b (win32 c >>= f) status := by
  rintro t t' ht -
  cases houtcome : s.outcome t.calls c with
  | fail e =>
      obtain ⟨u, u', hu, hu', hlike⟩ := resolve_fail_like env printed ht houtcome
      exact departs_decided hD hu hu' hlike (hdecides _) rfl (honce _) (hrest _ _)
  | ok v e =>
      obtain ⟨e₁, e₂, u, u', hu, hu', hlike⟩ := resolve_ok_like env printed ht houtcome
      exact departs_decided hD hu hu' hlike (hdecides _) (hf v e₂ e₁) (honce _) (hrest _ _)

/-- The error is read, printed, and read again. -/
theorem rests_reread {format : String} {args : DWORD → List PrintArg} {g : DWORD → α}
    (hg : ∀ e, status (g e) = F e) :
    Rests s env printed F b
      (getLastError >>= fun e => print format (args e) >>= fun _ => getLastError >>= fun e => pure (g e))
      status := by
  rintro t t' ⟨e, -, rfl⟩
  refine twins_perform rfl rfl (twins_perform rfl rfl (twins_perform rfl rfl (twins_pure ?_)))
  exact ⟨⟨_, nofun, rfl⟩, absurd ⟨trivial, trivial, trivial, trivial⟩, fun _ => ⟨_, _, hg _⟩⟩

/-- A line is printed, and the error read. -/
theorem rests_printed {format : String} {args : List PrintArg} {g : DWORD → α}
    (hg : ∀ e, status (g e) = F e) :
    Rests s env printed F b (print format args >>= fun _ => getLastError >>= fun e => pure (g e)) status := by
  rintro t t' ⟨e, -, rfl⟩
  refine twins_perform rfl rfl (twins_perform rfl rfl (twins_pure ?_))
  exact ⟨⟨_, nofun, rfl⟩, absurd ⟨trivial, trivial, trivial⟩, fun _ => ⟨_, _, hg _⟩⟩

/-- Between printing and reading again the handle is closed, if the file was opened for the
read. -/
theorem rests_reportReread {format : String} {args : DWORD → List PrintArg} {handle : HANDLE}
    {opened : Bool} {g : NTSTATUS → α} (hg : ∀ e, status (g e) = e) :
    Rests s env printed env.ntStatusFromWin32 b
      (reportReread env format args handle opened >>= fun e => pure (g e)) status := by
  rintro t t' ⟨e, -, rfl⟩
  refine twins_call rfl rfl (twins_call rfl rfl ?_)
  cases opened with
  | false =>
      refine twins_call rfl rfl (twins_pure ?_)
      exact ⟨⟨_, nofun, rfl⟩, absurd ⟨trivial, trivial, trivial, trivial⟩, fun _ => ⟨_, _, hg _⟩⟩
  | true =>
      cases houtcome : s.outcome (t.calls + 1 + 1) (.closeHandle handle) with
      | fail error =>
          refine twins_call (resolve_fail houtcome) (resolve_fail houtcome) ?_
          refine twins_call rfl rfl (twins_pure ?_)
          exact ⟨⟨_, nofun, rfl⟩, fun _ => rfl, fun h => absurd h.2.2.1.1 Bool.false_ne_true⟩
      | ok v error =>
          refine twins_call (resolve_ok houtcome) (resolve_ok houtcome) ?_
          refine twins_call rfl rfl (twins_pure ?_)
          cases hkeeps : s.keeps (t.calls + 1 + 1) with
          | false =>
              have hset : ∀ x, s.okError (t.calls + 1 + 1) (.closeHandle handle) v x error = error := by
                intro x
                exact if_neg fun h => Bool.false_ne_true (hkeeps.symm.trans h.1)
              refine ⟨⟨_, nofun, rfl⟩, fun _ => ?_, fun h => ?_⟩
              · exact congrArg (fun x => g (env.ntStatusFromWin32 x)) ((hset _).trans (hset _).symm)
              · exact absurd (hkeeps.symm.trans h.2.2.1.2) Bool.false_ne_true
          | true =>
              have hkept : ∀ x, s.okError (t.calls + 1 + 1) (.closeHandle handle) v x error = x := by
                intro x
                exact if_pos ⟨hkeeps, rfl⟩
              refine ⟨⟨_, nofun, rfl⟩, fun h => ?_, fun _ => ?_⟩
              · exact absurd ⟨trivial, trivial, ⟨rfl, hkeeps⟩, trivial, trivial⟩ h
              · exact ⟨_, _, (hg _).trans (congrArg env.ntStatusFromWin32 (hkept _))⟩

/-! ## The four callbacks -/

section

variable {fileName : WString} {info : DokanFileInfo}

theorem housekeeping_undecided : Housekeeping (·.mayDecide = false) where
  getLastError := rfl
  print _ _ := rfl
  closeHandle _ := rfl
  invalidParameter := rfl

theorem housekeeping_before : Housekeeping fun c => c.mayDecide = false ∧ c.movesNodes = false where
  getLastError := ⟨rfl, rfl⟩
  print _ _ := ⟨rfl, rfl⟩
  closeHandle _ := ⟨rfl, rfl⟩
  invalidParameter := ⟨rfl, rfl⟩

theorem departs_filePathOf_bind {g : Globals} {f : WString → Op α} (hD : Deciding D)
    (hf : ∀ b' path, Departs s env printed D F n b' (f path) status) :
    Departs s env printed D F n b (filePathOf g fileName >>= f) status :=
  departs_bind hD alike_filePathOf housekeeping_before.onlyCalls_filePathOf fun b' path _ => hf b' path

theorem departs_print_bind {format : String} {args : List PrintArg} {p : Op α} (hD : Deciding D)
    (hp : ∀ b', Departs s env printed D F n b' p status) :
    Departs s env printed D F n b (print format args >>= fun _ => p) status :=
  departs_bind hD alike_print housekeeping_before.onlyCalls_print fun b' _ _ => hp b'

theorem departs_pure {a : α} (hD : Deciding D) : Departs s env printed D F n b (pure a) status :=
  departs_of_alike hD (alike_pure trivial) trivial

theorem onlyCalls_reread {format : String} {args : DWORD → List PrintArg} {g : DWORD → α} :
    OnlyCalls (·.mayDecide = false) (getLastError >>= fun e => print format (args e) >>= fun _ =>
      getLastError >>= fun e => pure (g e)) :=
  OnlyCalls.bind (onlyCalls_perform.mpr rfl) fun _ => OnlyCalls.bind (onlyCalls_perform.mpr rfl) fun _ =>
    OnlyCalls.bind (onlyCalls_perform.mpr rfl) fun _ => trivial

/-- `MirrorDeleteFile`: the error of a refused request is read again behind the log line. -/
theorem departs_deleteFile :
    Departs s env printed DispositionFails env.ntStatusFromWin32 n b (mirrorDeleteFile env fileName info)
      id := by
  have hD := deciding_dispositionFails
  have hpass : ∀ b', Departs s env printed DispositionFails env.ntStatusFromWin32 n b' (passCheck fileName)
      id := fun b' =>
    departs_of_alike hD alike_passCheck (OnlyCalls.bind (onlyCalls_perform.mpr rfl) fun _ => trivial)
  refine departs_filePathOf_bind hD fun _ filePath => departs_print_bind hD fun _ => ?_
  refine departs_bind hD alike_getFileAttributes ?_ fun _ dwAttrib _ => ?_
  · exact Housekeeping.onlyCalls_getFileAttributes ⟨rfl, rfl⟩
  split
  · exact departs_pure hD
  split
  · refine departs_win32 hD (fun _ _ _ => rfl) (fun _ _ => id) (fun _ _ _ => hpass _) (fun _ => trivial) ?_
      fun _ => rests_reread fun _ => rfl
    exact fun _ => onlyCalls_reread
  · exact hpass _

/-- `MirrorGetFileSecurity`: the error goes out as it was read again. -/
theorem departs_deliverSecurity {parts bufferLength unset : DWORD} {current : SecurityDescriptor} {num : Int} :
    Departs s env printed PartsFail id n b (deliverSecurity parts bufferLength unset current num)
      GetFileSecurityResult.status := by
  have hD := deciding_partsFail
  refine departs_win32_any hD rfl (fun _ _ _ => rfl) fun _ size => ?_
  show Departs s env printed PartsFail id n _ (if size.toOption.getD unset > bufferLength then _ else _) _
  split
  · exact departs_pure hD
  · refine departs_win32 hD (fun _ _ _ => rfl) (fun _ _ => id) (fun _ sd _ => ?_) (fun _ => trivial)
      (fun _ => onlyCalls_reread) fun _ => rests_reread fun _ => rfl
    exact departs_of_alike hD (alike_call rfl fun _ => alike_pure trivial)
      (OnlyCalls.bind (onlyCalls_perform.mpr rfl) fun _ => trivial)

/-- A call of the program's own that decides nothing and leaves the nodes alone. -/
theorem departs_call {c : Call} {f : Answer c → Op α} (hD : Deciding D) (hc : c.plain = true)
    (hdecide : c.mayDecide = false) (hnodes : c.movesNodes = false)
    (hf : ∀ b' r, Departs s env printed D F n b' (f r) status) :
    Departs s env printed D F n b (Prog.perform c >>= f) status :=
  departs_bind hD (P := fun _ _ => True) (alike_call (f := pure) hc fun _ => alike_pure trivial)
    (onlyCalls_perform.mpr ⟨hdecide, hnodes⟩) fun b' r _ => hf b' r

theorem departs_getFileSecurity {parts bufferLength unset : DWORD} :
    Departs s env printed PartsFail id n b (mirrorGetFileSecurity env unset fileName parts bufferLength)
      GetFileSecurityResult.status := by
  have hD := deciding_partsFail
  refine departs_filePathOf_bind hD fun _ filePath => departs_print_bind hD fun _ => ?_
  refine departs_bind hD alike_checkFlags housekeeping_before.onlyCalls_checkFlags fun _ _ _ => ?_
  refine departs_findFileNode hD ?_
  cases n.findFileNode fileName with
  | some p =>
      refine departs_call hD rfl rfl rfl fun _ current => ?_
      exact departs_call hD rfl rfl rfl fun _ _ => departs_deliverSecurity
  | none => exact departs_call hD rfl rfl rfl fun _ current => departs_deliverSecurity

/-- `MirrorSetFileSecurity`, without a node: the error of the merge is read behind the log line. -/
theorem departs_setNew {stat : NTSTATUS} {stray : CodeUnits} {parts : DWORD} {sd : SecurityDescriptor} :
    Departs s env printed (MergeFails false stat) env.ntStatusFromWin32 n b
      (setNew env stat stray fileName parts sd info) id := by
  have hD : Deciding (MergeFails false stat) := deciding_mergeFails
  refine departs_call hD rfl rfl rfl fun _ current => departs_call hD rfl rfl rfl fun _ _ => ?_
  refine departs_win32 hD (fun _ _ _ => rfl) (fun _ _ h => ?_) (fun _ merged _ => ?_) (fun _ => rfl)
    (fun _ => ?_) fun _ => rests_printed fun _ => rfl
  · exact Bool.noConfusion (show true = false from h)
  · refine departs_of_alike hD ?_ ?_
    · refine alike_call rfl fun _ => alike_call rfl fun _ => alike_call rfl fun _ => ?_
      exact alike_call rfl fun _ => alike_call rfl fun _ => alike_pure trivial
    · exact ⟨rfl, fun _ => ⟨rfl, fun _ => ⟨rfl, fun _ => ⟨rfl, fun _ => ⟨rfl, fun _ => trivial⟩⟩⟩⟩⟩
  · exact ⟨rfl, fun _ => ⟨rfl, fun _ => trivial⟩⟩

/-- With a node: what is returned is decided by the variable, after the merge was printed. -/
theorem departs_setExisting {stat : NTSTATUS} {stray : CodeUnits} {parts : DWORD}
    {sd : SecurityDescriptor} {p : Ptr} :
    Departs s env printed (MergeFails true stat) env.ntStatusFromWin32 n b
      (setExisting env stat stray parts sd p) id := by
  have hD : Deciding (MergeFails true stat) := deciding_mergeFails
  by_cases hstat : stat = ERROR_SUCCESS
  · refine departs_of_never ?_ ?_
    · intro e h
      unfold MergeFails at h
      split at h
      · exact h hstat
      · exact h
    · refine alike_call rfl fun _ => alike_call rfl fun current => ?_
      refine alike_win32_any (fun _ _ _ => rfl) fun _ r => alike_call rfl fun _ => ?_
      rw [if_neg (not_not.mpr hstat)]
      exact alike_call rfl fun _ => alike_call rfl fun _ => alike_pure trivial
  · refine departs_call hD rfl rfl rfl fun _ _ => departs_call hD rfl rfl rfl fun _ current => ?_
    refine departs_win32_both hD (fun _ _ _ => rfl) (fun _ => hstat) (fun r => ⟨rfl, fun _ => ?_⟩) ?_
    · show OnlyCalls _ (if stat ≠ ERROR_SUCCESS then _ else _)
      rw [if_pos hstat]
      exact ⟨rfl, fun _ => ⟨rfl, fun _ => trivial⟩⟩
    · rintro b' r t t' ⟨e, -, rfl⟩
      cases hfaults : printed.on && env.nullDacl sd with
      | true => exact twins_refused (resolve_faults hfaults) (resolve_faults hfaults)
      | false =>
          refine twins_perform (resolve_printSD hfaults) (resolve_printSD hfaults) ?_
          rw [if_pos hstat]
          refine twins_perform rfl rfl (twins_perform rfl rfl (twins_pure ?_))
          exact ⟨⟨_, nofun, rfl⟩, absurd ⟨trivial, trivial, trivial, trivial⟩, fun _ => ⟨_, _, rfl⟩⟩

theorem departs_setFileSecurity {stat : NTSTATUS} {stray : CodeUnits} {parts : DWORD}
    {sd : SecurityDescriptor} :
    Departs s env printed (MergeFails (n.findFileNode fileName).isSome stat) env.ntStatusFromWin32 n b
      (mirrorSetFileSecurity env stat stray fileName parts sd info) id := by
  have hD : Deciding (MergeFails (n.findFileNode fileName).isSome stat) := deciding_mergeFails
  refine departs_filePathOf_bind hD fun _ filePath => departs_print_bind hD fun _ => ?_
  split
  · exact departs_print_bind hD fun _ => departs_pure hD
  refine departs_bind hD alike_checkFlags housekeeping_before.onlyCalls_checkFlags fun _ _ _ => ?_
  refine departs_findFileNode hD ?_
  cases n.findFileNode fileName with
  | some p => exact departs_setExisting
  | none => exact departs_setNew

/-- The filling of the cache, with what follows an early exit and what follows none. -/
theorem departs_fillCache {k : Option NTSTATUS → Op α} {g : NTSTATUS → α} {handle : HANDLE} {opened : Bool}
    {bufferLength readLength : DWORD} (hsome : ∀ e, k (some e) = pure (g e)) (hg : ∀ e, status (g e) = e)
    (hnone : ∀ b', Departs s env printed FillFails env.ntStatusFromWin32 n b' (k none) status) :
    Departs s env printed FillFails env.ntStatusFromWin32 n b
      (fillCache env handle opened bufferLength readLength >>= k) status := by
  have hD := deciding_fillFails
  have hexit : ∀ p : Op NTSTATUS, ((p >>= fun e => pure (some e)) >>= k) = p >>= fun e => pure (g e) := by
    intro p
    show (p.bind _).bind k = _
    rw [Prog.bind_assoc]
    exact congrArg p.bind (funext hsome)
  have honce : ∀ {format args}, OnlyCalls (·.mayDecide = false)
      ((reportReread env format args handle opened >>= fun e => pure (some e)) >>= k) := by
    intro format args
    rw [hexit]
    exact OnlyCalls.bind housekeeping_undecided.onlyCalls_reportReread fun _ => trivial
  have hrests : ∀ {format args}, Rests s env printed env.ntStatusFromWin32 false
      ((reportReread env format args handle opened >>= fun e => pure (some e)) >>= k) status := by
    intro format args
    rw [hexit]
    exact rests_reportReread hg
  refine departs_assoc (departs_win32 hD (fun _ _ _ => rfl) (fun _ _ => id) (fun _ _ _ => ?_)
    (fun _ => trivial) (fun _ => honce) fun _ => hrests)
  refine departs_assoc (departs_win32 hD (fun _ _ _ => rfl) (fun _ _ => id) (fun _ fileSize _ => ?_)
    (fun _ => trivial) (fun _ => honce) fun _ => hrests)
  refine departs_assoc (departs_call hD rfl rfl rfl fun _ _ => ?_)
  refine departs_assoc (departs_win32_aside hD rfl (fun _ _ _ => rfl) (fun _ bytes _ => ?_) fun _ => ?_)
  · exact departs_assoc (departs_call hD rfl rfl rfl fun _ _ => hnone _)
  · show Departs _ _ _ _ _ _ _ ((_ >>= fun e => pure (some e)) >>= k) _
    rw [hexit]
    exact departs_bind hD alike_reportError housekeeping_before.onlyCalls_reportError
      fun _ _ _ => departs_pure hD

theorem departs_readThrough {filePath : WString} {bufferLength : DWORD} {offset : BitVec 64} :
    Departs s env printed FillFails env.ntStatusFromWin32 n b
      (readThrough env fileName filePath bufferLength offset info) ReadFileResult.status := by
  have hD := deciding_fillFails
  refine departs_bind hD (alike_reopen (fun _ => alike_pure trivial) fun _ => alike_pure trivial) ?_
    fun _ file _ => ?_
  · exact housekeeping_before.onlyCalls_reopen trivial trivial fun _ => ⟨rfl, rfl⟩
  cases file with
  | error status => exact departs_pure hD
  | ok file =>
      refine departs_win32_aside hD rfl (fun _ _ _ => rfl) (fun _ bytes _ => ?_) fun _ => ?_
      · have hdone : ∀ b', Departs s env printed FillFails env.ntStatusFromWin32 n b'
            (closeOpened file.1 file.2 >>= fun _ => pure
              { status := STATUS_SUCCESS
                buffer := bytes
                readLength := some (BitVec.ofNat 32 bytes.length) })
            ReadFileResult.status := fun _ =>
          departs_bind hD alike_closeOpened housekeeping_before.onlyCalls_closeOpened fun _ _ _ =>
            departs_pure hD
        refine departs_call hD rfl rfl rfl fun _ cache => ?_
        dsimp only
        split
        · exact departs_fillCache (fun _ => rfl) (fun _ => rfl) hdone
        · exact hdone _
      · exact departs_bind hD alike_reportError housekeeping_before.onlyCalls_reportError
          fun _ _ _ => departs_pure hD

/-- `MirrorReadFile`: while the cache is filled, an error is read again behind the log line. -/
theorem departs_readFile {bufferLength : DWORD} {offset : BitVec 64} :
    Departs s env printed FillFails env.ntStatusFromWin32 n b
      (mirrorReadFile env fileName bufferLength offset info) ReadFileResult.status := by
  have hD := deciding_fillFails
  have hcached : ∀ b' count, Departs s env printed FillFails env.ntStatusFromWin32 n b'
      (readCached offset count) ReadFileResult.status := fun _ _ =>
    departs_call hD rfl rfl rfl fun _ _ => departs_pure hD
  rw [mirrorReadFile_eq]
  refine departs_filePathOf_bind hD fun _ filePath => departs_call hD rfl rfl rfl fun _ cache => ?_
  cases cachedCount fileName bufferLength offset cache with
  | some count => exact hcached _ count
  | none => exact departs_readThrough

end

/-! ## Every callback -/

/-- The status, if there is one. -/
def Reply.code (r : Reply) : NTSTATUS := r.status.getD STATUS_SUCCESS

theorem departs_replying {info : DokanFileInfo} (hp : Departs s env printed D F n b p status) :
    Departs s env printed D F n b (replying status info p) Reply.code := by
  intro t t' ht hn
  refine twins_bind ((hp ht hn).mono fun tr a u a' u' ⟨hu, hsame, hother⟩ => twins_pure ?_)
  rw [List.append_nil]
  refine ⟨hu, fun h => ?_, hother⟩
  rw [hsame h]

theorem departs_program {info : DokanFileInfo} {q : DokanOperation} :
    Departs s env printed (q.decides n) (q.mapped env) n b (q.program env info) Reply.code := by
  have hnever : ∀ {α : Type} {p : Op α} {f : α → Reply}, Indifferent s env printed b p →
      Departs s env printed (fun _ => False) env.ntStatusFromWin32 n b (p >>= fun r => pure (f r))
        Reply.code := fun hp =>
    departs_of_never (fun _ => id) (alike_seq hp fun _ _ => alike_pure trivial)
  cases q with
  | readFile fileName bufferLength offset => exact departs_replying departs_readFile
  | deleteFile fileName => exact departs_replying departs_deleteFile
  | getFileSecurity fileName parts bufferLength unset => exact departs_replying departs_getFileSecurity
  | setFileSecurity fileName stat stray parts sd => exact departs_replying departs_setFileSecurity
  | zwCreateFile q => exact hnever alike_createFileOperation
  | cleanup fileName => exact hnever alike_cleanup
  | closeFile fileName => exact hnever alike_closeFile
  | writeFile fileName buffer numberOfBytesToWrite offset => exact hnever alike_writeFile
  | flushFileBuffers fileName => exact hnever alike_flushFileBuffers
  | getFileInformation fileName information => exact hnever alike_getFileInformation
  | findFiles fileName => exact hnever alike_findFiles
  | setFileAttributes fileName fileAttributes => exact hnever alike_setFileAttributes
  | setFileTime fileName creationTime lastAccessTime lastWriteTime => exact hnever alike_setFileTime
  | deleteDirectory fileName => exact hnever alike_deleteDirectory
  | moveFile fileName newFileName replaceIfExisting => exact hnever alike_moveFile
  | setEndOfFile fileName byteOffset => exact hnever alike_setEndOfFile
  | setAllocationSize fileName allocSize => exact hnever alike_setAllocationSize
  | lockFile fileName byteOffset length => exact hnever alike_lockFile
  | unlockFile fileName byteOffset length => exact hnever alike_unlockFile
  | getDiskFreeSpace => exact hnever alike_dokanGetDiskFreeSpace
  | getVolumeInformation q => exact hnever alike_getVolumeInformation
  | unmounted => exact hnever alike_unmounted
  | findStreams fileName accepts => exact hnever alike_findStreams
  | mounted => exact hnever alike_mounted

end

/-! ## Exactly when printing has no influence -/

section

variable {s : Script} {env : Env} {w : World Unit} {info : DokanFileInfo} {q : DokanOperation}

variable (s env w info q) in
/-- The two plays of a callback from one world, the printing leaving the last error alone in the
first. -/
theorem plays (printed : Printing) :
    Twins (s.resolve env printed.hushed) (s.resolve env printed) (q.program env info)
      (q.program env info) { world := w } { world := w } fun tr r u r' u' =>
        u.Like true u' ∧ (¬ s.Rereads (q.decides w.nodes) 0 tr → r' = r) ∧
          (s.Rereads (q.decides w.nodes) 0 tr → ∃ k e, r'.code = q.mapped env (printed.leaves k e)) := by
  have hdeparts : Departs s env printed (q.decides w.nodes) (q.mapped env) w.nodes true
      (q.program env info) Reply.code := departs_program
  have hlike : Turn.Like true { world := w } { world := w } := .refl
  exact hdeparts hlike rfl

theorem seen_eq {x y : Trace × Reply × Turn} (hlike : x.2.2.Like true y.2.2) (hreply : y.2.1 = x.2.1) :
    seen y = seen x := by
  obtain ⟨tr, r, u⟩ := x
  obtain ⟨tr', r', u'⟩ := y
  obtain ⟨e, -, hu'⟩ := hlike
  have hr : r' = r := hreply
  have hturn : u' = { u with world := u.leave e } := hu'
  rw [hr, hturn]
  rfl

/-- Success and failure are told apart by the status. -/
theorem mapped_ne : q.mapped env 0 ≠ q.mapped env 1 := by
  have hmap : env.ntStatusFromWin32 0 ≠ env.ntStatusFromWin32 1 := fun h =>
    env.ntStatus_error 1 (by decide) (h.symm.trans env.ntStatus_success)
  cases q with
  | getFileSecurity _ _ _ _ => exact fun h => absurd (show (0 : DWORD) = 1 from h) (by decide)
  | _ => exact hmap

/-- Debugging is on, and the printing leaves this. -/
def Printing.loud (leaves : ℕ → DWORD → DWORD) : Printing := ⟨true, leaves, nofun⟩

/-- A callback that always comes to the same prints nothing that cannot be printed. -/
theorem fine_of_printFree {tr : Trace} {r : Reply} {u : Turn} (hfree : PrintFree s env w info q)
    (hplay : s.play env quiet (q.program env info) w = some (tr, r, u)) :
    ∀ e ∈ tr, e.call.faults env = false := by
  have hsame := hfree (.loud fun _ e => e)
  rw [DokanOperation.program_debugging, DokanOperation.program_debugging, hplay] at hsame
  have hloud : s.play env (.loud fun _ e => e) (q.program env info) w =
      (some (tr, r, u)).filter fun x => x.1.all fun e => !e.call.faults env := by
    rw [← hplay]
    exact play_hushed (.loud fun _ e => e)
  cases hall : tr.all fun e => !e.call.faults env with
  | true =>
      intro e he
      exact Bool.not_eq_true' _ |>.mp (List.all_eq_true.mp hall e he)
  | false =>
      rw [hloud.trans (Option.filter_some_neg hall)] at hsame
      cases hsame

/-- **Printing has no influence** on what a callback comes to exactly while no status is the last
error read again behind a log line (after a failed request in `MirrorDeleteFile`, a failed
rewinding or sizing in `MirrorReadFile`, failed parts in `MirrorGetFileSecurity`, and the merge in
`MirrorSetFileSecurity`), and no descriptor is to be printed whose DACL is `NULL`. -/
theorem printFree_iff :
    PrintFree s env w info q ↔
      ∀ tr r u, s.play env quiet (q.program (env.debugging false) info) w = some (tr, r, u) →
        ¬ s.Rereads (q.decides w.nodes) 0 tr ∧ ∀ e ∈ tr, e.call.faults env = false := by
  rw [DokanOperation.program_debugging]
  constructor
  · intro hfree tr r u hplay
    have hfine := fine_of_printFree hfree hplay
    refine ⟨fun hrereads => ?_, hfine⟩
    have hcode : ∀ c : DWORD, r.code = q.mapped env c := by
      intro c
      obtain ⟨y, hloud, -, -, hother⟩ :=
        (plays s env w info q (.loud fun _ _ => c)).returns (play_hushed_of_fine hplay hfine)
      obtain ⟨k, e, hk⟩ := hother hrereads
      have hsame : some (seen y) = some (seen (tr, r, u)) := by
        have hfree := hfree (.loud fun _ _ => c)
        rw [DokanOperation.program_debugging, DokanOperation.program_debugging, hplay] at hfree
        unfold Script.play at hfree
        rwa [hloud] at hfree
      have hreply : y.2.1 = r := congrArg Seen.reply (Option.some.inj hsame)
      rw [← hreply, hk]
      rfl
    exact mapped_ne ((hcode 0).symm.trans (hcode 1))
  · intro hwhen printed
    rw [DokanOperation.program_debugging, DokanOperation.program_debugging]
    have hplays := plays s env w info q printed
    cases hquiet : s.play env quiet (q.program env info) w with
    | none =>
        have hhushed : s.play env printed.hushed (q.program env info) w = none := by
          rw [play_hushed, hquiet, Option.filter_none]
        exact congrArg (Option.map seen) (hplays.refused hhushed)
    | some x =>
        obtain ⟨hnever, hfine⟩ := hwhen x.1 x.2.1 x.2.2 hquiet
        obtain ⟨y, hloud, hlike, hsame, -⟩ := hplays.returns (play_hushed_of_fine hquiet hfine)
        have hloud : s.play env printed (q.program env info) w = some y := hloud
        rw [hloud]
        exact congrArg some (seen_eq hlike (hsame hnever))

end

/-- A platform that refuses everything. -/
def refusing : Script where
  outcome _ _ := .fail ⟨5, by decide⟩
  keeps _ := true
  left _ e := e
  memory _ _ := 0

/-- A file is to be deleted, and the platform refuses.  With debugging off the status says so;
with debugging on it is success, if the printing leaves no error. -/
theorem not_printFree :
    ¬ PrintFree refusing (Env.plain false) (World.start Nodes.none) { context := 8, deleteOnClose := true }
      (.deleteFile (wide ['\\', 'a'])) := by
  intro h
  have hstatus := congrArg (Option.map fun x => x.reply.status) (h (.loud fun _ _ => 0))
  exact absurd hstatus (by decide)

end SeamlessSmb
