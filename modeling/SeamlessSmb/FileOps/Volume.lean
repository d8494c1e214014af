/-
# `FileOps.Volume` — listings, and what the volume looks like

The callbacks that list: the entries of a directory (`MirrorFindFiles`) and the streams of a
file (`MirrorFindStreams`).  Both hand what they find to the driver one by one, and look at
the error that ended the listing afterwards.

And the callbacks that have no file: the free space, the features of the volume, and the two
notices of a mount.  A volume that once refused to be asked for its features is not asked
again.

**Proved here:** the root shows no entry for itself (`findFiles_root`); the volume always
answers, and is asked only while it is not known to refuse (`getVolumeInformation_cache`,
`getVolumeInformation_asks`).
-/
import SeamlessSmb.FileOps.Attributes
import SeamlessSmb.FileOps.Delete

namespace SeamlessSmb

open Calls

/-! ## Listings -/

/-- The status of a listing, and what was handed to the driver. -/
structure ListingResult where
  status : NTSTATUS
  entries : List WString := []

/-- `MirrorFindFiles`. -/
def mirrorFindFiles (env : Env) (fileName : WString) : Op ListingResult := do
  let filePath ← filePathOf env.globals fileName
  print "FindFiles : %s\n" [.str filePath]
  if (withBackslash filePath).length + 1 ≥ DOKAN_MAX_PATH then
    pure { status := STATUS_BUFFER_OVERFLOW }
  else do
    let pattern := withBackslash filePath ++ wide ['*']
    let r ← win32 (.findFirstFile pattern)
    match r with
    | .fail _ => do
        let status ← reportStatus env "\tinvalid file handle. Error is %u\n\n"
        pure { status := status }
    | .ok listing _ => do
        let found := listing.first :: listing.rest
        -- the root has no entries for itself and for what is above it
        let entries := if fileName = [backslash] then found.filter fun s => decide (RealEntry s) else found
        let _ ← win32 .findClose
        if listing.final.1 ≠ ERROR_NO_MORE_FILES then do
          print "\tFindNextFile error. Error is %u\n\n" [.num listing.final.1]
          pure { status := env.ntStatusFromWin32 listing.final.1, entries := entries }
        else do
          print "\tFindFiles return %d entries in %s\n\n"
            [.num (BitVec.ofNat 32 found.length), .str pattern]
          pure { status := STATUS_SUCCESS, entries := entries }

/-- `MirrorFindStreams`.  The driver takes its `n`-th stream if `accepts n`; the first one it
refuses ends the listing. -/
def mirrorFindStreams (env : Env) (fileName : WString) (accepts : Nat → Bool) : Op ListingResult := do
  let filePath ← filePathOf env.globals fileName
  print "FindStreams :%s\n" [.str filePath]
  let r ← win32 (.findFirstStream filePath)
  match r with
  | .fail _ => do
      let status ← reportStatus env "\tinvalid file handle. Error is %u\n\n"
      pure { status := status }
  | .ok listing _ => do
      let found := listing.first :: listing.rest
      let taken := (found.zipIdx.takeWhile fun s => accepts s.2).map Prod.fst
      let count := BitVec.ofNat 32 taken.length
      let _ ← win32 .findClose
      if taken.length < found.length then do
        print "\tFindStreams returned %d entries in %s with STATUS_BUFFER_OVERFLOW\n\n"
          [.num count, .str filePath]
        pure { status := STATUS_BUFFER_OVERFLOW, entries := taken }
      else if listing.final.1 ≠ ERROR_HANDLE_EOF then do
        print "\tFindNextStreamW error. Error is %u\n\n" [.num listing.final.1]
        pure { status := env.ntStatusFromWin32 listing.final.1, entries := taken }
      else do
        print "\tFindStreams return %d entries in %s\n\n" [.num count, .str filePath]
        pure { status := STATUS_SUCCESS, entries := taken }

/-! ## The volume -/

/-- The root as `GetDiskFreeSpaceEx` is given it: a drive by its letter alone. -/
def rootPathName (g : Globals) : WString :=
  match g.rootDirectory with
  | [] => []
  | c :: cs => if c = backslash then c :: cs else c :: wide [':']

/-- The root as `GetVolumeInformation` is given it. -/
def volumeRoot (g : Globals) : WString :=
  match g.rootDirectory with
  | [] => []
  | c :: _ => c :: wide [':', '\\']

structure DiskFreeSpaceResult where
  status : NTSTATUS
  space : Option DiskFreeSpace := none

/-- `MirrorDokanGetDiskFreeSpace`. -/
def mirrorDokanGetDiskFreeSpace (env : Env) : Op DiskFreeSpaceResult := do
  let r ← win32 (.getDiskFreeSpaceEx (rootPathName env.globals))
  match r with
  | .fail _ => do
      let error ← getLastError
      print "GetDiskFreeSpaceEx failed for path %ws" [.str (rootPathName env.globals)]
      pure { status := env.ntStatusFromWin32 error }
  | .ok space _ => pure { status := STATUS_SUCCESS, space := some space }

/-- What `MirrorGetVolumeInformation` is given to write to.  A buffer is given by its size,
and a pointer that is `NULL` is `none` or false. -/
structure VolumeRequest where
  volumeNameSize : Option DWORD
  volumeSerialNumber : Bool
  maximumComponentLength : Bool
  fileSystemFlags : Bool
  fileSystemNameSize : Option DWORD

/-- What it has written there. -/
structure VolumeInformation where
  status : NTSTATUS
  volumeName : WString
  volumeSerialNumber : Option DWORD
  maximumComponentLength : Option DWORD
  fileSystemFlags : Option DWORD
  fileSystemName : Option WString

/-- `wcscpy_s` into a buffer of the caller. -/
def copyInto (size : Option DWORD) (src : WString) : Op WString :=
  match wcscpyS (size.getD 0).toNat src with
  | some dest => pure dest
  | none => .call .invalidParameter Empty.elim

/-- The features the mount claims. -/
def claimedFlags (g : Globals) : DWORD :=
  if g.caseSensitive = true then FILE_CASE_SENSITIVE_SEARCH ||| FILE_CASE_PRESERVED_NAMES
  else FILE_SUPPORTS_REMOTE_STORAGE ||| FILE_UNICODE_ON_DISK ||| FILE_PERSISTENT_ACLS |||
    FILE_NAMED_STREAMS

/-- The question to the volume, unless it is known to refuse. -/
def queryVolume (env : Env) : Op (Option VolumeFeatures) := do
  let cache ← Prog.perform Call.readCache
  if Cache.getVolumeInformationNotAvailable cache = true then pure none
  else do
    let r ← win32 (.getVolumeInformation (volumeRoot env.globals))
    pure r.toOption

/-- The branch for a volume that does not answer. -/
def noteRefusal : Op Unit := do
  let cache ← Prog.perform Call.readCache
  Prog.onlyIf (Cache.getVolumeInformationNotAvailable cache = false) do
    let error ← getLastError
    print "GetVolumeInformation: unable to query underlying fs, using defaults.  Last error = %u\n"
      [.num error]
    Prog.perform Call.setNotAvailable

/-- `value` through a pointer that may be `NULL`. -/
def throughPointer {α : Type} (given : Bool) (value : α) : Option α :=
  if given then some value else none

/-- `MirrorGetVolumeInformation`. -/
def mirrorGetVolumeInformation (env : Env) (q : VolumeRequest) : Op VolumeInformation := do
  let volumeName ← copyInto q.volumeNameSize env.globals.volname
  let written : VolumeInformation :=
    { status := STATUS_SUCCESS
      volumeName := volumeName
      volumeSerialNumber := throughPointer q.volumeSerialNumber 0x19831116
      maximumComponentLength := throughPointer q.maximumComponentLength 255
      fileSystemFlags := throughPointer q.fileSystemFlags (claimedFlags env.globals)
      fileSystemName := none }
  let features ← queryVolume env
  match features with
  | some features => do
      let flags := claimedFlags env.globals &&& features.fileSystemFlags
      Prog.onlyIf (q.maximumComponentLength = true)
        (print "GetVolumeInformation: max component length %u\n" [.num features.maximumComponentLength])
      Prog.onlyIf (q.fileSystemNameSize.isSome = true)
        (print "GetVolumeInformation: file system name %s\n" [.str features.fileSystemName])
      Prog.onlyIf (q.fileSystemFlags = true)
        (print "GetVolumeInformation: got file system flags 0x%08x, returning 0x%08x\n"
          [.num features.fileSystemFlags, .num flags])
      pure
        { written with
          maximumComponentLength := throughPointer q.maximumComponentLength features.maximumComponentLength
          fileSystemFlags := throughPointer q.fileSystemFlags flags
          fileSystemName := throughPointer q.fileSystemNameSize.isSome features.fileSystemName }
  | none => do
      noteRefusal
      let name ← copyInto q.fileSystemNameSize (wide ['N', 'T', 'F', 'S'])
      pure { written with fileSystemName := some name }

/-! ## Notices -/

/-- `MirrorMounted`. -/
def mirrorMounted : Op NTSTATUS := do
  print "Mounted\n"
  pure STATUS_SUCCESS

/-- `MirrorUnmounted`. -/
def mirrorUnmounted : Op NTSTATUS := do
  print "Unmounted\n"
  pure STATUS_SUCCESS

/-! ## What they leave -/

section

variable {O : Type} {env : Env} {os : O → (c : Win32Call) → Outcome c.Value → O → Prop} {w : World O}

/-- The root shows no entry for itself, and none for what is above it. -/
theorem findFiles_root :
    Sat (step env os) (mirrorFindFiles env [backslash]) w fun _ r _ => ∀ s ∈ r.entries, RealEntry s := by
  refine sat_filePathOf_bind fun filePath _ => ?_
  refine sat_perform_bind.mpr fun _ w₁ _ => ?_
  split
  · exact sat_pure.mpr fun s hs => absurd hs List.not_mem_nil
  · refine sat_perform_bind.mpr fun r w₂ _ => ?_
    cases r with
    | fail e =>
        refine sat_bind.mpr fun tr status w₃ _ => ?_
        exact sat_pure.mpr fun s hs => absurd hs List.not_mem_nil
    | ok listing e =>
        refine sat_perform_bind.mpr fun _ w₃ _ => ?_
        have hreal : ∀ s ∈ (listing.first :: listing.rest).filter fun s => decide (RealEntry s),
            RealEntry s := fun s hs => of_decide_eq_true (List.mem_filter.mp hs).2
        split
        · exact sat_perform_bind.mpr fun _ w₄ _ => sat_pure.mpr hreal
        · exact sat_perform_bind.mpr fun _ w₄ _ => sat_pure.mpr hreal

theorem sat_copyInto {size : Option DWORD} {src : WString} :
    Sat (step env os) (copyInto size src) w fun tr _ w' => tr = [] ∧ w' = w := by
  unfold copyInto
  cases wcscpyS (size.getD 0).toNat src with
  | some dest => exact sat_pure.mpr ⟨rfl, rfl⟩
  | none => exact sat_call.mpr fun r => r.elim

/-- The calls of a trace that asks the platform nothing. -/
def AsksNothing (tr : Trace) : Prop := ∀ e ∈ tr, ∀ c, e.call ≠ .win32 c

theorem sat_queryVolume :
    Sat (step env os) (queryVolume env) w fun tr features w' =>
      w'.nodes = w.nodes ∧ w'.cache = w.cache ∧
        (w.cache.getVolumeInformationNotAvailable = true → features = none ∧ AsksNothing tr) := by
  refine sat_perform_bind.mpr fun cache w₁ ⟨hcache, h₁⟩ => ?_
  subst hcache h₁
  split
  · next hset =>
      refine sat_pure.mpr ⟨rfl, rfl, fun _ => ⟨rfl, fun e he c => ?_⟩⟩
      rw [List.mem_singleton.mp he]
      exact Call.noConfusion
  · next hunset =>
      refine sat_perform_bind.mpr fun r w₂ ⟨_, _, _, h₂⟩ => sat_pure.mpr ?_
      rw [h₂]
      exact ⟨rfl, rfl, fun hset => absurd hset hunset⟩

/-- The refusal of a volume is noted once. -/
theorem sat_noteRefusal :
    Sat (step env os) noteRefusal w fun tr _ w' =>
      AsksNothing tr ∧ w'.nodes = w.nodes ∧
        w'.cache = { w.cache with getVolumeInformationNotAvailable := true } := by
  refine sat_perform_bind.mpr fun cache w₁ ⟨hcache, h₁⟩ => ?_
  subst hcache h₁
  unfold Prog.onlyIf
  split
  · refine sat_perform_bind.mpr fun error w₂ ⟨_, h₂⟩ => ?_
    refine sat_perform_bind.mpr fun _ w₃ ⟨_, _, h₃⟩ => ?_
    refine sat_perform.mpr fun _ w₄ h₄ => ?_
    rw [h₄, h₃, h₂]
    refine ⟨fun e he c => ?_, rfl, rfl⟩
    simp only [List.mem_cons, List.not_mem_nil, or_false] at he
    rcases he with rfl | rfl | rfl | rfl
    all_goals exact Call.noConfusion
  · next hset =>
      refine sat_done.mpr ⟨fun e he c => ?_, rfl, ?_⟩
      · rw [List.mem_singleton.mp he]
        exact Call.noConfusion
      · rw [← eq_true_of_ne_false hset]

/-- The volume always answers.  What is kept of it is that it refused. -/
theorem getVolumeInformation_cache {q : VolumeRequest} :
    Sat (step env os) (mirrorGetVolumeInformation env q) w fun _ r w' =>
      r.status = STATUS_SUCCESS ∧ w'.nodes = w.nodes ∧
        (w'.cache = w.cache ∨ w'.cache = { w.cache with getVolumeInformationNotAvailable := true }) := by
  have hprint : ∀ {b : Prop} [Decidable b] {format args} {w : World O},
      Sat (step env os) (Prog.onlyIf b (print format args)) w fun _ _ w' =>
        w'.nodes = w.nodes ∧ w'.cache = w.cache := by
    intro b _ format args w
    unfold Prog.onlyIf
    split
    · refine sat_perform.mpr fun _ w' ⟨_, _, h⟩ => ?_
      rw [h]
      exact ⟨rfl, rfl⟩
    · exact sat_done.mpr ⟨rfl, rfl⟩
  refine sat_bind.mpr (sat_copyInto.mono fun _ name w₁ ⟨_, h₁⟩ => ?_)
  refine sat_bind.mpr (sat_queryVolume.mono fun _ features w₂ ⟨hn₂, hc₂, _⟩ => ?_)
  rw [h₁] at hn₂ hc₂
  cases features with
  | some features =>
      refine sat_bind.mpr (hprint.mono fun _ _ w₃ ⟨hn₃, hc₃⟩ => ?_)
      refine sat_bind.mpr (hprint.mono fun _ _ w₄ ⟨hn₄, hc₄⟩ => ?_)
      refine sat_bind.mpr (hprint.mono fun _ _ w₅ ⟨hn₅, hc₅⟩ => ?_)
      refine sat_pure.mpr ⟨rfl, ?_, .inl ?_⟩
      · rw [hn₅, hn₄, hn₃, hn₂]
      · rw [hc₅, hc₄, hc₃, hc₂]
  | none =>
      refine sat_bind.mpr (sat_noteRefusal.mono fun _ _ w₃ ⟨_, hn₃, hc₃⟩ => ?_)
      refine sat_bind.mpr (sat_copyInto.mono fun _ fileSystemName w₄ ⟨_, h₄⟩ => ?_)
      refine sat_pure.mpr ⟨rfl, ?_, .inr ?_⟩
      · rw [h₄, hn₃, hn₂]
      · rw [h₄, hc₃, hc₂]

/-- A volume that is known to refuse is not asked. -/
theorem getVolumeInformation_asks {q : VolumeRequest}
    (hset : w.cache.getVolumeInformationNotAvailable = true) :
    Sat (step env os) (mirrorGetVolumeInformation env q) w fun tr _ w' =>
      AsksNothing tr ∧ w'.cache = w.cache := by
  have happend : ∀ {tr tr' : Trace}, AsksNothing tr → AsksNothing tr' → AsksNothing (tr ++ tr') :=
    fun h h' e he => (List.mem_append.mp he).elim (h e) (h' e)
  refine sat_bind.mpr (sat_copyInto.mono fun tr₁ name w₁ ⟨htr₁, h₁⟩ => ?_)
  refine sat_bind.mpr (sat_queryVolume.mono fun tr₂ features w₂ ⟨_, hc₂, hnone⟩ => ?_)
  rw [h₁] at hc₂ hnone
  obtain ⟨rfl, hasks⟩ := hnone hset
  refine sat_bind.mpr (sat_noteRefusal.mono fun tr₃ _ w₃ ⟨hasks', _, hc₃⟩ => ?_)
  refine sat_bind.mpr (sat_copyInto.mono fun tr₄ fileSystemName w₄ ⟨htr₄, h₄⟩ => sat_pure.mpr ?_)
  rw [htr₁, htr₄, List.nil_append, List.append_nil, List.append_nil]
  refine ⟨happend hasks hasks', ?_⟩
  rw [h₄, hc₃, hc₂, ← hset]

end

end SeamlessSmb
