/-
# `ProcessInfo` — the name of a process

`GetProcessNameFromPID` asks the system for its processes.  What it gets is a buffer of records of
different sizes, each with the offset of the next, and 0 on the last.  The function walks from
record to record while the offset is not 0, and compares the identifiers on the way.

The walk is given with fuel: `search … n p` is what it comes to if it ends within `n` records,
and nothing is said of one that does not.

**Proved here:** on every chain the walk ends, and what it finds is the first record with the
identifier among all but the last (`search_iff`); so the function answers as it should exactly
where the last record is not the only one with the identifier (`processName_iff`).
-/
import SeamlessSmb.Platform.Win32

namespace SeamlessSmb

/-- A `UNICODE_STRING`: the length in bytes, and what lies at the pointer. -/
structure UnicodeString where
  length : BitVec 16
  buffer : List (BitVec 16)

/-- The characters of the string. -/
def UnicodeString.text (s : UnicodeString) : List (BitVec 16) := s.buffer.take (s.length.toNat / 2)

/-- `SYSTEM_PROCESS_INFORMATION`, the fields the function reads. -/
structure SystemProcessInformation where
  nextEntryOffset : DWORD
  uniqueProcessId : HANDLE
  imageName : UnicodeString

/-- The identifier is a `DWORD`, kept in the place of a handle. -/
def SystemProcessInformation.processId (r : SystemProcessInformation) : DWORD :=
  r.uniqueProcessId.setWidth 32

/-- What the system gives: the size it asks for, whether there is so much memory, the status of
the second call, and the record at each offset of the buffer. -/
structure ProcessQuery where
  bufferSize : DWORD
  allocated : Bool
  err : NTSTATUS
  memory : ℕ → SystemProcessInformation

/-- What the function returns, what it leaves in `processName`, and the status it printed. -/
structure ProcessNameResult where
  found : Bool
  processName : List (BitVec 16)
  printed : Option NTSTATUS

/-- The loop: the name of the record it stops at, or that it came to a record without a next. -/
def search (memory : ℕ → SystemProcessInformation) (pid : DWORD) :
    (fuel current : ℕ) → Option (Option (List (BitVec 16)))
  | 0, _ => none
  | fuel + 1, current =>
      if (memory current).nextEntryOffset ≠ 0 then
        if (memory current).processId = pid then some (some (memory current).imageName.text)
        else search memory pid fuel (current + (memory current).nextEntryOffset.toNat)
      else some none

/-- The returns of the loop and after it. -/
def foundName (processName : List (BitVec 16)) : Option (List (BitVec 16)) → ProcessNameResult
  | some name => { found := true, processName := name, printed := none }
  | none => { found := false, processName := processName, printed := none }

/-- `GetProcessNameFromPID`, if its loop ends within so many records. -/
def getProcessNameFromPID (query : ProcessQuery) (pid : DWORD) (processName : List (BitVec 16))
    (fuel : ℕ) : Option ProcessNameResult :=
  if 0 < query.bufferSize then
    if query.allocated = true then
      if query.err = 0 then
        (search query.memory pid fuel 0).map (foundName processName)
      else some { found := false, processName := processName, printed := some query.err }
    else some { found := false, processName := processName, printed := none }
  else some { found := false, processName := processName, printed := none }

/-- The records from an offset on: each leads to the next, and the last to none. -/
inductive RecordChain (memory : ℕ → SystemProcessInformation) : ℕ → List SystemProcessInformation → Prop
  | last {p : ℕ} : (memory p).nextEntryOffset = 0 → RecordChain memory p [memory p]
  | cons {p : ℕ} {records : List SystemProcessInformation} : (memory p).nextEntryOffset ≠ 0 →
      RecordChain memory (p + (memory p).nextEntryOffset.toNat) records →
      RecordChain memory p (memory p :: records)

/-- The system answered with these records. -/
structure ProcessQuery.Lists (query : ProcessQuery) (records : List SystemProcessInformation) : Prop where
  size : 0 < query.bufferSize
  allocated : query.allocated = true
  err : query.err = 0
  chain : RecordChain query.memory 0 records

/-- The first record with the identifier. -/
def firstWith (pid : DWORD) (records : List SystemProcessInformation) : Option SystemProcessInformation :=
  records.find? fun r => r.processId = pid

/-- The name of the first record with the identifier. -/
def nameWith (pid : DWORD) (records : List SystemProcessInformation) : Option (List (BitVec 16)) :=
  (firstWith pid records).map fun r => r.imageName.text

/-- The function ends: with `true` and the name of the first record that has the identifier, or
with `false` if there is none. -/
def NamesProcess (query : ProcessQuery) (pid : DWORD) (processName : List (BitVec 16))
    (records : List SystemProcessInformation) : Prop :=
  ∃ fuel result, getProcessNameFromPID query pid processName fuel = some result ∧
    (result.found = true ↔ ∃ r ∈ records, r.processId = pid) ∧
    ∀ r, firstWith pid records = some r → result.processName = r.imageName.text

section

variable {memory : ℕ → SystemProcessInformation} {pid : DWORD} {p : ℕ}
  {records : List SystemProcessInformation} {query : ProcessQuery} {processName : List (BitVec 16)}

theorem RecordChain.ne_nil (h : RecordChain memory p records) : records ≠ [] := by
  cases h with
  | last _ => exact List.cons_ne_nil _ _
  | cons _ _ => exact List.cons_ne_nil _ _

/-- With a record for each step the walk ends, having looked at all but the last. -/
theorem search_length (h : RecordChain memory p records) :
    search memory pid records.length p =
      some (nameWith pid records.dropLast) := by
  induction h with
  | last hlast => simp [search, hlast, nameWith, firstWith]
  | @cons p records hnext hrest ih =>
      rw [List.length_cons, search, if_pos hnext, List.dropLast_cons_of_ne_nil hrest.ne_nil, ih]
      unfold nameWith firstWith
      rw [List.find?_cons]
      by_cases hpid : (memory p).processId = pid
      · simp [hpid]
      · simp [hpid]

/-- More fuel does not change what the walk comes to. -/
theorem search_mono {fuel more : ℕ} {r : Option (List (BitVec 16))} (hmore : fuel ≤ more)
    (h : search memory pid fuel p = some r) : search memory pid more p = some r := by
  induction fuel generalizing more p with
  | zero => cases h
  | succ fuel ih =>
      obtain ⟨more, rfl⟩ : ∃ n, more = n + 1 := ⟨more - 1, by omega⟩
      rw [search] at h ⊢
      split at h
      · next hnext =>
          rw [if_pos hnext]
          split at h
          · next hpid =>
              rw [if_pos hpid]
              exact h
          · next hpid =>
              rw [if_neg hpid]
              exact ih (Nat.le_of_succ_le_succ hmore) h
      · next hnext =>
          rw [if_neg hnext]
          exact h

/-- **The walk over a chain** ends with the first record with the identifier among all but the
last. -/
theorem search_iff (h : RecordChain memory p records) {r : Option (List (BitVec 16))} :
    (∃ fuel, search memory pid fuel p = some r) ↔
      r = nameWith pid records.dropLast := by
  constructor
  · rintro ⟨fuel, hfuel⟩
    have hmore := search_mono (Nat.le_max_left fuel records.length) hfuel
    rw [search_mono (Nat.le_max_right fuel records.length) (search_length h)] at hmore
    exact (Option.some.inj hmore).symm
  · rintro rfl
    exact ⟨records.length, search_length h⟩

theorem firstWith_isSome : (firstWith pid records).isSome = true ↔ ∃ r ∈ records, r.processId = pid := by
  unfold firstWith
  rw [List.find?_isSome]
  simp

/-- Leaving the last record out makes no difference unless it is the only one with the
identifier. -/
theorem firstWith_dropLast_isSome_iff :
    (firstWith pid records.dropLast).isSome = (firstWith pid records).isSome ↔
      ((∃ r ∈ records, r.processId = pid) → ∃ r ∈ records.dropLast, r.processId = pid) := by
  rw [Bool.eq_iff_iff, firstWith_isSome, firstWith_isSome]
  refine ⟨fun h => h.mpr, fun h => ⟨?_, h⟩⟩
  rintro ⟨r, hr, hpid⟩
  exact ⟨r, List.dropLast_subset records hr, hpid⟩

/-- If both are found they are the same. -/
theorem firstWith_of_dropLast {r : SystemProcessInformation}
    (h : firstWith pid records.dropLast = some r) : firstWith pid records = some r := by
  rcases List.eq_nil_or_concat records with rfl | ⟨front, last, rfl⟩
  · cases h
  · rw [List.concat_eq_append, List.dropLast_concat] at h
    unfold firstWith at h ⊢
    rw [List.concat_eq_append, List.find?_append, h]
    rfl

/-- What the function comes to. -/
theorem getProcessNameFromPID_iff (h : query.Lists records) {result : ProcessNameResult} :
    (∃ fuel, getProcessNameFromPID query pid processName fuel = some result) ↔
      result = foundName processName (nameWith pid records.dropLast) := by
  unfold getProcessNameFromPID
  simp only [if_pos h.size, if_pos h.allocated, if_pos h.err, Option.map_eq_some_iff]
  constructor
  · rintro ⟨fuel, x, hx, rfl⟩
    rw [(search_iff h.chain).mp ⟨fuel, hx⟩]
  · rintro rfl
    obtain ⟨fuel, hfuel⟩ := (search_iff h.chain).mpr rfl
    exact ⟨fuel, _, hfuel, rfl⟩

/-- **The name of a process** is found, for the first record of the chain that has its identifier,
exactly where the last record is not the only one that has it. -/
theorem processName_iff (h : query.Lists records) :
    NamesProcess query pid processName records ↔
      ((∃ r ∈ records, r.processId = pid) → ∃ r ∈ records.dropLast, r.processId = pid) := by
  have hends : NamesProcess query pid processName records ↔
      ((foundName processName (nameWith pid records.dropLast)).found = true ↔
        ∃ r ∈ records, r.processId = pid) ∧
      ∀ r, firstWith pid records = some r →
        (foundName processName (nameWith pid records.dropLast)).processName = r.imageName.text := by
    constructor
    · rintro ⟨fuel, result, hresult, hfits⟩
      rwa [(getProcessNameFromPID_iff h).mp ⟨fuel, hresult⟩] at hfits
    · intro hfits
      obtain ⟨fuel, hfuel⟩ : ∃ fuel, getProcessNameFromPID query pid processName fuel = some _ :=
        (getProcessNameFromPID_iff h).mpr rfl
      exact ⟨fuel, _, hfuel, hfits⟩
  rw [hends, ← firstWith_dropLast_isSome_iff, ← firstWith_isSome]
  unfold nameWith
  cases hfront : firstWith pid records.dropLast with
  | some r =>
      rw [firstWith_of_dropLast hfront]
      refine iff_of_true ⟨iff_of_true rfl rfl, fun r' hr' => ?_⟩ rfl
      cases hr'
      rfl
  | none =>
      cases hall : firstWith pid records with
      | none => exact iff_of_true ⟨Iff.rfl, nofun⟩ rfl
      | some r => exact iff_of_false (fun hfits => Bool.false_ne_true (hfits.1.mpr rfl)) Bool.false_ne_true

end

/-! ## Two processes -/

/-- The processes 4 and 8, at the offsets 0 and 16. -/
def twoProcesses : ProcessQuery where
  bufferSize := 32
  allocated := true
  err := 0
  memory p :=
    if p = 0 then
      { nextEntryOffset := 16, uniqueProcessId := 4, imageName := { length := 2, buffer := [0x61] } }
    else { nextEntryOffset := 0, uniqueProcessId := 8, imageName := { length := 2, buffer := [0x62] } }

theorem twoProcesses_lists :
    twoProcesses.Lists [twoProcesses.memory 0, twoProcesses.memory 16] where
  size := by decide
  allocated := rfl
  err := rfl
  chain := .cons (by decide) (.last rfl)

/-- The first is found. -/
theorem processName_first :
    NamesProcess twoProcesses 4 [] [twoProcesses.memory 0, twoProcesses.memory 16] :=
  (processName_iff twoProcesses_lists).mpr fun _ => ⟨_, List.mem_cons_self, rfl⟩

/-- The last is not. -/
theorem not_processName :
    ¬ ∀ (query : ProcessQuery) (records : List SystemProcessInformation) (pid : DWORD)
      (processName : List (BitVec 16)), query.Lists records → NamesProcess query pid processName records := by
  intro hclaim
  obtain ⟨fuel, result, hresult, hfound, -⟩ := hclaim _ _ 8 [] twoProcesses_lists
  have hfalse : result = foundName [] none := (getProcessNameFromPID_iff twoProcesses_lists).mp ⟨fuel, hresult⟩
  have htrue : result.found = true := hfound.mpr ⟨twoProcesses.memory 16, by simp, rfl⟩
  rw [hfalse] at htrue
  exact Bool.false_ne_true htrue

end SeamlessSmb
