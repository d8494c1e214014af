/-
# `Cache` — watching the directory

What is kept of `bzvolfile` is thrown away when the file is modified.  A thread of its own
waits for the changes below the root of the mount, which the system reports in batches: a
chain of records in a buffer or, if it had to drop records, a completion with no bytes in it.

`MonitorDirectoryChanges` looks at the buffer after every completion, whether anything was
put into it or not, and compares the name in a record with `bzvolfile`.  The names in the
records are relative to the root and begin with no backslash; `bzvolfile` does.

**Proved here:** no batch of such records throws anything away (`monitor_relative`).
-/
import SeamlessSmb.FileOps.ReadWrite

namespace SeamlessSmb

def FILE_ACTION_ADDED : DWORD := 1
def FILE_ACTION_REMOVED : DWORD := 2
def FILE_ACTION_MODIFIED : DWORD := 3
def FILE_ACTION_RENAMED_OLD_NAME : DWORD := 4
def FILE_ACTION_RENAMED_NEW_NAME : DWORD := 5

/-- `FILE_NOTIFY_INFORMATION`. -/
structure FileNotifyInformation where
  nextEntryOffset : DWORD
  action : DWORD
  fileName : WString

/-- The records of a buffer, in the order in which they are linked. -/
abbrev Chain := List FileNotifyInformation

/-- What completes a `ReadDirectoryChangesW`: records in the buffer, or no bytes. -/
inductive Completion
  | records (chain : Chain)
  | dropped

namespace Cache

/-- Everything that is kept of the file is thrown away. -/
def clear (cache : Cache) : Cache :=
  { cache with bzvolInfo := {}, bzvolInfoSet := false, bzvolData := [], bzvolDataLength := 0 }

/-- The `switch` on one record.  The other actions have empty branches. -/
def notify (cache : Cache) (event : FileNotifyInformation) : Cache :=
  if event.action = FILE_ACTION_MODIFIED ∧ event.fileName = bzvolfile then cache.clear else cache

/-- The walk along the chain. -/
def notifyAll (cache : Cache) : Chain → Cache
  | [] => cache
  | event :: chain =>
      if event.nextEntryOffset ≠ 0 then (cache.notify event).notifyAll chain else cache.notify event

/-- One turn of the loop of `MonitorDirectoryChanges`: the cache and the buffer after it. -/
def monitorDirectoryChanges (cache : Cache) (buffer : Chain) : Completion → Cache × Chain
  | .records chain => (cache.notifyAll chain, chain)
  | .dropped => (cache.notifyAll buffer, buffer)

end Cache

/-- The name of a record: relative to the root, with no backslash in front. -/
def Relative (fileName : WString) : Prop := fileName.head? ≠ some backslash

instance (fileName : WString) : Decidable (Relative fileName) := inferInstanceAs (Decidable (_ ≠ _))

theorem Relative.ne_bzvolfile {fileName : WString} (h : Relative fileName) : fileName ≠ bzvolfile := by
  rintro rfl
  exact absurd h (by decide)

theorem Cache.notify_relative {cache : Cache} {event : FileNotifyInformation}
    (h : Relative event.fileName) : cache.notify event = cache :=
  if_neg fun hmodified => h.ne_bzvolfile hmodified.2

theorem Cache.notifyAll_relative {cache : Cache} {chain : Chain}
    (h : ∀ event ∈ chain, Relative event.fileName) : cache.notifyAll chain = cache := by
  induction chain with
  | nil => rfl
  | cons event chain ih =>
      unfold notifyAll
      rw [notify_relative (h event List.mem_cons_self), ih fun e he => h e (List.mem_cons_of_mem _ he)]
      exact ite_self cache

/-- **The monitor throws nothing away.**  A record begins with no backslash, so none bears the
name the cache goes by, whatever happened to the file. -/
theorem monitor_relative {cache : Cache} {buffer : Chain} {completion : Completion}
    (hbuffer : ∀ event ∈ buffer, Relative event.fileName)
    (h : ∀ chain, completion = .records chain → ∀ event ∈ chain, Relative event.fileName) :
    (cache.monitorDirectoryChanges buffer completion).1 = cache ∧
      ∀ event ∈ (cache.monitorDirectoryChanges buffer completion).2, Relative event.fileName := by
  cases completion with
  | records chain => exact ⟨Cache.notifyAll_relative (h chain rfl), h chain rfl⟩
  | dropped => exact ⟨Cache.notifyAll_relative hbuffer, hbuffer⟩

/-- A turn of the loop keeps what is there or throws everything away. -/
theorem monitor_keeps_or_clears (cache : Cache) (buffer : Chain) (completion : Completion) :
    (cache.monitorDirectoryChanges buffer completion).1 = cache ∨
      (cache.monitorDirectoryChanges buffer completion).1 = cache.clear := by
  have hall : ∀ (chain : Chain) (c : Cache), c = cache ∨ c = cache.clear →
      c.notifyAll chain = cache ∨ c.notifyAll chain = cache.clear := by
    intro chain
    induction chain with
    | nil => exact fun c hc => hc
    | cons event chain ih =>
        intro c hc
        have hone : c.notify event = cache ∨ c.notify event = cache.clear := by
          unfold Cache.notify
          split
          · refine .inr ?_
            cases hc with
            | inl h => rw [h]
            | inr h =>
                rw [h]
                rfl
          · exact hc
        unfold Cache.notifyAll
        split
        · exact ih _ hone
        · exact hone
  cases completion with
  | records chain => exact hall chain cache (.inl rfl)
  | dropped => exact hall buffer cache (.inl rfl)

end SeamlessSmb
