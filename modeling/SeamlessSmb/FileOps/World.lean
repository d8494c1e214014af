/-
# `FileOps.World` — what the callbacks call, and what the calls do

A callback is a program (`Calls.Prog`) over one alphabet: the operations of the
node store, the printing routines, the thread's last error, and the Windows API
(`Call`).  `step` says which answers a call may give and what it leaves.

What lies outside the repository is not described but left open: the API answers
as a relation `os` on the state of the operating system allows, and the library
functions the callbacks compute with are fields of `Env`.  Two facts about these
are assumed, both of `DokanNtStatusFromWin32`: it maps no error to success, and no
other code.  That a code is mapped to a failure is assumed where a result needs it.

The last error is the thread's, and much overwrites it: `print` does, when
debugging is on, and the routines that call the API on their own account always
may (`printSD`, the descriptor conversions, the making of a node).

Two calls do not always return: the runtime's handler of a copy that does not fit, and
`printSD`, which with debugging on follows the NULL of a NULL DACL.
-/
import SeamlessSmb.Lib.Calls
import SeamlessSmb.Globals
import SeamlessSmb.Store

namespace SeamlessSmb

open Calls

/-! ## The environment -/

/-- What `DokanMapKernelToUserCreateFileFlags` stores through its pointers. -/
structure UserFlags where
  genericDesiredAccess : DWORD
  fileAttributesAndFlags : DWORD
  creationDisposition : DWORD

/-- The settings of the mount, and the functions from outside the repository.
`merge` is what `SetPrivateObjectSecurity` computes when it succeeds, and `convertSD` the
text of a descriptor, which fails if it is `none`.  `nullDacl` says of a descriptor that it
is valid and its DACL is there, but NULL. -/
structure Env where
  globals : Globals
  debugMode : Bool
  ntStatusFromWin32 : DWORD → NTSTATUS
  ntStatus_success : ntStatusFromWin32 ERROR_SUCCESS = STATUS_SUCCESS
  ntStatus_error : ∀ e, e ≠ 0 → ntStatusFromWin32 e ≠ STATUS_SUCCESS
  mapKernelToUser : (access attributes options disposition : DWORD) → UserFlags
  defaultSD : SecurityDescriptor
  convertSD : SecurityDescriptor → Option CodeUnits
  nullDacl : SecurityDescriptor → Bool
  merge : (parts : DWORD) → (modification current : SecurityDescriptor) → SecurityDescriptor

/-- The descriptor `GetFileSecurity` reports for a name: the stored one, or the
default. -/
def Env.readSD (env : Env) (n : Nodes) (fileName : WString) : SecurityDescriptor :=
  match n.node fileName with
  | some f => f.security.getDescriptor env.defaultSD
  | none => env.defaultSD

/-- `printSD` returns: it prints no DACL that is NULL, which it does with debugging on. -/
def Env.printable (env : Env) : Option SecurityDescriptor → Bool
  | none => true
  | some sd => !(env.debugMode && env.nullDacl sd)

theorem Env.printable_of_off {env : Env} (hoff : env.debugMode = false) (sd : Option SecurityDescriptor) :
    env.printable sd = true := by
  cases sd with
  | none => rfl
  | some sd =>
      unfold Env.printable
      rw [hoff]
      rfl

/-- `Cache`: what is kept of the file `bzvolfile`, and of the volume that nothing is to be
known of it.  `bzvolData` is the memory it points to. -/
structure Cache where
  getVolumeInformationNotAvailable : Bool := false
  bzvolInfo : ByHandleFileInformation := {}
  bzvolInfoSet : Bool := false
  bzvolData : List Byte := []
  bzvolDataLength : DWORD := 0

/-- What the callbacks share, the last error of the thread that runs one, and the
operating system. -/
structure World (O : Type) where
  lastError : DWORD
  nodes : Nodes
  writeCounts : HANDLE → Option (BitVec 8)
  os : O
  cache : Cache := {}

/-- `DOKAN_FILE_INFO`: the fields the callbacks use. -/
structure DokanFileInfo where
  context : HANDLE := 0
  processId : DWORD := 0
  isDirectory : Bool := false
  deleteOnClose : Bool := false
  pagingIo : Bool := false
  writeToEndOfFile : Bool := false

/-! ## The calls -/

/-- An argument of `print`. -/
inductive PrintArg
  | str (s : WString)
  | num (n : DWORD)
  | int64 (n : BitVec 64)

/-- A call a callback makes. -/
inductive Call
  | getLastError
  | setLastError (error : DWORD)
  | print (format : String) (args : List PrintArg)
  | printSD (sd : Option SecurityDescriptor) (num : Int)
  | printOwner (sd : SecurityDescriptor)
  /-- The runtime's handler of a copy that does not fit.  It does not return. -/
  | invalidParameter
  | makeShared (node : Filenode)
  | findFileNode (fname : WString)
  | addFileNode (node : Option Ptr)
  | rename (fname newfname : WString)
  | deleteFileNode (fname : WString)
  | getDescriptor (node : Ptr)
  /-- `stray` is the text where the conversion fails, of variables never written to. -/
  | setDescriptor (node : Ptr) (sd : Option SecurityDescriptor) (stray : CodeUnits)
  | createDefaultSelfRelativeSD
  /-- `_data_mutex` of a node. -/
  | lockData (node : Ptr)
  | unlockData (node : Ptr)
  | insertWriteCount (handle : HANDLE)
  | eraseWriteCount (handle : HANDLE)
  /-- `writeCounts[handle]`. -/
  | writeCount (handle : HANDLE)
  | setWriteCount (handle : HANDLE) (count : BitVec 8)
  | incWriteCount (handle : HANDLE)
  /-- The fields of the cache, as they are. -/
  | readCache
  /-- `memcpy` out of the memory of the cache. -/
  | copyCacheData (offset : BitVec 64) (count : Nat)
  /-- The length is set, and memory for so many bytes allocated. -/
  | allocCacheData (size : BitVec 64)
  | storeCacheData (bytes : List Byte)
  | storeCacheInfo (info : ByHandleFileInformation)
  /-- `GetVolumeInformationNotAvailable = true`. -/
  | setNotAvailable
  | win32 (c : Win32Call)

@[reducible] def Answer : Call → Type
  | .getLastError => DWORD
  | .invalidParameter => Empty
  | .makeShared _ => Ptr
  | .findFileNode _ => Option Ptr
  | .addFileNode _ | .rename _ _ | .deleteFileNode _ => Bool
  | .getDescriptor _ | .createDefaultSelfRelativeSD => SecurityDescriptor
  | .writeCount _ => BitVec 8
  | .readCache => Cache
  | .copyCacheData .. => List Byte
  | .win32 c => Outcome c.Value
  | _ => Unit

abbrev Op (α : Type) := Prog Call Answer α

abbrev Trace := List (Event Call Answer)

namespace Nodes

/-- `security.SetDescriptor` of the node behind a pointer. -/
def setDescriptor (n : Nodes) (convert : SecurityDescriptor → Option CodeUnits) (p : Ptr)
    (sd : Option SecurityDescriptor) (stray : CodeUnits) : Nodes :=
  n.secure p ((n.heap p).security.setDescriptor convert stray sd)

/-- Setting the descriptor of a node just made is making it with the descriptor. -/
theorem setDescriptor_makeShared {n : Nodes} {convert : SecurityDescriptor → Option CodeUnits}
    {f : Filenode} {sd : Option SecurityDescriptor} {stray : CodeUnits} :
    (n.makeShared f).setDescriptor convert n.next sd stray =
      n.makeShared { f with security := f.security.setDescriptor convert stray sd } := by
  unfold setDescriptor secure
  rw [makeShared_heap_next]
  simp only [write, makeShared, Function.update_idem]

end Nodes

/-! ## What the calls do -/

/-- The answers of the API the model constrains: a successful
`SetPrivateObjectSecurity` merges, and a `GetFileSize` that succeeds with what looks like
its error value leaves no error. -/
def Win32Call.Allowed (env : Env) : (c : Win32Call) → Outcome c.Value → Prop
  | .setPrivateObjectSecurity parts modification current, .ok sd _ =>
      sd = env.merge parts modification current
  | .getFileSize _, .ok size lastError => size.setWidth 32 = INVALID_FILE_SIZE → lastError = 0
  | _, _ => True

section

variable {O : Type} (env : Env) (os : O → (c : Win32Call) → Outcome c.Value → O → Prop)

/-- One call. -/
def step (w : World O) : (c : Call) → Answer c → World O → Prop
  | .getLastError, error, w' => error = w.lastError ∧ w' = w
  | .setLastError error, _, w' => w' = { w with lastError := error }
  | .print _ _, _, w' => ∃ e, (env.debugMode = false → e = w.lastError) ∧ w' = { w with lastError := e }
  | .printSD sd _, _, w' =>
      env.printable sd = true ∧ ∃ e, (sd = none → e = w.lastError) ∧ w' = { w with lastError := e }
  | .printOwner _, _, w' => ∃ e, w' = { w with lastError := e }
  | .invalidParameter, _, _ => False
  | .makeShared node, p, w' =>
      p = w.nodes.next ∧ ∃ e, w' = { w with lastError := e, nodes := w.nodes.makeShared node }
  | .findFileNode fname, p, w' => p = w.nodes.findFileNode fname ∧ w' = w
  | .addFileNode node, b, w' =>
      b = (w.nodes.addFileNode node).1 ∧ w' = { w with nodes := (w.nodes.addFileNode node).2 }
  | .rename fname newfname, b, w' =>
      b = (w.nodes.rename fname newfname).1 ∧
        w' = { w with nodes := (w.nodes.rename fname newfname).2 }
  | .deleteFileNode fname, b, w' =>
      b = (w.nodes.deleteFileNode fname).1 ∧ w' = { w with nodes := (w.nodes.deleteFileNode fname).2 }
  | .getDescriptor p, sd, w' =>
      sd = (w.nodes.heap p).security.getDescriptor env.defaultSD ∧ ∃ e, w' = { w with lastError := e }
  | .setDescriptor p sd stray, _, w' =>
      ∃ e, w' = { w with lastError := e, nodes := w.nodes.setDescriptor env.convertSD p sd stray }
  | .createDefaultSelfRelativeSD, sd, w' => sd = env.defaultSD ∧ ∃ e, w' = { w with lastError := e }
  | .lockData _, _, w' => w' = w
  | .unlockData _, _, w' => w' = w
  | .insertWriteCount h, _, w' =>
      w' = { w with writeCounts := Function.update w.writeCounts h (some ((w.writeCounts h).getD 0)) }
  | .eraseWriteCount h, _, w' =>
      w' = { w with writeCounts := Function.update w.writeCounts h none }
  | .writeCount h, n, w' =>
      n = (w.writeCounts h).getD 0 ∧
        w' = { w with writeCounts := Function.update w.writeCounts h (some n) }
  | .setWriteCount h n, _, w' =>
      w' = { w with writeCounts := Function.update w.writeCounts h (some n) }
  | .incWriteCount h, _, w' =>
      w' = { w with
        writeCounts := Function.update w.writeCounts h (some ((w.writeCounts h).getD 0 + 1)) }
  | .readCache, cache, w' => cache = w.cache ∧ w' = w
  | .copyCacheData offset count, bytes, w' =>
      -- what lies behind the memory is left open
      (bytes.length = count ∧
        ∃ behind, bytes = ((w.cache.bzvolData ++ behind).drop offset.toNat).take count) ∧ w' = w
  | .allocCacheData size, _, w' =>
      -- what the memory holds is left open
      ∃ memory : List Byte, memory.length = size.toNat ∧
        w' = { w with
          cache := { w.cache with bzvolDataLength := size.setWidth 32, bzvolData := memory } }
  | .storeCacheData bytes, _, w' =>
      w' = { w with
        cache := { w.cache with bzvolData := bytes ++ w.cache.bzvolData.drop bytes.length } }
  | .storeCacheInfo info, _, w' =>
      w' = { w with cache := { w.cache with bzvolInfo := info, bzvolInfoSet := true } }
  | .setNotAvailable, _, w' =>
      w' = { w with cache := { w.cache with getVolumeInformationNotAvailable := true } }
  | .win32 c, r, w' =>
      c.Allowed env r ∧ ∃ o, os w.os c r o ∧ w' = { w with lastError := r.lastError, os := o }

end

/-! ## The calls as programs -/

def getLastError : Op DWORD := Prog.perform Call.getLastError

def setLastError (e : DWORD) : Op Unit := Prog.perform (Call.setLastError e)

def print (format : String) (args : List PrintArg := []) : Op Unit := Prog.perform (Call.print format args)

def printSD (sd : Option SecurityDescriptor) (num : Int) : Op Unit := Prog.perform (Call.printSD sd num)

def win32 (c : Win32Call) : Op (Outcome c.Value) := Prog.perform (Call.win32 c)

/-- `CheckFlag` for each flag of a list. -/
def checkFlags (value : DWORD) : List (DWORD × String) → Op Unit
  | [] => pure ()
  | (flag, name) :: flags => do
      Prog.onlyIf (value &&& flag ≠ 0) (print ("\t" ++ name ++ "\n"))
      checkFlags value flags

/-- The attributes are known, and say it is a directory. -/
def IsDirectoryAttr (fileAttr : DWORD) : Prop :=
  fileAttr ≠ INVALID_FILE_ATTRIBUTES ∧ fileAttr &&& FILE_ATTRIBUTE_DIRECTORY ≠ 0

instance (a : DWORD) : Decidable (IsDirectoryAttr a) := inferInstanceAs (Decidable (_ ∧ _))

/-- What `GetFileAttributes` returns. -/
def attributesOf : Outcome Attributes → DWORD
  | .ok a _ => a.1
  | .fail _ => INVALID_FILE_ATTRIBUTES

/-- What `CreateFile` returns. -/
def handleOf : Outcome OpenHandle → HANDLE
  | .ok h _ => h.1
  | .fail _ => INVALID_HANDLE_VALUE

/-- `GetFileAttributes`. -/
def getFileAttributes (path : WString) : Op DWORD := do
  let r ← win32 (.getFileAttributes path)
  match r with
  | .ok a _ => pure a.1
  | .fail _ => pure INVALID_FILE_ATTRIBUTES

/-- `CreateFile`. -/
def createFile (path : WString) (access share : DWORD) (sd : Option SecurityDescriptor)
    (disposition flagsAndAttributes : DWORD) : Op HANDLE := do
  let r ← win32 (.createFile path access share sd disposition flagsAndAttributes)
  match r with
  | .ok h _ => pure h.1
  | .fail _ => pure INVALID_HANDLE_VALUE

def closeHandle (h : HANDLE) : Op Unit := do
  let _ ← win32 (.closeHandle h)
  pure ()

/-- `GetFilePath` into a buffer of `DOKAN_MAX_PATH` characters. -/
def filePathOf (g : Globals) (fileName : WString) : Op WString :=
  match getFilePath g DOKAN_MAX_PATH fileName with
  | some path => pure path
  | none => .call .invalidParameter Empty.elim

/-! ## Silent calls

Most of what a callback calls neither touches the store nor asks the platform
anything its outcome is judged by.  A program of such calls is passed over in one
step (`ends_silent_bind`), and what is left of a trace is what was `asked`. -/

/-- The outcome of the call is of no interest to the store. -/
def Win32Call.aside : Win32Call → Bool
  | .setFileAttributes .. | .closeHandle _ | .findClose | .malloc _ | .getProcessNameFromPID _
  | .dokanOpenRequestorToken | .impersonateLoggedOnUser _ | .revertToSelf => true
  | _ => false

/-- The call leaves the nodes alone, and its answer is not looked at from outside. -/
def Call.Silent : Call → Prop
  | .makeShared _ | .findFileNode _ | .addFileNode _ | .rename .. | .deleteFileNode _
  | .setDescriptor .. | .invalidParameter => False
  | .win32 c => c.aside = true
  | _ => True

/-- The call writes to the cache. -/
def Call.storesCache : Call → Bool
  | .allocCacheData _ | .storeCacheData _ | .storeCacheInfo _ | .setNotAvailable => true
  | _ => false

/-- The call puts a question to the platform. -/
def Call.asks : Call → Bool
  | .win32 c => !c.aside
  | _ => false

/-- The questions put to the platform, with the answers. -/
def asked (tr : Trace) : Trace := tr.filter fun e => e.call.asks

theorem asked_append {tr tr' : Trace} : asked (tr ++ tr') = asked tr ++ asked tr' :=
  List.filter_append ..

theorem asked_silent {tr : Trace} (h : ∀ e ∈ tr, e.call.Silent) : asked tr = [] := by
  refine List.filter_eq_nil_iff.mpr fun e he hasks => ?_
  have hsilent := h e he
  cases hc : e.call with
  | win32 c =>
      rw [hc] at hsilent hasks
      have haside : c.aside = true := hsilent
      simp [Call.asks, haside] at hasks
  | _ =>
      rw [hc] at hasks
      exact Bool.false_ne_true hasks

section

variable {O α β : Type} {env : Env} {os : O → (c : Win32Call) → Outcome c.Value → O → Prop}
  {w : World O}

theorem step_silent (w : World O) (c : Call) (r : Answer c) (w' : World O) (hc : c.Silent)
    (h : step env os w c r w') : w'.nodes = w.nodes := by
  cases c with
  | getLastError => rw [h.2]
  | setLastError e => rw [h]
  | print format args =>
      obtain ⟨e, -, rfl⟩ := h
      rfl
  | printSD sd num =>
      obtain ⟨-, e, -, rfl⟩ := h
      rfl
  | printOwner sd =>
      obtain ⟨e, rfl⟩ := h
      rfl
  | getDescriptor p =>
      obtain ⟨-, e, rfl⟩ := h
      rfl
  | createDefaultSelfRelativeSD =>
      obtain ⟨-, e, rfl⟩ := h
      rfl
  | lockData p => rw [h]
  | unlockData p => rw [h]
  | insertWriteCount handle => rw [h]
  | eraseWriteCount handle => rw [h]
  | writeCount handle => rw [h.2]
  | setWriteCount handle count => rw [h]
  | incWriteCount handle => rw [h]
  | readCache => rw [h.2]
  | copyCacheData offset count => rw [h.2]
  | allocCacheData size =>
      obtain ⟨memory, -, rfl⟩ := h
      rfl
  | storeCacheData bytes => rw [h]
  | storeCacheInfo info => rw [h]
  | setNotAvailable => rw [h]
  | win32 c =>
      obtain ⟨-, o, -, rfl⟩ := h
      rfl
  | makeShared _ | findFileNode _ | addFileNode _ | rename _ _ | deleteFileNode _
  | setDescriptor _ _ _ | invalidParameter => exact hc.elim

/-- Only the API reaches the platform, and four calls write to the cache. -/
theorem step_aside {c : Call} {r : Answer c} {w' : World O} (h : step env os w c r w') :
    (∃ x, c = .win32 x) ∨ w'.os = w.os ∧ (c.storesCache = false → w'.cache = w.cache) := by
  cases c with
  | win32 x => exact .inl ⟨x, rfl⟩
  | print format args =>
      obtain ⟨e, -, rfl⟩ := h
      exact .inr ⟨rfl, fun _ => rfl⟩
  | printSD sd num =>
      obtain ⟨-, e, -, rfl⟩ := h
      exact .inr ⟨rfl, fun _ => rfl⟩
  | printOwner sd =>
      obtain ⟨e, rfl⟩ := h
      exact .inr ⟨rfl, fun _ => rfl⟩
  | makeShared node =>
      obtain ⟨-, e, rfl⟩ := h
      exact .inr ⟨rfl, fun _ => rfl⟩
  | getDescriptor p =>
      obtain ⟨-, e, rfl⟩ := h
      exact .inr ⟨rfl, fun _ => rfl⟩
  | createDefaultSelfRelativeSD =>
      obtain ⟨-, e, rfl⟩ := h
      exact .inr ⟨rfl, fun _ => rfl⟩
  | setDescriptor p sd stray =>
      obtain ⟨e, rfl⟩ := h
      exact .inr ⟨rfl, fun _ => rfl⟩
  | allocCacheData size =>
      obtain ⟨memory, -, rfl⟩ := h
      exact .inr ⟨rfl, Bool.noConfusion⟩
  | storeCacheData bytes =>
      rw [h]
      exact .inr ⟨rfl, Bool.noConfusion⟩
  | storeCacheInfo info =>
      rw [h]
      exact .inr ⟨rfl, Bool.noConfusion⟩
  | setNotAvailable =>
      rw [h]
      exact .inr ⟨rfl, Bool.noConfusion⟩
  | invalidParameter => exact h.elim
  | getLastError | findFileNode _ | addFileNode _ | rename _ _ | deleteFileNode _ | writeCount _
  | readCache | copyCacheData _ _ =>
      rw [h.2]
      exact .inr ⟨rfl, fun _ => rfl⟩
  | setLastError _ | lockData _ | unlockData _ | insertWriteCount _ | eraseWriteCount _
  | setWriteCount _ _ | incWriteCount _ =>
      rw [h]
      exact .inr ⟨rfl, fun _ => rfl⟩

/-- A silent program leaves the nodes as they are and shows nothing else. -/
theorem sat_silent {p : Op α} (hp : OnlyCalls Call.Silent p) :
    Sat (step env os) p w (fun tr _ w' => (∀ e ∈ tr, e.call.Silent) ∧ w'.nodes = w.nodes) :=
  hp.sat World.nodes step_silent w

theorem sat_silent_bind {p : Op α} {f : α → Op β} {Q : Trace → β → World O → Prop}
    (hp : OnlyCalls Call.Silent p)
    (hf : ∀ tr a w', (∀ e ∈ tr, e.call.Silent) → w'.nodes = w.nodes →
      Sat (step env os) (f a) w' (fun tr' => Q (tr ++ tr'))) :
    Sat (step env os) (p >>= f) w Q :=
  sat_bind.mpr ((sat_silent hp).mono fun tr a w' h => hf tr a w' h.1 h.2)

/-- Every run of `p` from `w` ends in `Q`, which sees of the trace what was asked. -/
def Ends (env : Env) (os : O → (c : Win32Call) → Outcome c.Value → O → Prop) (p : Op α)
    (w : World O) (Q : Trace → α → World O → Prop) : Prop :=
  Sat (step env os) p w fun tr a w' => Q (asked tr) a w'

theorem Ends.mono {p : Op α} {Q Q' : Trace → α → World O → Prop} (h : Ends env os p w Q)
    (hQ : ∀ tr a w', Q tr a w' → Q' tr a w') : Ends env os p w Q' :=
  Sat.mono h fun tr a w' => hQ (asked tr) a w'

theorem ends_pure {a : α} {Q : Trace → α → World O → Prop} (h : Q [] a w) :
    Ends env os (pure a) w Q := sat_pure.mpr h

theorem ends_bind {p : Op α} {f : α → Op β} {Q : Trace → β → World O → Prop}
    (h : Ends env os p w fun tr a w' => Ends env os (f a) w' fun tr' => Q (tr ++ tr')) :
    Ends env os (p >>= f) w Q := by
  refine sat_bind.mpr (Sat.mono h fun tr a w' hf => Sat.mono hf fun tr' b w'' hQ => ?_)
  rw [asked_append]
  exact hQ

theorem ends_call {c : Call} {f : Answer c → Op β} {Q : Trace → β → World O → Prop}
    (h : ∀ r w', step env os w c r w' →
      Ends env os (f r) w' fun tr => Q (asked [⟨c, r⟩] ++ tr)) :
    Ends env os (Prog.perform c >>= f) w Q :=
  ends_bind (sat_perform.mpr h)

/-- A question to the platform leaves the nodes alone, whatever the answer. -/
theorem ends_win32_bind {c : Win32Call} {f : Outcome c.Value → Op β}
    {Q : Trace → β → World O → Prop}
    (h : ∀ r w', w'.nodes = w.nodes →
      Ends env os (f r) w' fun tr => Q (asked [⟨.win32 c, r⟩] ++ tr)) :
    Ends env os (win32 c >>= f) w Q := by
  refine ends_call fun r w' ⟨_, _, _, hw'⟩ => h r w' ?_
  rw [hw']

theorem ends_silent {p : Op α} (hp : OnlyCalls Call.Silent p) :
    Ends env os p w (fun tr _ w' => tr = [] ∧ w'.nodes = w.nodes) :=
  (sat_silent hp).mono fun _ _ _ h => ⟨asked_silent h.1, h.2⟩

theorem ends_silent_bind {p : Op α} {f : α → Op β} {Q : Trace → β → World O → Prop}
    (hp : OnlyCalls Call.Silent p)
    (hf : ∀ a w', w'.nodes = w.nodes → Ends env os (f a) w' Q) : Ends env os (p >>= f) w Q := by
  refine ends_bind ((ends_silent hp).mono fun tr a w' ⟨htr, hw'⟩ => ?_)
  rw [htr]
  exact hf a w' hw'

theorem ends_silent_call {c : Call} {f : Answer c → Op β} {Q : Trace → β → World O → Prop}
    (hc : c.Silent) (hf : ∀ r w', w'.nodes = w.nodes → Ends env os (f r) w' Q) :
    Ends env os (Prog.perform c >>= f) w Q :=
  ends_silent_bind (onlyCalls_perform.mpr hc) hf

/-- A path that fits is computed without any call; one that does not fit leaves no run. -/
theorem sat_filePathOf_bind {g : Globals} {f : WString} {k : WString → Op β}
    {Q : Trace → β → World O → Prop}
    (h : ∀ path, getFilePath g DOKAN_MAX_PATH f = some path → Sat (step env os) (k path) w Q) :
    Sat (step env os) (filePathOf g f >>= k) w Q := by
  refine sat_bind.mpr ?_
  unfold filePathOf
  cases hpath : getFilePath g DOKAN_MAX_PATH f with
  | some path => exact sat_pure.mpr (h path hpath)
  | none => exact sat_call.mpr fun r => r.elim

theorem ends_filePathOf_bind {g : Globals} {f : WString} {k : WString → Op β}
    {Q : Trace → β → World O → Prop}
    (h : ∀ path, getFilePath g DOKAN_MAX_PATH f = some path → Ends env os (k path) w Q) :
    Ends env os (filePathOf g f >>= k) w Q := sat_filePathOf_bind h

theorem ends_getFileAttributes {path : WString} :
    Ends env os (getFileAttributes path) w (fun tr a w' =>
      ∃ r, tr = [⟨.win32 (.getFileAttributes path), r⟩] ∧ a = attributesOf r ∧ w'.nodes = w.nodes) := by
  refine ends_win32_bind fun r w₁ h₁ => ?_
  cases r with
  | ok a e => exact ends_pure ⟨.ok a e, rfl, rfl, h₁⟩
  | fail e => exact ends_pure ⟨.fail e, rfl, rfl, h₁⟩

theorem ends_createFile {path : WString} {access share disposition flags : DWORD}
    {sd : Option SecurityDescriptor} :
    Ends env os (createFile path access share sd disposition flags) w (fun tr h w' =>
      ∃ r, tr = [⟨.win32 (.createFile path access share sd disposition flags), r⟩] ∧
        h = handleOf r ∧ w'.nodes = w.nodes ∧ w'.lastError = r.lastError) := by
  refine ends_call fun r w₁ ⟨_, _, _, h₁⟩ => ?_
  cases r with
  | ok h e => exact ends_pure ⟨.ok h e, rfl, rfl, by rw [h₁], by rw [h₁]⟩
  | fail e => exact ends_pure ⟨.fail e, rfl, rfl, by rw [h₁], by rw [h₁]⟩

/-- What the platform may have answered. -/
def Answered (env : Env) (os : O → (c : Win32Call) → Outcome c.Value → O → Prop) :
    Event Call Answer → Prop
  | ⟨.win32 c, r⟩ => c.Allowed env r ∧ ∃ o o', os o c r o'
  | _ => True

theorem run_answered {p : Op α} {tr : Trace} {a : α} {w' : World O}
    (h : Run (step env os) p w tr a w') : ∀ e ∈ tr, Answered env os e := by
  refine h.forall_mem fun w c r w' hstep => ?_
  cases c with
  | win32 c =>
      obtain ⟨hallowed, o, hos, -⟩ := hstep
      exact ⟨hallowed, w.os, o, hos⟩
  | _ => trivial

/-- The call comes to an end, if the platform answers. -/
def Call.Returns (env : Env) : Call → Prop
  | .invalidParameter => False
  | .printSD sd _ => env.printable sd = true
  | _ => True

/-- A call that asks the platform nothing returns, if it is not one of the two that do not. -/
theorem step_own_total (w : World O) (c : Call) (hc : c.Returns env)
    (hown : ∀ x, c ≠ .win32 x) : ∃ r w', step env os w c r w' := by
  cases c with
  | getLastError => exact ⟨_, _, rfl, rfl⟩
  | setLastError e => exact ⟨(), _, rfl⟩
  | print format args => exact ⟨(), _, w.lastError, fun _ => rfl, rfl⟩
  | printSD sd num => exact ⟨(), _, hc, w.lastError, fun _ => rfl, rfl⟩
  | printOwner sd => exact ⟨(), _, 0, rfl⟩
  | invalidParameter => exact hc.elim
  | makeShared node => exact ⟨_, _, rfl, 0, rfl⟩
  | findFileNode fname => exact ⟨_, _, rfl, rfl⟩
  | addFileNode node => exact ⟨_, _, rfl, rfl⟩
  | rename fname newfname => exact ⟨_, _, rfl, rfl⟩
  | deleteFileNode fname => exact ⟨_, _, rfl, rfl⟩
  | getDescriptor p => exact ⟨_, _, rfl, 0, rfl⟩
  | setDescriptor p sd stray => exact ⟨(), _, 0, rfl⟩
  | createDefaultSelfRelativeSD => exact ⟨_, _, rfl, 0, rfl⟩
  | lockData p => exact ⟨(), _, rfl⟩
  | unlockData p => exact ⟨(), _, rfl⟩
  | insertWriteCount handle => exact ⟨(), _, rfl⟩
  | eraseWriteCount handle => exact ⟨(), _, rfl⟩
  | writeCount handle => exact ⟨_, _, rfl, rfl⟩
  | setWriteCount handle count => exact ⟨(), _, rfl⟩
  | incWriteCount handle => exact ⟨(), _, rfl⟩
  | readCache => exact ⟨_, _, rfl, rfl⟩
  | copyCacheData offset count =>
      refine ⟨_, w, ⟨?_, List.replicate (offset.toNat + count) 0, rfl⟩, rfl⟩
      rw [List.length_take, List.length_drop, List.length_append, List.length_replicate]
      omega
  | allocCacheData size => exact ⟨(), _, List.replicate size.toNat 0, List.length_replicate, rfl⟩
  | storeCacheData bytes => exact ⟨(), _, rfl⟩
  | storeCacheInfo info => exact ⟨(), _, rfl⟩
  | setNotAvailable => exact ⟨(), _, rfl⟩
  | win32 c => exact absurd rfl (hown c)

/-- Every other call returns, if the platform answers everything. -/
theorem step_total (hos : ∀ o c, ∃ r o', Win32Call.Allowed env c r ∧ os o c r o') (w : World O)
    (c : Call) (hc : c.Returns env) : ∃ r w', step env os w c r w' := by
  by_cases hwin32 : ∃ x, c = .win32 x
  · obtain ⟨x, rfl⟩ := hwin32
    obtain ⟨r, o, hallowed, hr⟩ := hos w.os x
    exact ⟨r, _, hallowed, o, hr, rfl⟩
  · exact step_own_total w c hc (not_exists.mp hwin32)

/-- The program comes to its end, if the platform answers everything. -/
def Returns (env : Env) (p : Op α) : Prop := OnlyCalls (Call.Returns env) p

theorem Returns.exists_run {p : Op α} (hp : Returns env p)
    (hos : ∀ o c, ∃ r o', Win32Call.Allowed env c r ∧ os o c r o') (w : World O) :
    ∃ tr a w', Run (step env os) p w tr a w' :=
  OnlyCalls.exists_run (step_total hos) hp w

theorem Call.Silent.returns {c : Call} (hc : c.Silent) (hoff : env.debugMode = false) :
    c.Returns env := by
  cases c with
  | invalidParameter => exact hc
  | printSD sd num => exact env.printable_of_off hoff sd
  | _ => trivial

/-- With debugging off a silent program returns. -/
theorem returns_silent {p : Op α} (hoff : env.debugMode = false) (hp : OnlyCalls Call.Silent p) :
    Returns env p := hp.mono fun _ hc => hc.returns hoff

theorem returns_filePathOf {g : Globals} {f : WString}
    (h : (getFilePath g DOKAN_MAX_PATH f).isSome) : Returns env (filePathOf g f) := by
  unfold filePathOf
  cases hpath : getFilePath g DOKAN_MAX_PATH f with
  | some path => trivial
  | none =>
      rw [hpath] at h
      cases h

theorem returns_bind {p : Op α} {f : α → Op β} (hp : Returns env p) (hf : ∀ a, Returns env (f a)) :
    Returns env (p >>= f) := OnlyCalls.bind hp hf

theorem returns_call {c : Call} {f : Answer c → Op β} (hc : c.Returns env)
    (hf : ∀ r, Returns env (f r)) : Returns env (Prog.perform c >>= f) :=
  returns_bind (onlyCalls_perform.mpr hc) hf

end

/-! ## Runs of the printing parts -/

section

variable {O : Type} {env : Env} {os : O → (c : Win32Call) → Outcome c.Value → O → Prop}
  {w : World O}

/-- A `print` that leaves the last error alone, as it may even when debugging. -/
theorem run_print {format : String} {args : List PrintArg} :
    Run (step env os) (print format args) w [⟨.print format args, ()⟩] () w :=
  .call ⟨w.lastError, fun _ => rfl, rfl⟩ .done

theorem run_checkFlags {value : DWORD} {flags : List (DWORD × String)} :
    ∃ tr, Run (step env os) (checkFlags value flags) w tr () w := by
  induction flags with
  | nil => exact ⟨[], .done⟩
  | cons flag flags ih =>
      obtain ⟨tr, htr⟩ := ih
      have hflag : ∃ tr, Run (step env os)
          (Prog.onlyIf (value &&& flag.1 ≠ 0) (print ("\t" ++ flag.2 ++ "\n"))) w tr () w := by
        unfold Prog.onlyIf
        split
        · exact ⟨_, run_print⟩
        · exact ⟨_, .done⟩
      obtain ⟨tr₁, htr₁⟩ := hflag
      exact ⟨tr₁ ++ tr, htr₁.bind htr⟩

theorem run_filePathOf {g : Globals} {f path : WString}
    (h : getFilePath g DOKAN_MAX_PATH f = some path) :
    Run (step env os) (filePathOf g f) w [] path w := by
  unfold filePathOf
  rw [h]
  exact .done

end

/-- No call is made for a path, except the fatal one. -/
theorem onlyCalls_filePathOf {P : Call → Prop} (hfatal : P .invalidParameter) {g : Globals} {f : WString} :
    OnlyCalls P (filePathOf g f) := by
  unfold filePathOf
  split
  · trivial
  · exact ⟨hfatal, fun r => r.elim⟩

/-- Flags are printed, and nothing else. -/
theorem onlyCalls_checkFlags {P : Call → Prop} (hprint : ∀ format args, P (.print format args))
    {value : DWORD} {flags : List (DWORD × String)} : OnlyCalls P (checkFlags value flags) := by
  induction flags with
  | nil => trivial
  | cons flag flags ih =>
      refine OnlyCalls.bind (OnlyCalls.onlyIf fun _ => ?_) fun _ => ih
      exact onlyCalls_perform.mpr (hprint _ _)

theorem silent_checkFlags {value : DWORD} {flags : List (DWORD × String)} :
    OnlyCalls Call.Silent (checkFlags value flags) := onlyCalls_checkFlags fun _ _ => trivial

theorem silent_closeHandle {h : HANDLE} : OnlyCalls Call.Silent (closeHandle h) :=
  OnlyCalls.bind (onlyCalls_perform.mpr rfl) fun _ => trivial

/-! ## A concrete mount

The mount of `D:` the closed statements run on.  Its dispositions are mapped as the
kernel numbers them.  A descriptor there is four bytes, one for each part, and a merge
takes the selected parts from the new descriptor.  A DACL of 255 is a NULL one, and such a
descriptor has no text. -/

/-- The descriptor whose four parts are all `b`. -/
def SecurityDescriptor.tag (b : Byte) : SecurityDescriptor :=
  { bytes := [b, b, b, b]
    nonempty := List.cons_ne_nil _ _
    fits := show 4 < 0x100000000 from by decide }

/-- The parts selected come from the first list, the others from the second. -/
def selectParts (parts : DWORD) : List DWORD → List Byte → List Byte → List Byte
  | flag :: flags, b :: bs, c :: cs =>
      (if parts &&& flag ≠ 0 then b else c) :: selectParts parts flags bs cs
  | _, _, cs => cs

theorem selectParts_length {parts : DWORD} {flags : List DWORD} {bs cs : List Byte} :
    (selectParts parts flags bs cs).length = cs.length := by
  induction flags, bs, cs using selectParts.induct with
  | case1 flag flags b bs c cs ih => simp [selectParts, ih]
  | case2 flags bs cs h => simp [selectParts]

/-- The merge of the sample mount. -/
def SecurityDescriptor.merge (parts : DWORD) (modification current : SecurityDescriptor) :
    SecurityDescriptor where
  bytes := selectParts parts
    [OWNER_SECURITY_INFORMATION, GROUP_SECURITY_INFORMATION, DACL_SECURITY_INFORMATION,
      SACL_SECURITY_INFORMATION]
    modification.bytes current.bytes
  nonempty := by
    rw [← List.length_pos_iff, selectParts_length]
    exact List.length_pos_iff.mpr current.nonempty
  fits := by
    rw [selectParts_length]
    exact current.fits

def Env.plain (debugMode : Bool) : Env where
  globals := { rootDirectory := wide ['D', ':'], mountPoint := wide ['M', ':'] }
  debugMode := debugMode
  ntStatusFromWin32 e :=
    if e = 0 then STATUS_SUCCESS
    else if e = ERROR_ALREADY_EXISTS then STATUS_OBJECT_NAME_COLLISION
    else STATUS_ACCESS_DENIED
  ntStatus_success := rfl
  ntStatus_error e he := by
    rw [if_neg he]
    split <;> decide
  mapKernelToUser access attributes _ disposition :=
    { genericDesiredAccess := access
      fileAttributesAndFlags := attributes
      creationDisposition :=
        if disposition = 1 then OPEN_EXISTING
        else if disposition = 2 then CREATE_NEW
        else if disposition = 3 then OPEN_ALWAYS
        else if disposition = 4 then TRUNCATE_EXISTING
        else CREATE_ALWAYS }
  defaultSD := .tag 0
  convertSD sd := if sd.bytes[2]? = some 255 then none else some (wide ['D', ':']).units
  nullDacl sd := sd.bytes[2]? = some 255
  merge := SecurityDescriptor.merge

/-- There every error is mapped to a failure. -/
theorem Env.plain_failure {debugMode : Bool} {e : DWORD} (he : e ≠ 0) :
    Failure ((Env.plain debugMode).ntStatusFromWin32 e) := by
  show Failure (if e = 0 then STATUS_SUCCESS
    else if e = ERROR_ALREADY_EXISTS then STATUS_OBJECT_NAME_COLLISION else STATUS_ACCESS_DENIED)
  rw [if_neg he]
  split <;> decide

/-- A world just started, with the given store. -/
def World.start (nodes : Nodes) : World Unit :=
  { lastError := 0, nodes := nodes, writeCounts := fun _ => none, os := () }

/-- An empty store. -/
def Nodes.none : Nodes := Nodes.empty fun _ => { isDirectory := false, attributes := 0, fileName := [] }

end SeamlessSmb
