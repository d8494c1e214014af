/-
# `FileOps.Coherence` — what is kept, and the changes to the file

`bzvolfile` may change at any time, through the mount or from outside.  What the callbacks keep
of it is given out as if it were the file; the watching thread is to throw it away.

A history is made of six kinds of steps: a read, a question for the information, a request that
may change the file, a change from outside, the opening and closing of handles by others, and a
turn of the watching thread, which processes a completion that covers the changes up to some
point.  Beside the world stand counts that no code reads: of the changes, of those covered, and of
how many had taken place when the content was read, and when the information was.

| | |
| :-- | :-- |
| `CacheSystem.Step` | one step of a history |
| `Delivered` | what the system promises of a completion |
| `Coherent` | once the changes are covered nothing older is kept, and the answers are those of the file |
| `Unchanged` | the file changes only while nothing is kept, and the requests are ones the code is up to |

**Proved here:** histories of such steps are coherent (`coherent_along`).  A change that finds
content kept is never made good, whatever is delivered (`outdated_along`).
-/
import SeamlessSmb.Cache
import SeamlessSmb.Lib.History
import SeamlessSmb.FileOps.CacheFrame

namespace SeamlessSmb

open Calls History

/-! ## The system -/

/-- The world the callbacks share, the buffer of the watching thread, and the counts. -/
structure CacheSystem where
  world : World Backing
  buffer : Chain
  changes : Nat := 0
  covered : Nat := 0
  dataAt : Nat := 0
  infoAt : Nat := 0

inductive CacheSystem.Action
  | read (fileName : WString) (bufferLength : DWORD) (offset : BitVec 64) (info : DokanFileInfo)
      (r : ReadFileResult)
  | getFileInformation (fileName : WString) (information : ByHandleFileInformation)
      (info : DokanFileInfo) (r : FileInformationResult)
  | request (info : DokanFileInfo) (q : Request) (status : NTSTATUS) (changed : Option Backing)
  | change (backing : Backing)
  | handles (backing : Backing)
  | completion (c : Completion) (upTo : Nat)

/-- All records but the last have an offset to the next. -/
def Linked : Chain → Prop
  | [] => False
  | [event] => event.nextEntryOffset = 0
  | event :: rest => event.nextEntryOffset ≠ 0 ∧ Linked rest

/-- `bzvolfile` and its directory, as records name them. -/
def recordNames : List WString := [bzvolfile.tail, wide ['.', 'b', 'z', 'v', 'o', 'l']]

namespace CacheSystem

/-- What the system promises of a completion: the records are linked and have relative names, and
one names the file if it covers a change; or records were dropped. -/
structure Delivered (s : CacheSystem) (c : Completion) (upTo : Nat) : Prop where
  covered : s.covered ≤ upTo
  past : upTo ≤ s.changes
  linked : ∀ chain, c = .records chain → Linked chain
  relative : ∀ chain, c = .records chain → ∀ event ∈ chain, Relative event.fileName
  named : ∀ chain, c = .records chain → s.covered < upTo → ∃ event ∈ chain, event.fileName ∈ recordNames

/-- The world a callback starts in: the last error is that of its thread. -/
def onThread (s : CacheSystem) (lastError : DWORD) : World Backing := { s.world with lastError := lastError }

/-- One step.  A callback that finds nothing kept and keeps something has read it now.  Whether a
request changes the file, and what a change leaves of it, is left open. -/
def Step (env : Env) (s : CacheSystem) : CacheSystem.Action → CacheSystem → Prop
  | .read fileName bufferLength offset info r, s' =>
      ∃ lastError tr w',
        Run (step env (underPath env)) (mirrorReadFile env fileName bufferLength offset info)
          (s.onThread lastError) tr r w' ∧
        s' = { s with
          world := w'
          dataAt := if s.world.cache.bzvolDataLength = 0 then s.changes else s.dataAt }
  | .getFileInformation fileName information info r, s' =>
      ∃ lastError tr w',
        Run (step env (underPath env)) (mirrorGetFileInformation env fileName information info)
          (s.onThread lastError) tr r w' ∧
        s' = { s with
          world := w'
          infoAt := if s.world.cache.bzvolInfoSet = true then s.infoAt else s.changes }
  | .request info q status none, s' =>
      ∃ lastError tr w',
        Run (step env (underPath env)) (q.program env info) (s.onThread lastError) tr status w' ∧
        s' = { s with world := w' }
  | .request info q status (some backing), s' =>
      ∃ lastError tr w',
        Run (step env (underPath env)) (q.program env info) (s.onThread lastError) tr status w' ∧
        s' = { s with world := { w' with os := backing }, changes := s.changes + 1 }
  | .change backing, s' => s' = { s with world := { s.world with os := backing }, changes := s.changes + 1 }
  | .handles backing, s' =>
      backing.data = s.world.os.data ∧ s' = { s with world := { s.world with os := backing } }
  | .completion c upTo, s' =>
      s.Delivered c upTo ∧
        s' = { s with
          world := { s.world with cache := (s.world.cache.monitorDirectoryChanges s.buffer c).1 }
          buffer := (s.world.cache.monitorDirectoryChanges s.buffer c).2
          covered := upTo }

/-- At the start nothing is kept, and the buffer is as it was allocated. -/
def start (w : World Backing) (buffer : Chain) : CacheSystem where
  world := { w with cache := {} }
  buffer := buffer

/-- Nothing is kept of the file. -/
def Bare (s : CacheSystem) : Prop :=
  s.world.cache.bzvolDataLength = 0 ∧ s.world.cache.bzvolInfoSet = false

/-- The completion that covers the last change was processed. -/
def Covered (s : CacheSystem) : Prop := s.covered = s.changes

/-- What is kept was read after the last change. -/
structure Fresh (s : CacheSystem) : Prop where
  content : s.world.cache.bzvolDataLength ≠ 0 → s.dataAt = s.changes
  information : s.world.cache.bzvolInfoSet = true → s.infoAt = s.changes

end CacheSystem

/-- The answer of a callback about `bzvolfile` is that of the file. -/
def CacheSystem.Action.Current (data : Option FileData) : CacheSystem.Action → Prop
  | .read fileName bufferLength offset _ r => fileName = bzvolfile → ReadsBack data bufferLength offset r
  | .getFileInformation fileName _ _ r => fileName = bzvolfile → Tells data r
  | _ => True

/-- Once the changes are covered nothing from before is kept, and what is asked then is answered
from the file. -/
def Coherent (s : CacheSystem) (a : CacheSystem.Action) (s' : CacheSystem) : Prop :=
  (s'.Covered → s'.Fresh) ∧ (s.Covered → a.Current s.world.os.data)

/-- The file changes only while nothing is kept of it, and the requests are ones the code is up
to. -/
def Unchanged (s : CacheSystem) : CacheSystem.Action → CacheSystem → Prop
  | .read fileName bufferLength offset info _, _ =>
      fileName = bzvolfile → Readable s.world bufferLength offset info
  | .getFileInformation fileName _ info _, _ => fileName = bzvolfile → Askable s.world info
  | .request _ _ _ (some _), _ | .change _, _ => s.Bare
  | _, _ => True

/-! ## One step -/

/-- What is kept is the file, and was read after the last change. -/
structure UpToDate (s : CacheSystem) : Prop where
  holds : Holds s.world.cache s.world.os.data
  fresh : s.Fresh

section

variable {env : Env} {s s' : CacheSystem} {a : CacheSystem.Action}
  {rest : List (CacheSystem.Action × CacheSystem)}

theorem UpToDate.of_bare (h : s.Bare) : UpToDate s :=
  ⟨⟨fun hlength => absurd h.1 hlength, fun hset => absurd hset (Bool.eq_false_iff.mp h.2)⟩,
    ⟨fun hlength => absurd h.1 hlength, fun hset => absurd hset (Bool.eq_false_iff.mp h.2)⟩⟩

/-- A step that leaves the cache, the file and the counts. -/
theorem UpToDate.of_same (h : UpToDate s) (hcache : s'.world.cache = s.world.cache)
    (hdata : s'.world.os.data = s.world.os.data) (hchanges : s'.changes = s.changes)
    (hdataAt : s.world.cache.bzvolDataLength ≠ 0 → s'.dataAt = s.dataAt)
    (hinfoAt : s.world.cache.bzvolInfoSet = true → s'.infoAt = s.infoAt) : UpToDate s' := by
  refine ⟨?_, ?_, ?_⟩
  · rw [hcache, hdata]
    exact h.holds
  · rw [hcache, hchanges]
    exact fun hlength => (hdataAt hlength).trans (h.fresh.content hlength)
  · rw [hcache, hchanges]
    exact fun hset => (hinfoAt hset).trans (h.fresh.information hset)

/-- What a step is to show, from the invariant after it. -/
theorem UpToDate.coherent (h' : UpToDate s') (hanswer : a.Current s.world.os.data) :
    Coherent s a s' ∧ UpToDate s' := ⟨⟨fun _ => h'.fresh, fun _ => hanswer⟩, h'⟩

theorem step_read {fileName : WString} {bufferLength : DWORD} {offset : BitVec 64} {info : DokanFileInfo}
    {r : ReadFileResult} (hs : UpToDate s) (h : s.Step env (.read fileName bufferLength offset info r) s')
    (hq : fileName = bzvolfile → Readable s.world bufferLength offset info) :
    Coherent s (.read fileName bufferLength offset info r) s' ∧ UpToDate s' := by
  obtain ⟨lastError, tr, w', hrun, rfl⟩ := h
  have hdataAt : s.world.cache.bzvolDataLength ≠ 0 →
      (if s.world.cache.bzvolDataLength = 0 then s.changes else s.dataAt) = s.dataAt :=
    fun hlength => if_neg hlength
  by_cases hname : fileName = bzvolfile
  · subst hname
    have hholds : Holds (s.onThread lastError).cache (s.onThread lastError).os.data := hs.holds
    obtain ⟨hdata, hcache, hanswer⟩ := sat_read hholds ((hq rfl).onThread lastError) tr r w' hrun
    refine UpToDate.coherent ?_ fun _ => hanswer
    cases hcache with
    | inl hsame => exact hs.of_same hsame hdata rfl hdataAt fun _ => rfl
    | inr hfilled =>
        obtain ⟨hempty, d, hd, hsmall, hfilled⟩ := hfilled
        have hholds := hs.holds.filled hd hsmall
        refine ⟨?_, fun _ => if_pos hempty, ?_⟩
        · rw [hfilled, hdata]
          exact hholds
        · rw [hfilled]
          exact hs.fresh.information
  · have hkept := sat_kept (read_other hname) tr r w' hrun
    refine UpToDate.coherent ?_ fun h => absurd h hname
    exact hs.of_same hkept.cache hkept.data rfl hdataAt fun _ => rfl

theorem step_getFileInformation {fileName : WString} {information : ByHandleFileInformation}
    {info : DokanFileInfo} {r : FileInformationResult} (hs : UpToDate s)
    (h : s.Step env (.getFileInformation fileName information info r) s')
    (hq : fileName = bzvolfile → Askable s.world info) :
    Coherent s (.getFileInformation fileName information info r) s' ∧ UpToDate s' := by
  obtain ⟨lastError, tr, w', hrun, rfl⟩ := h
  have hinfoAt : s.world.cache.bzvolInfoSet = true →
      (if s.world.cache.bzvolInfoSet = true then s.infoAt else s.changes) = s.infoAt :=
    fun hset => if_pos hset
  by_cases hname : fileName = bzvolfile
  · subst hname
    have hholds : Holds (s.onThread lastError).cache (s.onThread lastError).os.data := hs.holds
    obtain ⟨hdata, hcache, hanswer⟩ := sat_getFileInformation hholds (hq rfl) tr r w' hrun
    refine UpToDate.coherent ?_ fun _ => hanswer
    cases hcache with
    | inl hsame => exact hs.of_same hsame hdata rfl (fun _ => rfl) hinfoAt
    | inr hstored =>
        obtain ⟨hunset, d, i, hd, hshown, hstored⟩ := hstored
        refine ⟨?_, ?_, fun _ => if_neg (Bool.eq_false_iff.mp hunset)⟩
        · rw [hstored, hdata]
          exact ⟨hs.holds.content, fun _ => ⟨d, hd, hshown⟩⟩
        · rw [hstored]
          exact hs.fresh.content
  · have hkept := sat_kept (getFileInformation_other hname) tr r w' hrun
    refine UpToDate.coherent ?_ fun h => absurd h hname
    exact hs.of_same hkept.cache hkept.data rfl (fun _ => rfl) hinfoAt

theorem step_completion {c : Completion} {upTo : Nat} (hs : UpToDate s)
    (h : s.Step env (.completion c upTo) s') : Coherent s (.completion c upTo) s' ∧ UpToDate s' := by
  obtain ⟨-, rfl⟩ := h
  refine UpToDate.coherent ?_ trivial
  cases monitor_keeps_or_clears s.world.cache s.buffer c with
  | inl hkeeps => exact hs.of_same hkeeps rfl rfl (fun _ => rfl) fun _ => rfl
  | inr hclears =>
      refine UpToDate.of_bare ?_
      unfold CacheSystem.Bare
      rw [hclears]
      exact ⟨rfl, rfl⟩

/-- **One step** that meets the condition keeps what is kept up to date. -/
theorem step_upToDate (hs : UpToDate s) (h : s.Step env a s') (hq : Unchanged s a s') :
    Coherent s a s' ∧ UpToDate s' := by
  cases a with
  | read fileName bufferLength offset info r => exact step_read hs h hq
  | getFileInformation fileName information info r => exact step_getFileInformation hs h hq
  | completion c upTo => exact step_completion hs h
  | change backing =>
      obtain rfl := h
      exact UpToDate.coherent (UpToDate.of_bare hq) trivial
  | request info q status changed =>
      cases changed with
      | none =>
          obtain ⟨lastError, tr, w', hrun, rfl⟩ := h
          have hkept := sat_kept request_keeps tr status w' hrun
          exact UpToDate.coherent
            (hs.of_same hkept.cache hkept.data rfl (fun _ => rfl) fun _ => rfl) trivial
      | some backing =>
          obtain ⟨lastError, tr, w', hrun, rfl⟩ := h
          have hcache : w'.cache = s.world.cache := (sat_kept request_keeps tr status w' hrun).cache
          refine UpToDate.coherent (UpToDate.of_bare ?_) trivial
          unfold CacheSystem.Bare
          rw [hcache]
          exact hq
  | handles backing =>
      obtain ⟨hdata, rfl⟩ := h
      exact UpToDate.coherent (hs.of_same rfl hdata rfl (fun _ => rfl) fun _ => rfl) trivial

/-! ## A file that is read -/

/-- A read of the whole file. -/
def whole (d : FileData) : ReadFileResult where
  status := STATUS_SUCCESS
  buffer := d.content
  readLength := some (BitVec.ofNat 32 d.content.length)

theorem Backing.On.unique {b : Backing} {h : HANDLE} {d d' : FileData} (hd : b.On h d) (hd' : b.On h d') :
    d = d' := Option.some.inj (hd.data.symm.trans hd'.data)

theorem run_underPath {α : Type} {w w' : World Backing} {c : Win32Call} {r : Outcome c.Value}
    {f : Outcome c.Value → Op α} {tr : Trace} {x : α} (hallowed : c.Allowed env r)
    (hallows : w.os.Allows env c r)
    (h : Run (step env (underPath env)) (f r)
      { w with lastError := r.lastError, os := w.os.after env c r } tr x w') :
    Run (step env (underPath env)) (win32 c >>= f) w (⟨.win32 c, r⟩ :: tr) x w' :=
  .call ⟨hallowed, _, ⟨hallows, rfl⟩, rfl⟩ h

theorem exists_run_fillCache (env : Env) {w : World Backing} {handle : HANDLE}
    (bufferLength readLength : DWORD) {d : FileData} (hon : w.os.On handle d)
    (hsmall : d.content.length < 0x100000000) :
    ∃ tr w',
      Run (step env (underPath env)) (fillCache env handle false bufferLength readLength) w tr none w' ∧
      w'.cache = filled w.cache d := by
  have hsize : (BitVec.ofNat 64 d.content.length).toNat = d.content.length := by
    rw [BitVec.toNat_ofNat]
    omega
  -- nothing fails, and the memory happens to hold the content already
  refine ⟨_, _, run_underPath (c := .setFilePointer handle) (r := .ok () 0) trivial trivial
    (run_underPath (c := .getFileSizeEx handle) (r := .ok (BitVec.ofNat 64 d.content.length) 0) trivial
      (fun d' hd' => ?_) (.call (r := ()) ⟨d.content, hsize.symm, rfl⟩
        (run_underPath (c := .readFile handle _ none) (r := .ok d.content 0) trivial (fun d' hd' => ?_)
          (.call (r := ()) rfl .done)))), ?_⟩
  · rw [hon.unique hd']
  · have hpointer : (Function.update w.os.pointer handle 0) handle = 0 := Function.update_self ..
    show d.content = (d'.content.drop ((Function.update w.os.pointer handle 0) handle)).take _
    rw [← hon.unique hd', hpointer, List.drop_zero, BitVec.toNat_setWidth, hsize]
    exact (List.take_of_length_le (by omega)).symm
  · exact filled_of_stored rfl

/-- A read through a handle on the file can succeed, and fill the cache. -/
theorem exists_run_fill (bufferLength : DWORD) {w : World Backing} {handle : HANDLE} {d : FileData}
    {path : WString} (hpath : IsPath env path) (hopen : ¬ (handle = 0 ∨ handle = INVALID_HANDLE_VALUE))
    (hon : w.os.On handle d) (hempty : w.cache.bzvolDataLength = 0)
    (hlength : d.content.length ≤ bufferLength.toNat) :
    ∃ tr w',
      Run (step env (underPath env)) (mirrorReadFile env bzvolfile bufferLength 0 { context := handle })
        w tr (whole d) w' ∧ w'.cache = filled w.cache d := by
  have hsmall : d.content.length < 0x100000000 := by omega
  have hread : w.os.Allows env (.readFile handle bufferLength (some 0)) (.ok d.content 0) := by
    intro d' hd'
    rw [← hon.unique hd']
    exact (List.take_of_length_le hlength).symm
  let w₁ : World Backing :=
    { w with lastError := 0, os := w.os.after env (.readFile handle bufferLength (some 0)) (.ok d.content 0) }
  have hon₁ : w₁.os.On handle d := hon
  obtain ⟨tr, w', hfill, hcache⟩ :=
    exists_run_fillCache env bufferLength (BitVec.ofNat 32 d.content.length) hon₁ hsmall
  have hreopen : Run (step env (underPath env))
      (reopen env (pure path) GENERIC_READ FILE_SHARE_READ (pure ()) { context := handle }) w []
      (.ok (handle, false)) w := Run.ite_neg hopen .done
  have hthrough : Run (step env (underPath env))
      (readThrough env bzvolfile path bufferLength 0 { context := handle }) w
      (⟨.win32 (.readFile handle bufferLength (some 0)), .ok d.content 0⟩ :: ⟨.readCache, w.cache⟩ ::
        (tr ++ [])) (whole d) w' := by
    refine run_bind.mpr ⟨[], _, w, _, rfl, hreopen, ?_⟩
    refine run_underPath (c := .readFile handle bufferLength (some 0)) (r := .ok d.content 0) trivial hread ?_
    refine .call ⟨rfl, rfl⟩ ?_
    refine Run.ite_pos ⟨rfl, hempty⟩ ?_
    exact Run.bind hfill .done
  exact ⟨_, w', (run_filePathOf hpath).bind (.call ⟨rfl, rfl⟩
    (Run.ite_neg (fun h => h.2 hempty) hthrough)), hcache⟩

/-- What is in the cache can be read from it. -/
theorem exists_run_cached (bufferLength : DWORD) (info : DokanFileInfo) {w : World Backing} {d : FileData}
    {path : WString} (hpath : IsPath env path) (hcontent : w.cache.bzvolData = d.content)
    (hkept : w.cache.bzvolDataLength = BitVec.ofNat 32 d.content.length) (hne : d.content ≠ [])
    (hlength : d.content.length ≤ bufferLength.toNat) :
    ∃ tr,
      Run (step env (underPath env)) (mirrorReadFile env bzvolfile bufferLength 0 info) w tr (whole d) w := by
  have hcount : w.cache.bzvolDataLength.toNat = d.content.length := by
    rw [hkept, BitVec.toNat_ofNat]
    omega
  have hnonempty : w.cache.bzvolDataLength ≠ 0 := by
    intro h
    rw [h] at hcount
    exact hne (List.eq_nil_of_length_eq_zero hcount.symm)
  have hsize : (w.cache.bzvolDataLength.setWidth 64 - 0).toNat = d.content.length := by
    rw [show w.cache.bzvolDataLength.setWidth 64 - 0 = w.cache.bzvolDataLength.setWidth 64 from
      BitVec.sub_zero _, BitVec.toNat_setWidth, hcount]
    omega
  have hread : (w.cache.bzvolDataLength.setWidth 64 - 0).setWidth 32 =
      BitVec.ofNat 32 d.content.length := by
    rw [← BitVec.toNat_inj, BitVec.toNat_setWidth, hsize, BitVec.toNat_ofNat]
  have hcached : Run (step env (underPath env))
      (readCached 0 (w.cache.bzvolDataLength.setWidth 64 - 0)) w
      [⟨.copyCacheData 0 (w.cache.bzvolDataLength.setWidth 64 - 0).toNat, d.content⟩] (whole d) w := by
    unfold whole
    rw [← hread]
    refine .call ⟨⟨hsize.symm, [], ?_⟩, rfl⟩ .done
    rw [hsize, hcontent, List.append_nil]
    exact List.take_length.symm
  have hfits : w.cache.bzvolDataLength ≤ bufferLength := by
    rw [BitVec.le_def, hcount]
    exact hlength
  exact ⟨_, (run_filePathOf hpath).bind (.call ⟨rfl, rfl⟩ (Run.ite_pos ⟨rfl, hnonempty⟩
    (Run.ite_pos ⟨hfits, Int.natCast_nonneg _⟩ hcached)))⟩

/-- The file with some content, and a handle on it. -/
def bzvolWith (content : List Byte) : Backing where
  file := some { data := { content := content, information := {} }, handles := fun h => decide (h = 8) }
  healthy := true
  pointer := fun _ => 0

/-- Nothing has happened yet. -/
def bzvolStart : CacheSystem :=
  .start { lastError := 0, nodes := .none, writeCounts := fun _ => none, os := bzvolWith [60] } []

/-- A read of eight bytes from the beginning of the file. -/
def readBzvol (content : List Byte) : CacheSystem.Action :=
  .read bzvolfile 8 0 { context := 8 } (whole { content := content, information := {} })

theorem isPath_plain : IsPath (.plain false) (wide ['D', ':'] ++ bzvolfile) := by decide

theorem on_bzvolWith {s : CacheSystem} {b : Byte} (hos : s.world.os = bzvolWith [b]) :
    s.world.os.On 8 { content := [b], information := {} } := by
  rw [hos]
  exact ⟨_, rfl, rfl, rfl⟩

/-- A first read fills the cache. -/
theorem exists_firstRead {s : CacheSystem} {b : Byte} (hos : s.world.os = bzvolWith [b])
    (hcache : s.world.cache = {}) : ∃ w' : World Backing,
    s.Step (.plain false) (readBzvol [b]) { s with world := w', dataAt := s.changes } ∧
      w'.cache = filled {} { content := [b], information := {} } := by
  have hon : (s.onThread 0).os.On 8 { content := [b], information := {} } := on_bzvolWith hos
  have hempty : s.world.cache.bzvolDataLength = 0 := congrArg Cache.bzvolDataLength hcache
  obtain ⟨tr, w', hrun, hfilled⟩ :=
    exists_run_fill 8 isPath_plain (by decide) hon hempty (Nat.succ_le_succ (Nat.zero_le 7))
  refine ⟨w', ⟨0, tr, w', hrun, ?_⟩, hfilled.trans (congrArg (filled · _) hcache)⟩
  rw [if_pos hempty]

theorem readable_first {s : CacheSystem} {b : Byte} (hos : s.world.os = bzvolWith [b])
    (hcache : s.world.cache = {}) : Readable s.world 8 0 { context := 8 } := by
  have hempty : s.world.cache.bzvolDataLength = 0 := congrArg Cache.bzvolDataLength hcache
  have hhealthy : s.world.os.healthy = true := congrArg Backing.healthy hos
  have hsmall : ∀ d, s.world.os.data = some d → d.content.length < 0x100000000 := by
    rw [hos]
    rintro d ⟨⟩
    exact Nat.one_lt_two_pow (Nat.succ_ne_zero 31)
  exact ⟨fun _ => .inr ⟨_, on_bzvolWith hos⟩, fun _ => hhealthy, fun _ => hsmall, fun h => absurd hempty h,
    fun h => absurd hempty h⟩

/-- Later reads are answered from it. -/
theorem exists_cachedRead {s : CacheSystem} {b : Byte}
    (hcache : s.world.cache = filled {} { content := [b], information := {} }) :
    ∃ w' : World Backing, s.Step (.plain false) (readBzvol [b]) { s with world := w' } := by
  have hcontent : (s.onThread 0).cache.bzvolData = [b] := congrArg Cache.bzvolData hcache
  have hlength : s.world.cache.bzvolDataLength = 1 := congrArg Cache.bzvolDataLength hcache
  obtain ⟨tr, hrun⟩ := exists_run_cached (d := { content := [b], information := {} }) 8 { context := 8 }
    isPath_plain hcontent hlength (List.cons_ne_nil _ _) (Nat.succ_le_succ (Nat.zero_le 7))
  refine ⟨s.onThread 0, 0, tr, _, hrun, ?_⟩
  rw [if_neg (by rw [hlength]; decide)]

theorem readable_cached {s : CacheSystem} {b : Byte}
    (hcache : s.world.cache = filled {} { content := [b], information := {} }) :
    Readable s.world 8 0 { context := 8 } := by
  have hlength : s.world.cache.bzvolDataLength = 1 := congrArg Cache.bzvolDataLength hcache
  have hnonempty : s.world.cache.bzvolDataLength ≠ 0 := by
    rw [hlength]
    decide
  refine ⟨fun h => ?_, fun h => absurd h hnonempty, fun h => absurd h hnonempty, fun _ => ?_,
    fun _ => .inl ?_⟩
  · cases h with
    | inl hempty => exact absurd hempty hnonempty
    | inr hbehind => exact absurd hbehind (Int.not_lt.mpr (Int.natCast_nonneg _))
  · decide
  · rw [hlength]
    decide

/-- The record of a change of the file, as the system names it. -/
def modified : Chain := [⟨0, FILE_ACTION_MODIFIED, bzvolfile.tail⟩]

theorem modified_relative : ∀ event ∈ modified, Relative event.fileName := by decide

theorem delivered_modified {s : CacheSystem} (hcovered : s.covered = 0) (hchanges : s.changes = 1) :
    s.Delivered (.records modified) 1 := by
  refine ⟨?_, Nat.le_of_eq hchanges.symm, ?_, ?_, ?_⟩
  · rw [hcovered]
    exact Nat.zero_le 1
  · rintro _ ⟨⟩
    rfl
  · rintro _ ⟨⟩
    exact modified_relative
  · rintro _ ⟨⟩ -
    exact ⟨_, List.mem_singleton_self _, List.mem_cons_self⟩

/-- The content has changed. -/
def CacheSystem.rewritten (s : CacheSystem) (content : List Byte) : CacheSystem :=
  { s with world := { s.world with os := bzvolWith content }, changes := s.changes + 1 }

/-- The record of the first change was processed. -/
def CacheSystem.notified (s : CacheSystem) : CacheSystem :=
  { s with
    world := { s.world with cache := (s.world.cache.monitorDirectoryChanges s.buffer (.records modified)).1 }
    buffer := modified
    covered := 1 }

theorem cache_notified (s : CacheSystem) : s.notified.world.cache = s.world.cache :=
  Cache.notifyAll_relative modified_relative

/-! ## Histories -/

/-- **Coherence.**  While the file changes only with nothing kept of it, once the changes are
covered nothing older is kept, and what is asked is answered from the file. -/
theorem coherent_along {w : World Backing} {buffer : Chain}
    (h : Path (CacheSystem.Step env) (.start w buffer) rest)
    (hq : Along Unchanged (.start w buffer) rest) : Along Coherent (.start w buffer) rest := by
  have hstart : UpToDate (.start w buffer) := UpToDate.of_bare ⟨rfl, rfl⟩
  exact h.along (fun _ _ _ => step_upToDate) hstart hq

/-- The file changes, the record of the change is processed, and the file is read twice. -/
theorem coherent_along_rewritten : ∃ s₃ s₄ : CacheSystem,
    Path (CacheSystem.Step (.plain false)) bzvolStart [(.change (bzvolWith [61]), bzvolStart.rewritten [61]),
      (.completion (.records modified) 1, (bzvolStart.rewritten [61]).notified),
      (readBzvol [61], s₃), (readBzvol [61], s₄)] ∧
    Along Coherent bzvolStart [(.change (bzvolWith [61]), bzvolStart.rewritten [61]),
      (.completion (.records modified) 1, (bzvolStart.rewritten [61]).notified),
      (readBzvol [61], s₃), (readBzvol [61], s₄)] := by
  let s₂ := (bzvolStart.rewritten [61]).notified
  have hcache : s₂.world.cache = {} := cache_notified _
  obtain ⟨w₃, hread₃, hcache₃⟩ := exists_firstRead (s := s₂) rfl hcache
  obtain ⟨w₄, hread₄⟩ := exists_cachedRead (s := { s₂ with world := w₃, dataAt := s₂.changes }) hcache₃
  have hpath : Path (CacheSystem.Step (.plain false)) bzvolStart
      ((.change (bzvolWith [61]), bzvolStart.rewritten [61]) :: (.completion (.records modified) 1, s₂) :: _) :=
    .cons rfl (.cons ⟨delivered_modified rfl rfl, rfl⟩ (.cons hread₃ (.cons hread₄ .nil)))
  exact ⟨_, _, hpath, coherent_along hpath ⟨⟨rfl, rfl⟩, trivial, fun _ => readable_first rfl hcache,
    fun _ => readable_cached hcache₃, trivial⟩⟩

/-- The file changes after it was read, and the record of the change is processed; the next read
returns what was there before. -/
theorem not_coherent_along : ¬ ∀ (env : Env) (w : World Backing) (buffer : Chain)
    (rest : List (CacheSystem.Action × CacheSystem)), Path (CacheSystem.Step env) (.start w buffer) rest →
      Along Coherent (.start w buffer) rest := by
  intro hclaim
  obtain ⟨w₁, hread₁, hcache₁⟩ := exists_firstRead (s := bzvolStart) rfl rfl
  let s₁ : CacheSystem := { bzvolStart with world := w₁ }
  let s₃ := (s₁.rewritten [61]).notified
  have hkept : s₃.world.cache = w₁.cache := cache_notified _
  obtain ⟨w₄, hread₄⟩ := exists_cachedRead (s := s₃) (hkept.trans hcache₁)
  have hpath : Path (CacheSystem.Step (.plain false)) bzvolStart [(readBzvol [60], s₁),
      (.change (bzvolWith [61]), s₁.rewritten [61]), (.completion (.records modified) 1, s₃),
      (readBzvol [60], { s₃ with world := w₄ })] :=
    .cons hread₁ (.cons rfl (.cons ⟨delivered_modified rfl rfl, rfl⟩ (.cons hread₄ .nil)))
  obtain ⟨-, -, -, hlast, -⟩ := hclaim _ _ _ _ hpath
  obtain ⟨d, hd, hbuffer, -⟩ := hlast.2 rfl rfl rfl
  cases hd
  exact absurd hbuffer (by decide)

/-- Content is kept from before a change, and the buffer holds records. -/
structure Outdated (s : CacheSystem) : Prop where
  content : s.world.cache.bzvolDataLength ≠ 0
  older : s.dataAt < s.changes
  relative : ∀ event ∈ s.buffer, Relative event.fileName

theorem Outdated.not_fresh (h : Outdated s) : ¬ s.Fresh := fun hfresh =>
  Nat.ne_of_lt h.older (hfresh.content h.content)

/-- What a change makes of content that is kept. -/
theorem UpToDate.outdated {backing : Backing} (hs : UpToDate s)
    (hlength : s.world.cache.bzvolDataLength ≠ 0) (hbuffer : ∀ event ∈ s.buffer, Relative event.fileName)
    (h : s.Step env (.change backing) s') : Outdated s' := by
  obtain rfl := h
  exact ⟨hlength, Nat.lt_succ_of_le (Nat.le_of_eq (hs.fresh.content hlength)), hbuffer⟩

theorem step_outdated (hs : Outdated s) (h : s.Step env a s') : Outdated s' := by
  cases a with
  | read fileName bufferLength offset info r =>
      obtain ⟨lastError, tr, w', hrun, rfl⟩ := h
      have hlength : (s.onThread lastError).cache.bzvolDataLength ≠ 0 := hs.content
      have hcache := sat_read_stays hlength tr r w' hrun
      refine ⟨?_, ?_, hs.relative⟩
      · rw [hcache]
        exact hlength
      · rw [if_neg hs.content]
        exact hs.older
  | getFileInformation fileName information info r =>
      obtain ⟨lastError, tr, w', hrun, rfl⟩ := h
      have hlength := sat_getFileInformation_stays tr r w' hrun
      refine ⟨?_, hs.older, hs.relative⟩
      rw [hlength]
      exact hs.content
  | request info q status changed =>
      cases changed with
      | none =>
          obtain ⟨lastError, tr, w', hrun, rfl⟩ := h
          have hcache : w'.cache = s.world.cache := (sat_kept request_keeps tr status w' hrun).cache
          refine ⟨?_, hs.older, hs.relative⟩
          rw [hcache]
          exact hs.content
      | some backing =>
          obtain ⟨lastError, tr, w', hrun, rfl⟩ := h
          have hcache : w'.cache = s.world.cache := (sat_kept request_keeps tr status w' hrun).cache
          refine ⟨?_, Nat.lt_succ_of_lt hs.older, hs.relative⟩
          rw [hcache]
          exact hs.content
  | change backing =>
      obtain rfl := h
      exact ⟨hs.content, Nat.lt_succ_of_lt hs.older, hs.relative⟩
  | handles backing =>
      obtain ⟨-, rfl⟩ := h
      exact ⟨hs.content, hs.older, hs.relative⟩
  | completion c upTo =>
      obtain ⟨hdelivered, rfl⟩ := h
      obtain ⟨hcache, hbuffer⟩ := @monitor_relative s.world.cache _ _ hs.relative hdelivered.relative
      refine ⟨?_, hs.older, hbuffer⟩
      rw [hcache]
      exact hs.content

/-- **Once outdated, always outdated.**  No completion throws the content away, and no read
reads it again. -/
theorem outdated_along (hs : Outdated s) (h : Path (CacheSystem.Step env) s rest) :
    Along (fun _ _ s' => ¬ s'.Fresh) s rest :=
  h.along_all (fun _ _ _ hs h => ⟨(step_outdated hs h).not_fresh, step_outdated hs h⟩) hs

end

end SeamlessSmb
