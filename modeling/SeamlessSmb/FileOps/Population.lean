/-
# `FileOps.Population` — how the cache is filled

The first read of `bzvolfile` is followed by a second one, of the whole file, into memory of
the size `GetFileSizeEx` reports.  The length is set, and the memory allocated, before that
read; nothing is taken back if it fails or falls short, and the length has 32 bits.

A history is made of reads, of whatever file, and of turns of the watching thread that throw
everything away.  Beside the world stands what no code sees: the bytes that were read into the
memory, if any were.

| | |
| :-- | :-- |
| `anyOutcome` | the platform on which every call may fail, or deliver anything |
| `Keeping.Sound` | if there is a length, the memory holds so many bytes, all of them read |
| `Served` | what a read copies out of the memory was read into it |
| `Keeping.Careful` | the sizes are met by the bytes that were read; what is copied ends in time |

**Proved here:** along every history the cache is sound and what is served was read, exactly
if every step was careful (`sound_along_iff`).
-/
import SeamlessSmb.Cache
import SeamlessSmb.Lib.History
import SeamlessSmb.FileOps.CachedRead

namespace SeamlessSmb

open Calls History

/-! ## What a trace shows -/

/-- The size a `GetFileSizeEx` delivered. -/
def sizeOf? : Event Call Answer → Option (BitVec 64)
  | ⟨.win32 (.getFileSizeEx _), .ok size _⟩ => some size
  | _ => none

/-- The bytes a `ReadFile` from the file pointer delivered. -/
def contentOf? : Event Call Answer → Option (List Byte)
  | ⟨.win32 (.readFile _ _ none), .ok bytes _⟩ => some bytes
  | _ => none

/-- What was copied out of the memory of the cache. -/
def copyOf? : Event Call Answer → Option (BitVec 64 × Nat × List Byte)
  | ⟨.copyCacheData offset count, bytes⟩ => some (offset, count, bytes)
  | _ => none

def sizes (tr : Trace) : List (BitVec 64) := tr.filterMap sizeOf?

def contents (tr : Trace) : List (List Byte) := tr.filterMap contentOf?

def copies (tr : Trace) : List (BitVec 64 × Nat × List Byte) := tr.filterMap copyOf?

/-- Every call may fail.  A read delivers no more than was asked for. -/
def anyOutcome (_ : Unit) : (c : Win32Call) → Outcome c.Value → Unit → Prop
  | .readFile _ length _, .ok bytes _, _ => bytes.length ≤ length.toNat
  | _, _, _ => True

/-! ## Histories -/

/-- The world, and what was read into the memory of its cache. -/
structure Keeping where
  world : World Unit
  read : Option (List Byte) := none

inductive Keeping.Action
  | read (q : ReadCall) (tr : Trace) (r : ReadFileResult)
  | reset

/-- What is in the memory after a callback: if it asked for the size, what it read then. -/
def readAfter (before : Option (List Byte)) (tr : Trace) : Option (List Byte) :=
  if sizes tr = [] then before else (contents tr).head?

namespace Keeping

/-- One step.  A callback brings the last error of its thread. -/
def Step (env : Env) (s : Keeping) : Keeping.Action → Keeping → Prop
  | .read q tr r, s' =>
      ∃ lastError w',
        Run (step env anyOutcome) (q.callback env) { s.world with lastError := lastError } tr r w' ∧
        s' = { world := w', read := readAfter s.read tr }
  | .reset, s' => s' = { world := { s.world with cache := s.world.cache.clear } }

/-- If there is a length, the memory holds so many bytes, all of them read at once. -/
def Sound (s : Keeping) : Prop :=
  s.world.cache.bzvolDataLength ≠ 0 → ∃ bytes, s.read = some bytes ∧
    s.world.cache.bzvolData = bytes ∧ bytes.length = s.world.cache.bzvolDataLength.toNat

end Keeping

/-- What is copied out of the memory was read into it. -/
def Served (s : Keeping) : Keeping.Action → Prop
  | .read _ tr _ => ∀ copy ∈ copies tr, ∃ bytes, s.read = some bytes ∧
      copy.2.2 = (bytes.drop copy.1.toNat).take copy.2.1
  | .reset => True

/-- The read is answered from the cache. -/
def FromCache (q : ReadCall) (cache : Cache) : Prop :=
  q.fileName = bzvolfile ∧ cache.bzvolDataLength ≠ 0 ∧ q.offset.toInt ≤ cache.bzvolDataLength.toNat

/-- A read that is answered from the cache, and asks for anything, does not start before the
memory, and ends within it or has a buffer that could hold all of it. -/
def Answerable (q : ReadCall) (cache : Cache) : Prop :=
  FromCache q cache → q.bufferLength = 0 ∨ 0 ≤ q.offset.toInt ∧
    (cache.bzvolDataLength.toNat ≤ q.bufferLength.toNat ∨
      q.offset.toNat + q.bufferLength.toNat ≤ cache.bzvolDataLength.toNat)

/-- A size has 32 bits, and so many bytes are read; or its lower half is no length. -/
def Populated (tr : Trace) : Prop :=
  ∀ size ∈ sizes tr, size.setWidth 32 = (0 : DWORD) ∨ ∃ bytes ∈ contents tr, bytes.length = size.toNat

/-- The step is one the code is up to. -/
def Keeping.Careful (s : Keeping) : Keeping.Action → Prop
  | .read q tr _ => Answerable q s.world.cache ∧ Populated tr
  | .reset => True

/-! ## What a read shows -/

/-- The calls that are looked at. -/
def Call.seen : Call → Bool
  | .copyCacheData .. | .win32 (.getFileSizeEx _) | .win32 (.readFile _ _ none) => true
  | _ => false

/-- What the second read shows, and what it leaves of the cache. -/
inductive Fills (cache : Cache) : Trace → Cache → Prop
  | nothing : Fills cache [] cache
  | unsized {handle : HANDLE} {e : Win32Error} :
      Fills cache [⟨.win32 (.getFileSizeEx handle), .fail e⟩] cache
  | unread {handle : HANDLE} {size : BitVec 64} {e : DWORD} {e' : Win32Error} {memory : List Byte} :
      memory.length = size.toNat →
      Fills cache
        [⟨.win32 (.getFileSizeEx handle), .ok size e⟩,
          ⟨.win32 (.readFile handle (size.setWidth 32) none), .fail e'⟩]
        { cache with bzvolDataLength := size.setWidth 32, bzvolData := memory }
  | read {handle : HANDLE} {size : BitVec 64} {e e' : DWORD} {memory bytes : List Byte} :
      memory.length = size.toNat → bytes.length ≤ (size.setWidth 32 : DWORD).toNat →
      Fills cache
        [⟨.win32 (.getFileSizeEx handle), .ok size e⟩,
          ⟨.win32 (.readFile handle (size.setWidth 32) none), .ok bytes e'⟩]
        { cache with
          bzvolDataLength := size.setWidth 32, bzvolData := bytes ++ memory.drop bytes.length }

/-- What an answer from the cache shows. -/
inductive Copies (q : ReadCall) (cache : Cache) : Trace → Cache → Prop
  | copy {bytes behind : List Byte} : bytes.length = (q.count cache.bzvolDataLength).toNat →
      bytes = ((cache.bzvolData ++ behind).drop q.offset.toNat).take
        (q.count cache.bzvolDataLength).toNat →
      Copies q cache [⟨.copyCacheData q.offset (q.count cache.bzvolDataLength).toNat, bytes⟩] cache

theorem sizeOf?_unseen {e : Event Call Answer} (h : e.call.seen = false) : sizeOf? e = none := by
  unfold sizeOf?
  split
  · cases h
  · rfl

theorem contentOf?_unseen {e : Event Call Answer} (h : e.call.seen = false) : contentOf? e = none := by
  unfold contentOf?
  split
  · cases h
  · rfl

theorem copyOf?_unseen {e : Event Call Answer} (h : e.call.seen = false) : copyOf? e = none := by
  unfold copyOf?
  split
  · cases h
  · rfl

/-- What is read off a trace is read off the calls that are looked at. -/
theorem filterMap_watched {α : Type} {f : Event Call Answer → Option α}
    (hf : ∀ e, e.call.seen = false → f e = none) (tr : Trace) :
    (watched Call.seen tr).filterMap f = tr.filterMap f := by
  unfold watched
  rw [List.filterMap_filter]
  congr 1
  funext e
  cases he : e.call.seen with
  | true => rfl
  | false => exact (hf e he).symm

theorem sizes_watched (tr : Trace) : sizes (watched Call.seen tr) = sizes tr :=
  filterMap_watched (fun _ => sizeOf?_unseen) tr

theorem contents_watched (tr : Trace) : contents (watched Call.seen tr) = contents tr :=
  filterMap_watched (fun _ => contentOf?_unseen) tr

theorem copies_watched (tr : Trace) : copies (watched Call.seen tr) = copies tr :=
  filterMap_watched (fun _ => copyOf?_unseen) tr

theorem readAfter_watched (before : Option (List Byte)) (tr : Trace) :
    readAfter before (watched Call.seen tr) = readAfter before tr := by
  unfold readAfter
  rw [sizes_watched, contents_watched]

theorem populated_watched (tr : Trace) : Populated (watched Call.seen tr) ↔ Populated tr := by
  unfold Populated
  rw [sizes_watched, contents_watched]

theorem served_watched (s : Keeping) (q : ReadCall) (tr : Trace) (r : ReadFileResult) :
    Served s (.read q (watched Call.seen tr) r) ↔ Served s (.read q tr r) := by
  unfold Served
  dsimp only
  rw [copies_watched]

section

variable {env : Env} {w : World Unit} {handle : HANDLE} {opened : Bool}

/-- A program none of whose calls is looked at, and that leaves the cache alone. -/
theorem watch_unseen_bind {α β : Type} {p : Op α} {f : α → Op β} {Q : Trace → β → World Unit → Prop}
    (hp : OnlyCalls (fun c => c.seen = false ∧ c.storesCache = false) p)
    (hf : ∀ a w', w'.cache = w.cache → Watch (step env anyOutcome) Call.seen (f a) w' Q) :
    Watch (step env anyOutcome) Call.seen (p >>= f) w Q := by
  have hcache : ∀ (w : World Unit) (c : Call) (r : Answer c) (w' : World Unit),
      (c.seen = false ∧ c.storesCache = false) → step env anyOutcome w c r w' → w'.cache = w.cache := by
    intro w c r w' hc h
    rcases step_aside h with ⟨x, rfl⟩ | ⟨-, hsame⟩
    · obtain ⟨-, o, -, rfl⟩ := h
      rfl
    · exact hsame hc.2
  refine watch_bind.mpr ((hp.sat World.cache hcache w).mono fun tr a w' h => ?_)
  have hnone : watched Call.seen tr = [] :=
    List.filter_eq_nil_iff.mpr fun e he => Bool.eq_false_iff.mp (h.1 e he).1
  rw [hnone]
  exact hf a w' h.2

/-- A call to the platform that is looked at leaves the cache alone. -/
theorem watch_win32_bind {β : Type} {c : Win32Call} {f : Outcome c.Value → Op β}
    {Q : Trace → β → World Unit → Prop} (hc : Call.seen (.win32 c) = true)
    (hf : ∀ r w', anyOutcome () c r () → w'.cache = w.cache →
      Watch (step env anyOutcome) Call.seen (f r) w' fun tr => Q (⟨.win32 c, r⟩ :: tr)) :
    Watch (step env anyOutcome) Call.seen (win32 c >>= f) w Q := by
  refine (watch_call hc).mpr fun r w' h => ?_
  obtain ⟨-, o, hany, rfl⟩ := h
  exact hf r _ hany rfl

theorem housekeeping_unseen : Housekeeping fun c => c.seen = false ∧ c.storesCache = false where
  getLastError := ⟨rfl, rfl⟩
  print := fun _ _ => ⟨rfl, rfl⟩
  closeHandle := fun _ => ⟨rfl, rfl⟩
  invalidParameter := ⟨rfl, rfl⟩

/-- **The second read.** -/
theorem watch_fillCache {bufferLength readLength : DWORD} :
    Watch (step env anyOutcome) Call.seen (fillCache env handle opened bufferLength readLength) w
      fun tr _ w' => Fills w.cache tr w'.cache := by
  refine watch_unseen_bind (onlyCalls_perform.mpr ⟨rfl, rfl⟩) fun r w₁ h₁ => ?_
  rw [← h₁]
  cases r with
  | fail e =>
      refine watch_unseen_bind housekeeping_unseen.onlyCalls_reportReread fun _ w₂ h₂ => watch_pure.mpr ?_
      rw [h₂]
      exact .nothing
  | ok u e =>
      refine watch_win32_bind rfl fun r w₂ _ h₂ => ?_
      rw [← h₂]
      cases r with
      | fail e =>
          refine watch_unseen_bind housekeeping_unseen.onlyCalls_reportReread fun _ w₃ h₃ => watch_pure.mpr ?_
          rw [h₃]
          exact .unsized
      | ok size e =>
          refine (watch_call_of_not rfl).mpr fun _ w₃ hw₃ => ?_
          obtain ⟨memory, hmemory, hw₃⟩ := hw₃
          refine watch_win32_bind rfl fun r w₄ hread h₄ => ?_
          rw [hw₃] at h₄
          cases r with
          | fail e' =>
              refine watch_unseen_bind housekeeping_unseen.onlyCalls_reportError fun _ w₅ h₅ =>
                watch_pure.mpr ?_
              rw [h₅, h₄]
              exact .unread hmemory
          | ok bytes e' =>
              refine (watch_call_of_not rfl).mpr fun _ w₅ hw₅ => watch_pure.mpr ?_
              rw [hw₅, h₄]
              exact .read hmemory hread

/-- A read that goes to the file fills the cache if it is the first of `bzvolfile`. -/
theorem watch_readThrough {fileName filePath : WString} {bufferLength : DWORD} {offset : BitVec 64}
    {info : DokanFileInfo} :
    Watch (step env anyOutcome) Call.seen
      (readThrough env fileName filePath bufferLength offset info) w fun tr _ w' =>
      Fills w.cache tr w'.cache := by
  have hnothing : ∀ {w' : World Unit} (_ : w'.cache = w.cache), Fills w.cache [] w'.cache := by
    intro w' h
    rw [h]
    exact .nothing
  refine watch_unseen_bind (housekeeping_unseen.onlyCalls_reopen trivial trivial fun _ => ⟨rfl, rfl⟩)
    fun file w₁ h₁ => ?_
  cases file with
  | error status => exact watch_pure.mpr (hnothing h₁)
  | ok file =>
      obtain ⟨handle, opened⟩ := file
      refine watch_unseen_bind (onlyCalls_perform.mpr ⟨rfl, rfl⟩) fun r w₂ h₂ => ?_
      cases r with
      | fail e =>
          refine watch_unseen_bind housekeeping_unseen.onlyCalls_reportError fun _ w₃ h₃ => watch_pure.mpr ?_
          exact hnothing (h₃.trans (h₂.trans h₁))
      | ok bytes e =>
          refine watch_unseen_bind (onlyCalls_perform.mpr ⟨rfl, rfl⟩) fun cache w₃ h₃ => ?_
          have hcache : w₃.cache = w.cache := h₃.trans (h₂.trans h₁)
          dsimp only
          split
          · refine watch_bind.mpr (watch_fillCache.mono fun tr early w₄ hfills => ?_)
            rw [hcache] at hfills
            cases early with
            | some status =>
                refine watch_pure.mpr ?_
                rw [List.append_nil]
                exact hfills
            | none =>
                refine watch_unseen_bind housekeeping_unseen.onlyCalls_closeOpened fun _ w₅ h₅ =>
                  watch_pure.mpr ?_
                rw [h₅, List.append_nil]
                exact hfills
          · refine watch_bind.mpr (watch_pure.mpr ?_)
            refine watch_unseen_bind housekeeping_unseen.onlyCalls_closeOpened fun _ w₄ h₄ =>
              watch_pure.mpr ?_
            exact hnothing (h₄.trans hcache)

/-- The two branches that answer from the cache differ in the count. -/
theorem cachedCount_eq_some {q : ReadCall} {cache : Cache} {count : BitVec 64} :
    cachedCount q.fileName q.bufferLength q.offset cache = some count ↔
      FromCache q cache ∧ count = q.count cache.bzvolDataLength := by
  unfold cachedCount
  rw [Option.ite_none_right_eq_some, Option.some_inj]
  exact and_congr_right fun _ => eq_comm

theorem cachedCount_eq_none {q : ReadCall} {cache : Cache} :
    cachedCount q.fileName q.bufferLength q.offset cache = none ↔ ¬ FromCache q cache :=
  ite_eq_right_iff.trans (forall_congr' fun _ => iff_of_false (Option.some_ne_none _) id)

/-- **A read** is answered from the cache, or may fill it. -/
theorem watch_read {q : ReadCall} :
    Watch (step env anyOutcome) Call.seen (q.callback env) w fun tr _ w' =>
      (FromCache q w.cache ∧ Copies q w.cache tr w'.cache) ∨
        (¬ FromCache q w.cache ∧ Fills w.cache tr w'.cache) := by
  unfold ReadCall.callback
  rw [mirrorReadFile_eq]
  refine watch_unseen_bind housekeeping_unseen.onlyCalls_filePathOf fun filePath w₁ h₁ => ?_
  rw [← h₁]
  refine (watch_call_of_not rfl).mpr fun cache w₂ hread => ?_
  obtain ⟨rfl, rfl⟩ := hread
  cases hcount : cachedCount q.fileName q.bufferLength q.offset w₂.cache with
  | some count =>
      obtain ⟨hfrom, rfl⟩ := cachedCount_eq_some.mp hcount
      refine (watch_call rfl).mpr fun bytes w₃ hcopy => watch_pure.mpr (.inl ⟨hfrom, ?_⟩)
      obtain ⟨⟨hlength, behind, hbytes⟩, rfl⟩ := hcopy
      exact .copy hlength hbytes
  | none =>
      have hnot := cachedCount_eq_none.mp hcount
      exact watch_readThrough.mono fun _ _ _ h => .inr ⟨hnot, h⟩

end

/-! ## One step -/

section

variable {env : Env} {s s' : Keeping} {a : Keeping.Action}

/-- Nothing was read: only a size without a lower half is no length. -/
theorem populated_unread {handle : HANDLE} {size : BitVec 64} {e : DWORD} {e' : Win32Error} :
    Populated [⟨.win32 (.getFileSizeEx handle), .ok size e⟩,
      ⟨.win32 (.readFile handle (size.setWidth 32) none), .fail e'⟩] ↔ size.setWidth 32 = (0 : DWORD) := by
  constructor
  · intro h
    cases h size (List.mem_singleton.mpr rfl) with
    | inl hzero => exact hzero
    | inr hmet =>
        obtain ⟨bytes, hbytes, -⟩ := hmet
        cases hbytes
  · intro hzero size' hsize
    obtain rfl := List.mem_singleton.mp hsize
    exact .inl hzero

theorem populated_read {handle : HANDLE} {size : BitVec 64} {bytes : List Byte} {e e' : DWORD} :
    Populated [⟨.win32 (.getFileSizeEx handle), .ok size e⟩,
      ⟨.win32 (.readFile handle (size.setWidth 32) none), .ok bytes e'⟩] ↔
      size.setWidth 32 = (0 : DWORD) ∨ bytes.length = size.toNat := by
  constructor
  · intro h
    refine (h size (List.mem_singleton.mpr rfl)).imp_right ?_
    rintro ⟨bytes', hbytes, hlength⟩
    rwa [List.mem_singleton.mp hbytes] at hlength
  · intro h size' hsize
    obtain rfl := List.mem_singleton.mp hsize
    exact h.imp_right fun hlength => ⟨bytes, List.mem_singleton.mpr rfl, hlength⟩

/-- What the second read leaves is sound exactly if the size was met. -/
theorem Fills.sound_iff (hs : s.Sound) {tr : Trace} {w' : World Unit}
    (h : Fills s.world.cache tr w'.cache) :
    Keeping.Sound ⟨w', readAfter s.read tr⟩ ↔ Populated tr := by
  unfold Keeping.Sound
  dsimp only
  generalize w'.cache = cache' at h ⊢
  cases h with
  | nothing => exact iff_of_true hs nofun
  | unsized => exact iff_of_true hs nofun
  | @unread handle size e e' memory hmemory =>
      have hread : readAfter s.read [⟨.win32 (.getFileSizeEx handle), .ok size e⟩,
          ⟨.win32 (.readFile handle (size.setWidth 32) none), .fail e'⟩] = none := rfl
      rw [hread, populated_unread]
      constructor
      · intro hsound
        by_contra hne
        obtain ⟨bytes, hbytes, -⟩ := hsound hne
        cases hbytes
      · exact fun hzero hne => absurd hzero hne
  | @read handle size e e' memory bytes hmemory hlength =>
      have hread : readAfter s.read [⟨.win32 (.getFileSizeEx handle), .ok size e⟩,
          ⟨.win32 (.readFile handle (size.setWidth 32) none), .ok bytes e'⟩] = some bytes := rfl
      have hlow : (size.setWidth 32 : DWORD).toNat ≤ size.toNat := by
        rw [BitVec.toNat_setWidth]
        exact Nat.mod_le ..
      rw [hread, populated_read]
      constructor
      · intro hsound
        by_cases hzero : size.setWidth 32 = (0 : DWORD)
        · exact .inl hzero
        · obtain ⟨_, hbytes, hdata, hlow'⟩ := hsound hzero
          obtain rfl := Option.some.inj hbytes
          have hrest : memory.drop bytes.length = [] := List.append_right_eq_self.mp hdata
          have hall := List.drop_eq_nil_iff.mp hrest
          exact .inr (by omega)
      · rintro (hzero | hsize) hne
        · exact absurd hzero hne
        · refine ⟨bytes, rfl, ?_, by dsimp only; omega⟩
          dsimp only
          rw [List.drop_of_length_le (by omega), List.append_nil]

/-- How many bytes are copied, wherever the request starts. -/
theorem toNat_count_wrap {q : ReadCall} {length : DWORD} :
    (q.count length).toNat =
      if length.toNat ≤ q.bufferLength.toNat
      then (length.toNat + (0x10000000000000000 - q.offset.toNat)) % 0x10000000000000000
      else q.bufferLength.toNat := by
  have hlength := length.isLt
  have hbuffer := q.bufferLength.isLt
  have hoffset := q.offset.isLt
  have hwhole : length ≤ q.bufferLength ↔ length.toNat ≤ q.bufferLength.toNat := BitVec.le_def
  unfold ReadCall.count
  simp only [hwhole]
  split
  · rw [BitVec.toNat_sub, BitVec.toNat_setWidth]
    omega
  · rw [BitVec.toNat_setWidth]
    omega

/-- Bytes are those of the memory if none of them lies behind it. -/
theorem served_copy {q : ReadCall} {r : ReadFileResult} {count : Nat} {bytes data behind : List Byte}
    (hread : s.read = some data) (hlength : bytes.length = count)
    (hcopied : bytes = ((data ++ behind).drop q.offset.toNat).take count) :
    Served s (.read q [⟨.copyCacheData q.offset count, bytes⟩] r) ↔
      count = 0 ∨ q.offset.toNat + count ≤ data.length := by
  have hcopies : copies [⟨.copyCacheData q.offset count, bytes⟩] = [(q.offset, count, bytes)] := rfl
  constructor
  · intro hserved
    have hmem : (q.offset, count, bytes) ∈ copies [⟨.copyCacheData q.offset count, bytes⟩] := by
      rw [hcopies]
      exact List.mem_singleton.mpr rfl
    obtain ⟨data', hdata', hbytes⟩ := hserved _ hmem
    obtain rfl := Option.some.inj (hread.symm.trans hdata')
    have hlength' := congrArg List.length hbytes
    simp only [List.length_take, List.length_drop] at hlength'
    omega
  · intro hinside copy hcopy
    rw [hcopies] at hcopy
    obtain rfl := List.mem_singleton.mp hcopy
    refine ⟨data, hread, ?_⟩
    cases hinside with
    | inl hzero =>
        rw [hzero, List.take_zero]
        exact List.eq_nil_of_length_eq_zero (hlength.trans hzero)
    | inr hend =>
        refine hcopied.trans ?_
        rw [List.drop_append_of_le_length (by omega), List.take_append_of_le_length]
        rw [List.length_drop]
        omega

/-- What is copied was read exactly if the copy ends where the memory does. -/
theorem Copies.served_iff (hs : s.Sound) {q : ReadCall} {tr : Trace} {cache' : Cache}
    (hfrom : FromCache q s.world.cache) (h : Copies q s.world.cache tr cache') (r : ReadFileResult) :
    Served s (.read q tr r) ↔ Answerable q s.world.cache := by
  obtain ⟨data, hread, hdata, hlength⟩ := hs hfrom.2.1
  have hpos : 0 < s.world.cache.bzvolDataLength.toNat :=
    Nat.pos_of_ne_zero fun hzero => hfrom.2.1 (BitVec.eq_of_toNat_eq hzero)
  have hwithin := hfrom.2.2
  have hoffset := q.offset.isLt
  have hbuffer : q.bufferLength = 0 ↔ q.bufferLength.toNat = 0 :=
    ⟨fun h => by rw [h]; rfl, fun h => BitVec.eq_of_toNat_eq h⟩
  have hcount : (q.count s.world.cache.bzvolDataLength).toNat = _ := toNat_count_wrap
  have hsmall := s.world.cache.bzvolDataLength.isLt
  rw [BitVec.toInt_eq_toNat_cond] at hwithin
  cases h with
  | @copy bytes behind hbytes hcopied =>
      have hserved : Served s (.read q [⟨.copyCacheData q.offset
          (q.count s.world.cache.bzvolDataLength).toNat, bytes⟩] r) ↔
          (q.count s.world.cache.bzvolDataLength).toNat = 0 ∨ q.offset.toNat +
            (q.count s.world.cache.bzvolDataLength).toNat ≤ s.world.cache.bzvolDataLength.toNat := by
        rw [← hlength]
        exact served_copy hread hbytes (hdata ▸ hcopied)
      unfold Answerable
      rw [hserved, forall_prop_of_true hfrom, hbuffer, BitVec.toInt_eq_toNat_cond]
      split at hcount
      · split at hwithin
        · omega
        · omega
      · split at hwithin
        · omega
        · omega

/-- An answer from the cache leaves everything as it was. -/
theorem Copies.leaves (hs : s.Sound) {q : ReadCall} {tr : Trace} {w' : World Unit}
    (h : Copies q s.world.cache tr w'.cache) :
    Keeping.Sound ⟨w', readAfter s.read tr⟩ ∧ Populated tr := by
  unfold Keeping.Sound
  dsimp only
  generalize w'.cache = cache' at h ⊢
  cases h with
  | copy => exact ⟨hs, nofun⟩

/-- A read that may fill the cache copies nothing out of it. -/
theorem Fills.served {cache cache' : Cache} {q : ReadCall} {tr : Trace} (h : Fills cache tr cache')
    (r : ReadFileResult) : Served s (.read q tr r) := by
  cases h with
  | nothing => exact nofun
  | unsized => exact nofun
  | unread => exact nofun
  | read => exact nofun

/-- **One step** from a sound state. -/
theorem step_sound_iff (hs : s.Sound) (h : s.Step env a s') :
    (s'.Sound ∧ Served s a) ↔ s.Careful a := by
  cases a with
  | reset =>
      obtain rfl := h
      exact iff_of_true ⟨fun hlength => absurd rfl hlength, trivial⟩ trivial
  | read q tr r =>
      obtain ⟨lastError, w', hrun, rfl⟩ := h
      have hread := watch_read tr r w' hrun
      show Keeping.Sound ⟨w', readAfter s.read tr⟩ ∧ Served s (.read q tr r) ↔
        Answerable q s.world.cache ∧ Populated tr
      rw [← readAfter_watched, ← served_watched, ← populated_watched]
      cases hread with
      | inl hcopied =>
          have hserved := hcopied.2.served_iff hs hcopied.1 r
          obtain ⟨hsound, hpopulated⟩ := hcopied.2.leaves hs
          constructor
          · exact fun h => ⟨hserved.mp h.2, hpopulated⟩
          · exact fun h => ⟨hsound, hserved.mpr h.1⟩
      | inr hfilled =>
          have hsound := hfilled.2.sound_iff hs
          have hserved := hfilled.2.served (s := s) (q := q) r
          constructor
          · exact fun h => ⟨fun hfrom => absurd hfrom hfilled.1, hsound.mp h.1⟩
          · exact fun h => ⟨hsound.mpr h.2, hserved⟩

end

/-! ## Histories from an empty cache -/

/-- Nothing is kept. -/
def Keeping.start (w : World Unit) : Keeping where
  world := { w with cache := {} }

/-- **The cache is sound after every step, and what is served was read**, exactly if every step was
careful. -/
theorem sound_along_iff {env : Env} {w : World Unit} {rest : List (Keeping.Action × Keeping)}
    (h : Path (Keeping.Step env) (.start w) rest) :
    Along (fun s a s' => s'.Sound ∧ Served s a) (.start w) rest ↔
      Along (fun s a _ => s.Careful a) (.start w) rest :=
  h.along_iff (fun _ _ _ hs hstep => step_sound_iff hs hstep) (fun _ _ _ _ _ hsound => hsound.1)
    fun hlength => absurd rfl hlength

/-- A read of the beginning of the file, with a handle on it. -/
def ReadCall.beginning : ReadCall where
  fileName := bzvolfile
  bufferLength := 8
  offset := 0
  info := { context := 8 }

theorem run_any {α : Type} {env : Env} {w w' : World Unit} {c : Win32Call} {f : Outcome c.Value → Op α}
    {tr : Trace} {x : α} (r : Outcome c.Value) (hallowed : c.Allowed env r) (hany : anyOutcome () c r ())
    (h : Run (step env anyOutcome) (f r) { w with lastError := r.lastError } tr x w') :
    Run (step env anyOutcome) (win32 c >>= f) w (⟨.win32 c, r⟩ :: tr) x w' :=
  .call ⟨hallowed, (), hany, rfl⟩ h

theorem run_unread {env : Env} {w : World Unit} {format : String} {args : DWORD → List PrintArg} :
    Run (step env anyOutcome)
      (reportError env format args 8 false >>= fun status => pure (some status)) w
      [⟨.getLastError, w.lastError⟩, ⟨.print format (args w.lastError), ()⟩]
      (some (env.ntStatusFromWin32 w.lastError)) w :=
  .call ⟨rfl, rfl⟩ (run_print.bind .done)

theorem run_stored {env : Env} {w : World Unit} {bytes : List Byte} :
    Run (step env anyOutcome)
      (Prog.perform (Call.storeCacheData bytes) >>= fun _ => pure (none : Option NTSTATUS)) w
      [⟨.storeCacheData bytes, ()⟩] none
      { w with cache := { w.cache with bzvolData := bytes ++ w.cache.bzvolData.drop bytes.length } } :=
  run_call.mpr ⟨(), _, [], rfl, rfl, .done⟩

/-- What a read delivered, if it did. -/
def delivered : Outcome (List Byte) → List (List Byte)
  | .ok bytes _ => [bytes]
  | .fail _ => []

/-- The filling of the cache from a file of one byte, whatever becomes of the read. -/
theorem exists_run_second {env : Env} {w : World Unit} (second : Outcome (List Byte))
    (hsecond : anyOutcome () (.readFile 8 1 none) second ()) :
    ∃ tr early w', Run (step env anyOutcome) (fillCache env 8 false 8 1) w tr early w' ∧
      w'.cache.bzvolDataLength = 1 ∧ sizes tr = [1] ∧
      contents tr = delivered second := by
  cases second with
  | ok bytes e =>
      refine ⟨_, _, _, run_any (.ok () 0) trivial trivial (run_any (.ok (1 : BitVec 64) 0) trivial trivial
        (.call (r := ()) ⟨[0], rfl, rfl⟩ (run_any (c := .readFile 8 1 none) (.ok bytes e) trivial hsecond
          run_stored))), ?_, ?_, ?_⟩
      · rfl
      · rfl
      · rfl
  | fail e =>
      refine ⟨_, _, _, run_any (.ok () 0) trivial trivial (run_any (.ok (1 : BitVec 64) 0) trivial trivial
        (.call (r := ()) ⟨[0], rfl, rfl⟩ (run_any (c := .readFile 8 1 none) (.fail e) trivial hsecond
          run_unread))), ?_, ?_, ?_⟩
      · rfl
      · rfl
      · rfl

/-- The first read of such a file. -/
theorem exists_run_beginning {w : World Unit} (hempty : w.cache.bzvolDataLength = 0)
    (second : Outcome (List Byte)) (hsecond : anyOutcome () (.readFile 8 1 none) second ()) :
    ∃ tr r w', Run (step (.plain false) anyOutcome) (ReadCall.beginning.callback (.plain false)) w tr r w' ∧
      w'.cache.bzvolDataLength = 1 ∧ sizes tr = [1] ∧
      contents tr = delivered second := by
  have hpath : getFilePath (Env.plain false).globals DOKAN_MAX_PATH bzvolfile =
      some (wide ['D', ':'] ++ bzvolfile) := by decide
  have hreopen : Run (step (.plain false) anyOutcome)
      (reopen (.plain false) (pure (wide ['D', ':'] ++ bzvolfile)) GENERIC_READ FILE_SHARE_READ (pure ())
        ReadCall.beginning.info) w [] (.ok (8, false)) w := Run.ite_neg (by decide) .done
  have hsecond : ∃ tr early w', Run (step (.plain false) anyOutcome) (fillCache (.plain false) 8 false 8 1)
      { w with lastError := 0 } tr early w' ∧ w'.cache.bzvolDataLength = 1 ∧ sizes tr = [1] ∧
      contents tr = delivered second :=
    exists_run_second second hsecond
  obtain ⟨tr, early, w', hfill, hcache, hsizes, hcontents⟩ := hsecond
  have hfirst : anyOutcome () (.readFile 8 8 (some 0)) (.ok [60] 0) () :=
    show 1 ≤ 8 from by decide
  have hrest : ∃ r, Run (step (.plain false) anyOutcome)
      (readThrough (.plain false) bzvolfile (wide ['D', ':'] ++ bzvolfile) 8 0 ReadCall.beginning.info) w
      (⟨.win32 (.readFile 8 8 (some 0)), .ok [60] 0⟩ :: ⟨.readCache, w.cache⟩ :: (tr ++ [])) r w' := by
    cases early with
    | some status =>
        exact ⟨_, run_bind.mpr ⟨[], _, w, _, rfl, hreopen, run_any (c := .readFile 8 8 (some 0)) _ trivial
          hfirst (.call ⟨rfl, rfl⟩ (Run.ite_pos ⟨rfl, hempty⟩ (hfill.bind .done)))⟩⟩
    | none =>
        exact ⟨_, run_bind.mpr ⟨[], _, w, _, rfl, hreopen, run_any (c := .readFile 8 8 (some 0)) _ trivial
          hfirst (.call ⟨rfl, rfl⟩ (Run.ite_pos ⟨rfl, hempty⟩ (hfill.bind .done)))⟩⟩
  obtain ⟨r, hthrough⟩ := hrest
  refine ⟨_, r, w', (run_filePathOf hpath).bind (.call ⟨rfl, rfl⟩
    (Run.ite_neg (fun h => h.2 hempty) hthrough)), hcache, ?_, ?_⟩
  · show sizes (tr ++ []) = [1]
    rw [List.append_nil, hsizes]
  · show contents (tr ++ []) = delivered second
    rw [List.append_nil, hcontents]

/-- Nothing is kept, and nothing was done. -/
def emptyCache : Keeping := .start (.start .none)

/-- The byte is read, and then thrown away. -/
theorem sound_along_read : ∃ (tr : Trace) (r : ReadFileResult) (s₁ s₂ : Keeping),
    Along (fun s a s' => s'.Sound ∧ Served s a) emptyCache
      [(.read .beginning tr r, s₁), (.reset, s₂)] ∧ s₁.world.cache.bzvolDataLength = 1 := by
  obtain ⟨tr, r, w', hrun, hlength, hsizes, hcontents⟩ :=
    exists_run_beginning (w := emptyCache.world) rfl (.ok [60] 0) (show 1 ≤ 1 from Nat.le_refl 1)
  have hread : emptyCache.Step (.plain false) (.read .beginning tr r)
      { world := w', read := readAfter emptyCache.read tr } := ⟨0, w', hrun, rfl⟩
  have hreset : Keeping.Step (.plain false) { world := w', read := readAfter emptyCache.read tr } .reset
      { world := { w' with cache := w'.cache.clear } } := rfl
  refine ⟨tr, r, _, _, (sound_along_iff (.cons hread (.cons hreset .nil))).mpr
    ⟨⟨?_, ?_⟩, trivial, trivial⟩, hlength⟩
  · exact fun hfrom => absurd rfl hfrom.2.1
  · intro size hsize
    rw [hsizes] at hsize
    obtain rfl := List.mem_singleton.mp hsize
    refine .inr ⟨[60], ?_, rfl⟩
    rw [hcontents]
    exact List.mem_singleton.mpr rfl

/-- The second read fails, and the length stays. -/
theorem not_sound_along :
    ¬ ∀ (env : Env) (w : World Unit) (rest : List (Keeping.Action × Keeping)),
      Path (Keeping.Step env) (.start w) rest →
      Along (fun s a s' => s'.Sound ∧ Served s a) (.start w) rest := by
  intro hclaim
  obtain ⟨tr, r, w', hrun, hlength, hsizes, hcontents⟩ :=
    exists_run_beginning (w := emptyCache.world) rfl (.fail ⟨1, by decide⟩) trivial
  have hread : emptyCache.Step (.plain false) (.read .beginning tr r)
      { world := w', read := readAfter emptyCache.read tr } := ⟨0, w', hrun, rfl⟩
  obtain ⟨⟨hsound, -⟩, -⟩ := hclaim (.plain false) (.start .none) _ (.cons hread .nil)
  have hkept : w'.cache.bzvolDataLength ≠ 0 := by
    rw [hlength]
    decide
  obtain ⟨bytes, hbytes, -⟩ := hsound hkept
  unfold readAfter at hbytes
  rw [hsizes, hcontents] at hbytes
  cases hbytes

end SeamlessSmb
