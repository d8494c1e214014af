/-
# `FileOps.CachedRead` — a read that is answered from the cache

Once `bzvolfile` is kept, `MirrorReadFile` copies what is asked for out of memory, as long as
the request starts within it.  If the buffer of the request could hold the whole file, the copy
ends where the file does; otherwise it fills the buffer, wherever it starts.

| | |
| :-- | :-- |
| `ReadCall.Cached` | the file is kept, and the request starts within it |
| `ReadCall.Delivers` | the answer is what `ReadFile` gives for a file with this content |
| `ReadCall.Inside` | no byte is copied from behind the memory, or to behind the buffer |

**Proved here:** an answer from the cache is that of the file, and stays inside, exactly if the
buffer could hold the whole file or the request ends within it (`cached_iff`).
-/
import SeamlessSmb.FileOps.KeptFile
import SeamlessSmb.FileOps.SingleWrite

namespace SeamlessSmb

open Calls

namespace ReadCall

/-- The callback. -/
def callback (env : Env) (q : ReadCall) : Op ReadFileResult :=
  mirrorReadFile env q.fileName q.bufferLength q.offset q.info

/-- The content of `bzvolfile` is kept, and the request starts within it. -/
structure Cached (q : ReadCall) (cache : Cache) (content : List Byte) : Prop where
  fileName : q.fileName = bzvolfile
  data : cache.bzvolData = content
  length : cache.bzvolDataLength.toNat = content.length
  nonempty : content ≠ []
  forward : 0 ≤ q.offset.toInt
  within : q.offset.toNat ≤ content.length

/-- The bytes from the offset on, as many as there are and fit, and their number. -/
structure Delivers (q : ReadCall) (content : List Byte) (r : ReadFileResult) : Prop where
  status : r.status = STATUS_SUCCESS
  buffer : r.buffer = (content.drop q.offset.toNat).take q.bufferLength.toNat
  readLength : r.readLength = some (BitVec.ofNat 32 r.buffer.length)

/-- A copy stays within what is kept, and within the buffer. -/
def Inside (q : ReadCall) (content : List Byte) : Event Call Answer → Prop
  | ⟨.copyCacheData offset count, _⟩ =>
      offset.toNat + count ≤ content.length ∧ count ≤ q.bufferLength.toNat
  | _ => True

/-- The buffer could hold all of it, or the request ends within it. -/
def Fits (q : ReadCall) (content : List Byte) : Prop :=
  content.length ≤ q.bufferLength.toNat ∨ q.offset.toNat + q.bufferLength.toNat ≤ content.length

instance (q : ReadCall) (content : List Byte) : Decidable (q.Fits content) :=
  inferInstanceAs (Decidable (_ ∨ _))

/-- How many bytes are copied. -/
def count (q : ReadCall) (length : DWORD) : BitVec 64 :=
  if length ≤ q.bufferLength then length.setWidth 64 - q.offset else q.bufferLength.setWidth 64

/-! ## The copy -/

section

variable {q : ReadCall} {cache : Cache} {content : List Byte}

theorem Cached.toNat_count (h : q.Cached cache content) :
    (q.count cache.bzvolDataLength).toNat =
      if content.length ≤ q.bufferLength.toNat then content.length - q.offset.toNat
      else q.bufferLength.toNat := by
  have hlength := h.length
  have hwithin := h.within
  have hwhole : cache.bzvolDataLength ≤ q.bufferLength ↔ content.length ≤ q.bufferLength.toNat := by
    rw [BitVec.le_def, hlength]
  unfold count
  simp only [hwhole]
  split
  · bv_omega
  · rw [BitVec.toNat_setWidth]
    omega

/-- The read is answered from the cache. -/
theorem Cached.cachedCount_eq (h : q.Cached cache content) :
    cachedCount q.fileName q.bufferLength q.offset cache = some (q.count cache.bzvolDataLength) := by
  have hlength := h.length
  have hpos := List.length_pos_iff.mpr h.nonempty
  have hkept : cache.bzvolDataLength ≠ 0 := by
    intro hzero
    rw [hzero] at hlength
    exact Nat.ne_of_gt hpos hlength.symm
  have hwithin : q.offset.toInt ≤ cache.bzvolDataLength.toNat := by
    rw [toInt_of_forward h.forward, hlength]
    exact_mod_cast h.within
  exact if_pos ⟨h.fileName, hkept, hwithin⟩

end

section

variable {O : Type} {env : Env} {os : O → (c : Win32Call) → Outcome c.Value → O → Prop}
  {q : ReadCall} {w : World O} {content : List Byte}

/-- A copy that fits is in the bytes of the file; one that does not has too many. -/
theorem Cached.delivers_iff (h : q.Cached w.cache content) {bytes behind : List Byte} {count : BitVec 64}
    (hcount : count = q.count w.cache.bzvolDataLength) (hlength : bytes.length = count.toNat)
    (hbytes : bytes = ((content ++ behind).drop q.offset.toNat).take count.toNat) :
    (q.Delivers content ⟨STATUS_SUCCESS, bytes, some (count.setWidth 32)⟩ ∧
      q.offset.toNat + count.toNat ≤ content.length ∧ count.toNat ≤ q.bufferLength.toNat) ↔
      q.Fits content := by
  have hwithin := h.within
  have htoNat := h.toNat_count
  rw [← hcount] at htoNat
  have hdrop := List.length_drop (i := q.offset.toNat) (l := content)
  constructor
  · intro hdelivers
    have hinside := hdelivers.2.1
    unfold Fits
    split at htoNat
    · next hwhole => exact .inl hwhole
    · exact .inr (by omega)
  · intro hfits
    have hinside : q.offset.toNat + count.toNat ≤ content.length := by
      unfold Fits at hfits
      split at htoNat
      · omega
      · omega
    refine ⟨⟨rfl, ?_, ?_⟩, hinside, ?_⟩
    · show bytes = _
      rw [hbytes, List.drop_append_of_le_length hwithin, List.take_append_of_le_length (by omega)]
      split at htoNat
      · rw [List.take_of_length_le (by omega), List.take_of_length_le (by omega)]
      · rw [htoNat]
    · show some (count.setWidth 32) = some (BitVec.ofNat 32 bytes.length)
      rw [hlength]
      rfl
    · split at htoNat
      · omega
      · omega

/-- **A read that is answered from the cache.** -/
theorem Cached.sat_read (h : q.Cached w.cache content) :
    Sat (step env os) (q.callback env) w fun tr r _ =>
      ((q.Delivers content r ∧ ∀ e ∈ tr, q.Inside content e) ↔ q.Fits content) := by
  unfold ReadCall.callback
  rw [mirrorReadFile_eq]
  refine sat_filePathOf_bind fun filePath _ => ?_
  refine sat_perform_bind.mpr fun cache w₁ hread => ?_
  obtain ⟨rfl, rfl⟩ := hread
  rw [h.cachedCount_eq]
  refine sat_perform_bind.mpr fun bytes w₂ hcopy => sat_pure.mpr ?_
  obtain ⟨⟨hlength, behind, hbytes⟩, rfl⟩ := hcopy
  rw [h.data] at hbytes
  refine Iff.trans ?_ (h.delivers_iff rfl hlength hbytes)
  constructor
  · intro ⟨hdelivers, hinside⟩
    exact ⟨hdelivers, hinside _ (List.mem_cons_of_mem _ (List.mem_singleton.mpr rfl))⟩
  · intro ⟨hdelivers, hinside⟩
    refine ⟨hdelivers, fun e he => ?_⟩
    cases he with
    | head => trivial
    | tail _ he =>
        obtain rfl := List.mem_singleton.mp he
        exact hinside

theorem Cached.exists_run (h : q.Cached w.cache content)
    (hpath : (getFilePath env.globals DOKAN_MAX_PATH q.fileName).isSome) :
    ∃ tr r w', Run (step env os) (q.callback env) w tr r w' := by
  obtain ⟨path, hpath⟩ := Option.isSome_iff_exists.mp hpath
  obtain ⟨bytes, w', hcopy⟩ : ∃ r w', step env os w
      (.copyCacheData q.offset (q.count w.cache.bzvolDataLength).toNat) r w' :=
    step_own_total w _ trivial fun _ => Call.noConfusion
  unfold ReadCall.callback
  rw [mirrorReadFile_eq]
  obtain ⟨tr, r, hanswer⟩ : ∃ tr r, Run (step env os)
      ((cachedCount q.fileName q.bufferLength q.offset w.cache).elim
        (readThrough env q.fileName path q.bufferLength q.offset q.info) (readCached q.offset)) w tr r w' := by
    rw [h.cachedCount_eq]
    exact ⟨_, _, .call hcopy .done⟩
  exact ⟨_, _, w', (run_filePathOf hpath).bind (.call ⟨rfl, rfl⟩ hanswer)⟩

end

/-! ## A read that goes to the file -/

section

variable {env : Env} {q : ReadCall} {w : World OpenFile} {handle : HANDLE} {opened : Bool}

/-- Where no call fails, the filling of the cache is no early exit. -/
theorem sat_smooth_fillCache {bufferLength readLength : DWORD} :
    Sat (step env smooth) (fillCache env handle opened bufferLength readLength) w
      fun _ early _ => early = none := by
  refine sat_succeeds_bind fun _ _ w₁ _ _ _ _ => ?_
  refine sat_succeeds_bind fun size _ w₂ _ _ _ _ => ?_
  refine sat_perform_bind.mpr fun _ w₃ _ => ?_
  refine sat_succeeds_bind fun bytes _ w₄ _ _ _ _ => ?_
  exact sat_perform_bind.mpr fun _ w₅ _ => sat_pure.mpr rfl

/-- **A read that goes to the file**, where no call fails. -/
theorem sat_smooth_readThrough {filePath : WString} :
    Sat (step env smooth) (readThrough env q.fileName filePath q.bufferLength q.offset q.info) w
      fun _ r _ => q.Delivers w.os.content r := by
  have hdelivers : q.Delivers w.os.content
      ⟨STATUS_SUCCESS, (w.os.content.drop q.offset.toNat).take q.bufferLength.toNat,
        some (BitVec.ofNat 32
          ((w.os.content.drop q.offset.toNat).take q.bufferLength.toNat).length)⟩ := ⟨rfl, rfl, rfl⟩
  have hreopen : Sat (step env smooth)
      (reopen env (pure filePath) GENERIC_READ FILE_SHARE_READ (pure ()) q.info) w _ :=
    sat_smooth_reopen trivial trivial
  refine sat_bind.mpr (hreopen.mono fun _ file w₁ hfile => ?_)
  obtain ⟨⟨handle, opened, rfl⟩, hcontent⟩ := hfile
  refine sat_succeeds_bind fun bytes e w₂ _ hbytes _ _ => ?_
  have hbytes : bytes = (w₁.os.content.drop q.offset.toNat).take q.bufferLength.toNat := hbytes
  rw [hbytes, hcontent]
  refine sat_perform_bind.mpr fun cache w₃ _ => ?_
  have hclosed : ∀ w', Sat (step env smooth) (closeOpened handle opened >>= fun _ =>
      pure ⟨STATUS_SUCCESS, (w.os.content.drop q.offset.toNat).take q.bufferLength.toNat,
        some (BitVec.ofNat 32
          ((w.os.content.drop q.offset.toNat).take q.bufferLength.toNat).length)⟩) w'
      fun _ r _ => q.Delivers w.os.content r :=
    fun w' => sat_smooth_bind keepsContent_closeOpened fun _ _ _ _ => sat_pure.mpr hdelivers
  dsimp only
  split
  · refine sat_bind.mpr (sat_smooth_fillCache.mono fun _ early w₄ hearly => ?_)
    rw [hearly]
    exact hclosed w₄
  · exact sat_bind.mpr (sat_pure.mpr (hclosed w₃))

/-- With nothing kept, that is every read. -/
theorem sat_smooth_read (hbare : w.cache.bzvolDataLength = 0) :
    Sat (step env smooth) (q.callback env) w fun _ r _ => q.Delivers w.os.content r := by
  refine sat_filePathOf_bind fun filePath _ => sat_perform_bind.mpr fun cache w₁ hread => ?_
  obtain ⟨rfl, rfl⟩ := hread
  dsimp only
  rw [if_neg fun hkept => hkept.2 hbare]
  exact sat_smooth_readThrough

end

end ReadCall

/-- **An answer from the cache** is what `ReadFile` gives, and stays inside, exactly if the buffer
could hold the whole file or the request ends within it. -/
theorem cached_iff {O : Type} (env : Env) (os : O → (c : Win32Call) → Outcome c.Value → O → Prop)
    (q : ReadCall) (w : World O) (content : List Byte) (h : q.Cached w.cache content) :
    ((getFilePath env.globals DOKAN_MAX_PATH q.fileName).isSome →
      ∃ tr r w', Run (step env os) (q.callback env) w tr r w') ∧
    (∀ tr r w', Run (step env os) (q.callback env) w tr r w' →
      ((q.Delivers content r ∧ ∀ e ∈ tr, q.Inside content e) ↔ q.Fits content)) ∧
    ∀ w₀ : World OpenFile, w₀.cache.bzvolDataLength = 0 → w₀.os.content = content →
      ∀ tr r w', Run (step env smooth) (q.callback env) w₀ tr r w' → q.Delivers content r := by
  refine ⟨h.exists_run, h.sat_read, fun w₀ hbare hcontent tr r w' hrun => ?_⟩
  rw [← hcontent]
  exact ReadCall.sat_smooth_read hbare tr r w' hrun

/-! ## Two reads of a file of two bytes -/

/-- Two bytes are kept. -/
def World.twoBytes : World Unit :=
  { World.start .none with cache := { bzvolData := [1, 2], bzvolDataLength := 2 } }

/-- One byte, from the offset on. -/
def ReadCall.one (offset : BitVec 64) : ReadCall where
  fileName := bzvolfile
  bufferLength := 1
  offset := offset

theorem ReadCall.cached_one {offset : BitVec 64} (hoffset : offset = 1 ∨ offset = 2) :
    (ReadCall.one offset).Cached World.twoBytes.cache [1, 2] := by
  cases hoffset with
  | inl h =>
      subst h
      constructor
      all_goals decide
  | inr h =>
      subst h
      constructor
      all_goals decide

/-- The second byte. -/
theorem delivers_second : ∃ tr r w',
    Run (step (.plain false) fun _ _ _ _ => True) ((ReadCall.one 1).callback (.plain false)) .twoBytes tr r w' ∧
      (ReadCall.one 1).Delivers [1, 2] r := by
  obtain ⟨hexists, hdelivers, -⟩ := cached_iff (.plain false) (fun _ _ _ _ => True) (.one 1) .twoBytes
    [1, 2] (ReadCall.cached_one (.inl rfl))
  obtain ⟨tr, r, w', hrun⟩ := hexists (by decide)
  exact ⟨tr, r, w', hrun, ((hdelivers tr r w' hrun).mpr (.inr (by decide))).1⟩

/-- From the end on, a byte that is not there. -/
theorem not_delivers :
    ¬ ∀ (env : Env) (os : Unit → (c : Win32Call) → Outcome c.Value → Unit → Prop) (q : ReadCall)
        (w : World Unit) (content : List Byte), q.Cached w.cache content →
      ∀ tr r w', Run (step env os) (q.callback env) w tr r w' →
        q.Delivers content r ∧ ∀ e ∈ tr, q.Inside content e := by
  intro hclaim
  have hcached : (ReadCall.one 2).Cached World.twoBytes.cache [1, 2] := ReadCall.cached_one (.inr rfl)
  have hexists : ∃ tr r w', Run (step (.plain false) fun _ _ _ _ => True)
      ((ReadCall.one 2).callback (.plain false)) .twoBytes tr r w' := hcached.exists_run (by decide)
  obtain ⟨tr, r, w', hrun⟩ := hexists
  have hdelivers := hclaim (.plain false) (fun _ _ _ _ => True) (.one 2) .twoBytes [1, 2] hcached tr r w' hrun
  have hfits := (hcached.sat_read tr r w' hrun).mp hdelivers
  exact absurd hfits (by decide)

end SeamlessSmb
