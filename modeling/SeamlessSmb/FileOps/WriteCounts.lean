/-
# `FileOps.WriteCounts` — when a handle is flushed

`MirrorWriteFile` counts the writes of a handle in `writeCounts[handle]` and flushes it when it
finds the count at five.  Testing the count and acting on the test are two steps, and another call
on the handle may come between.

| | |
| :-- | :-- |
| `WritePhase` | how far a call is with its write and its count |
| `Ledger` | the phases of the calls, those begun, and the writes since the last flush |
| `CountsBounded` | the count is at most five, the writes since the last flush six more than the calls in progress |
| `TestsStand` | a step does not turn whether the count is five, if another call has just tested that |

**Proved here:** any number of calls in any order keep the bounds as long as every step leaves the
tests standing (`countsBounded_of_testsStand`).  Two calls that both find the count at four step
over the five.
-/
import Mathlib.Data.Finset.Card
import SeamlessSmb.Lib.Phases
import SeamlessSmb.FileOps.SharedHandle

namespace SeamlessSmb

open Calls History

/-! ## The counter -/

/-- `writeCounts[handle]`; a missing entry is made with zero. -/
def World.count {O : Type} (w : World O) (handle : HANDLE) : BitVec 8 := (w.writeCounts handle).getD 0

/-- The call is on the counters. -/
def Call.onCounts : Call → Bool
  | .insertWriteCount _ | .eraseWriteCount _ | .writeCount _ | .setWriteCount _ _ | .incWriteCount _ =>
      true
  | _ => false

section

variable {O : Type} {env : Env} {os : O → (c : Win32Call) → Outcome c.Value → O → Prop} {w w' : World O}
  {handle : HANDLE}

/-- The other calls leave the counters alone. -/
theorem step_writeCounts {c : Call} {r : Answer c} (hc : c.onCounts = false) (h : step env os w c r w') :
    w'.writeCounts = w.writeCounts := by
  cases c with
  | win32 x =>
    obtain ⟨-, o, -, rfl⟩ := h
    rfl
  | print format args =>
    obtain ⟨e, -, rfl⟩ := h
    rfl
  | printSD sd num =>
    obtain ⟨-, e, -, rfl⟩ := h
    rfl
  | printOwner sd =>
    obtain ⟨e, rfl⟩ := h
    rfl
  | makeShared node =>
    obtain ⟨-, e, rfl⟩ := h
    rfl
  | getDescriptor p =>
    obtain ⟨-, e, rfl⟩ := h
    rfl
  | createDefaultSelfRelativeSD =>
    obtain ⟨-, e, rfl⟩ := h
    rfl
  | setDescriptor p sd =>
    obtain ⟨e, rfl⟩ := h
    rfl
  | allocCacheData size =>
    obtain ⟨memory, -, rfl⟩ := h
    rfl
  | invalidParameter => exact h.elim
  | getLastError | findFileNode _ | addFileNode _ | rename _ _ | deleteFileNode _
  | readCache | copyCacheData _ _ => rw [h.2]
  | setLastError _ | lockData _ | unlockData _ | storeCacheData _ | storeCacheInfo _
  | setNotAvailable => rw [h]
  | insertWriteCount _ | eraseWriteCount _ | writeCount _ | setWriteCount _ _ | incWriteCount _ =>
    cases hc

theorem step_count {c : Call} {r : Answer c} (hc : c.onCounts = false) (h : step env os w c r w') :
    w'.count handle = w.count handle := by
  rw [World.count, step_writeCounts hc h, World.count]

theorem step_writeCount {n : Answer (.writeCount handle)}
    (h : step env os w (.writeCount handle) n w') : n = w.count handle ∧ w'.count handle = w.count handle := by
  obtain ⟨rfl, rfl⟩ := h
  refine ⟨rfl, ?_⟩
  simp [World.count]

theorem step_setWriteCount {n : BitVec 8} {u : Answer (.setWriteCount handle n)}
    (h : step env os w (.setWriteCount handle n) u w') : w'.count handle = n := by
  rw [show w' = _ from h]
  simp [World.count]

theorem step_incWriteCount {u : Answer (.incWriteCount handle)}
    (h : step env os w (.incWriteCount handle) u w') : w'.count handle = w.count handle + 1 := by
  rw [show w' = _ from h]
  simp [World.count]

end

/-! ## The phases of a call -/

/-- How far a call is: it has not written yet, it has, it has tested the count, it has flushed the
handle, it has counted its write. -/
inductive WritePhase
  | before
  | written
  | tested (count : BitVec 8)
  | flushed
  | counted

/-- The call is neither on the counters nor a write or a flush. -/
def Call.aside : Call → Prop
  | .win32 (.writeFile _ _) | .win32 (.flushFileBuffers _) => False
  | c => c.onCounts = false

namespace WritePhase

/-- What a call of the API or on the counters makes of the phase. -/
def note (q : WritePhase) (e : Event Call Answer) : WritePhase :=
  match e.call, e.answer with
  | .win32 (.writeFile _ _), .ok _ _ => .written
  | .writeCount _, n => .tested n
  | .win32 (.flushFileBuffers _), _ => .flushed
  | .setWriteCount _ _, _ => .counted
  | .incWriteCount _, _ => .counted
  | _, _ => q

/-- What a call of `MirrorWriteFile` does in each phase. -/
inductive Allows (handle : HANDLE) : WritePhase → Call → Prop
  | before {c : Call} : c.aside → Allows handle .before c
  | write {data : List Byte} : Allows handle .before (.win32 (.writeFile handle data))
  | test : Allows handle .written (.writeCount handle)
  | flush : Allows handle (.tested 5) (.win32 (.flushFileBuffers handle))
  | store : Allows handle .flushed (.setWriteCount handle 0)
  | increment {n : BitVec 8} : n ≠ 5 → Allows handle (.tested n) (.incWriteCount handle)
  | counted {c : Call} : c.aside → Allows handle .counted c

/-- The call has written and not counted the write yet. -/
def owes : WritePhase → Bool
  | .written | .tested _ | .flushed => true
  | _ => false

/-- The call has tested the count and not acted on the test yet. -/
def acts : WritePhase → Bool
  | .tested _ | .flushed => true
  | _ => false

theorem note_aside {q : WritePhase} {e : Event Call Answer} (hc : e.call.aside) : q.note e = q := by
  obtain ⟨c, r⟩ := e
  cases c with
  | win32 x =>
    cases x with
    | writeFile _ _ | flushFileBuffers _ => exact hc.elim
    | _ => rfl
  | insertWriteCount _ | eraseWriteCount _ | writeCount _ | setWriteCount _ _ | incWriteCount _ => cases hc
  | _ => rfl

theorem onCounts_of_aside {c : Call} (hc : c.aside) : c.onCounts = false := by
  cases c with
  | insertWriteCount _ | eraseWriteCount _ | writeCount _ | setWriteCount _ _ | incWriteCount _ => cases hc
  | _ => rfl

theorem reportCalls_aside : ReportCalls Call.aside := ⟨rfl, fun _ _ => rfl, fun _ => rfl⟩

/-- The protocol of a write on the handle. -/
def Keeps {α : Type} (handle : HANDLE) (p : Op α) (q : WritePhase) (Q : WritePhase → Prop) : Prop :=
  Follows (Allows handle) note p q fun _ => Q

variable {handle : HANDLE} {α : Type}

theorem keeps_aside_before {β : Type} {p : Op α} {f : α → Op β} {Q : WritePhase → Prop}
    (hp : OnlyCalls Call.aside p) (hf : ∀ a, Keeps handle (f a) .before Q) :
    Keeps handle (p >>= f) .before Q :=
  follows_onlyCalls_bind hp (fun _ hc => ⟨.before hc, fun _ => note_aside hc⟩) hf

theorem keeps_aside_counted {β : Type} {p : Op α} {f : α → Op β} {Q : WritePhase → Prop}
    (hp : OnlyCalls Call.aside p) (hf : ∀ a, Keeps handle (f a) .counted Q) :
    Keeps handle (p >>= f) .counted Q :=
  follows_onlyCalls_bind hp (fun _ hc => ⟨.counted hc, fun _ => note_aside hc⟩) hf

theorem keeps_countWrite {Q : WritePhase → Prop} (hQ : Q .counted) :
    Keeps handle (countWrite handle) .written Q := by
  refine follows_call.mpr ⟨.test, ?_⟩
  intro (n : BitVec 8)
  show Keeps handle (if n = 5 then _ else _) (.tested n) Q
  by_cases hn : n = 5
  · subst hn
    rw [if_pos rfl]
    refine follows_call.mpr ⟨.flush, ?_⟩
    intro r
    exact ⟨.store, fun _ => hQ⟩
  · rw [if_neg hn]
    exact ⟨.increment hn, fun _ => hQ⟩

/-- Nothing is written, or what is written is counted. -/
def Ended (q : WritePhase) : Prop := q.owes = false

variable {env : Env} {q : WriteCall} {opened : Bool}

theorem keeps_reportError {format : String} {args : DWORD → List PrintArg}
    {f : NTSTATUS → WriteFileResult} :
    Keeps handle (reportError env format args handle opened >>= fun status => pure (f status)) .before
      Ended :=
  keeps_aside_before reportCalls_aside.onlyCalls_reportError fun _ => rfl

theorem keeps_writeAtPointer {count : DWORD} :
    Keeps handle (writeAtPointer env q.buffer count q.offset handle opened) .before Ended := by
  refine follows_call.mpr ⟨.write, ?_⟩
  intro r
  cases r with
  | fail e => exact keeps_reportError
  | ok n lastError =>
    refine follows_bind (keeps_countWrite ?_)
    refine keeps_aside_counted reportCalls_aside.onlyCalls_print ?_
    intro _
    exact keeps_aside_counted reportCalls_aside.onlyCalls_closeOpened fun _ => rfl

theorem keeps_writeAtEnd :
    Keeps handle (writeAtEnd env q.buffer q.numberOfBytesToWrite q.offset handle opened) .before Ended := by
  refine follows_call.mpr ⟨.before rfl, ?_⟩
  intro r
  cases r with
  | fail e => exact keeps_reportError
  | ok u lastError => exact keeps_writeAtPointer

theorem keeps_writeAt {info : DokanFileInfo} :
    Keeps handle (writeAt env q.buffer q.numberOfBytesToWrite q.offset info handle opened) .before
      Ended := by
  refine follows_call.mpr ⟨.before rfl, ?_⟩
  intro r
  cases r with
  | fail e => exact keeps_reportError
  | ok size lastError =>
    dsimp only
    split
    · exact keeps_reportError
    · split
      · exact keeps_aside_before reportCalls_aside.onlyCalls_closeOpened fun _ => rfl
      · refine follows_call.mpr ⟨.before rfl, ?_⟩
        intro r
        cases r with
        | fail e => exact keeps_reportError
        | ok u lastError => exact keeps_writeAtPointer

/-- **A write on an open handle** keeps to the protocol. -/
theorem keeps_write (hopen : handle ≠ 0 ∧ handle ≠ INVALID_HANDLE_VALUE) :
    Keeps handle (q.program env handle) .before Ended := by
  refine keeps_aside_before reportCalls_aside.onlyCalls_print ?_
  intro _
  unfold reopen
  rw [if_neg (not_or.mpr hopen)]
  cases hend : q.info.writeToEndOfFile with
  | true => exact keeps_writeAtEnd
  | false => exact keeps_writeAt

end WritePhase

/-! ## What is known of the calls -/

/-- The phases of the calls, those that have begun, and how many writes have succeeded since the
handle was flushed last. -/
structure Ledger (ι : Type) where
  phase : ι → WritePhase := fun _ => .before
  begun : Finset ι := ∅
  sinceFlush : Nat := 0

/-- The writes since the last flush, after one more call. -/
def writesSince (n : Nat) (e : Event Call Answer) : Nat :=
  match e.call, e.answer with
  | .win32 (.writeFile _ _), .ok _ _ => n + 1
  | .win32 (.flushFileBuffers _), _ => 0
  | _, _ => n

theorem writesSince_aside {n : Nat} {e : Event Call Answer} (hc : e.call.aside) : writesSince n e = n := by
  obtain ⟨c, r⟩ := e
  cases c with
  | win32 x =>
    cases x with
    | writeFile _ _ | flushFileBuffers _ => exact hc.elim
    | _ => rfl
  | _ => rfl

/-- What a call of the API or on the counters makes of the phase of its thread, the count and the
number of writes. -/
inductive CountMove : WritePhase → BitVec 8 → Nat → WritePhase → BitVec 8 → Nat → Prop
  | aside {q : WritePhase} {n : BitVec 8} {k : Nat} : q.owes = false → CountMove q n k q n k
  | write {n : BitVec 8} {k : Nat} : CountMove .before n k .written n (k + 1)
  | test {n : BitVec 8} {k : Nat} : CountMove .written n k (.tested n) n k
  | flush {n : BitVec 8} {k : Nat} : CountMove (.tested 5) n k .flushed n 0
  | store {n : BitVec 8} {k : Nat} : CountMove .flushed n k .counted 0 k
  | increment {m n : BitVec 8} {k : Nat} : m ≠ 5 → CountMove (.tested m) n k .counted (n + 1) k

namespace Ledger

variable {ι : Type}

/-- No call has begun. -/
def start : Ledger ι := {}

/-- The calls that have not counted their write yet. -/
def owing (g : Ledger ι) : Finset ι := g.begun.filter fun i => (g.phase i).owes = true

theorem mem_owing {g : Ledger ι} {i : ι} : i ∈ g.owing ↔ i ∈ g.begun ∧ (g.phase i).owes = true :=
  Finset.mem_filter

/-- The count and what is owed cover the writes since the last flush.  A call that has tested the
count is right about it, and one that has flushed will take five writes off. -/
structure Balanced (g : Ledger ι) (n : BitVec 8) : Prop where
  begun : ∀ i, (g.phase i).owes = true → i ∈ g.begun
  le : n.toNat ≤ 5
  tested : ∀ i m, g.phase i = .tested m → (m = 5 ↔ n = 5)
  flushed : ∀ i, g.phase i = .flushed → n = 5 ∧ g.sinceFlush + 1 ≤ g.owing.card
  covers : g.sinceFlush ≤ n.toNat + g.owing.card

theorem balanced_start {n : BitVec 8} (hn : n.toNat ≤ 5) : (start : Ledger ι).Balanced n where
  begun _ h := nomatch h
  le := hn
  tested _ _ h := nomatch h
  flushed _ h := nomatch h
  covers := Nat.zero_le _

variable [DecidableEq ι]

/-- After a call of the thread `i`. -/
def put (g : Ledger ι) (i : ι) (q : WritePhase) (sinceFlush : Nat) : Ledger ι where
  phase := Function.update g.phase i q
  begun := insert i g.begun
  sinceFlush := sinceFlush

def note (g : Ledger ι) (x : ι × Event Call Answer) : Ledger ι :=
  g.put x.1 ((g.phase x.1).note x.2) (writesSince g.sinceFlush x.2)

variable {g : Ledger ι} {i : ι} {q : WritePhase} {k : Nat}

theorem put_self : (g.put i q k).phase i = q := Function.update_self ..

theorem put_of_ne {j : ι} (h : j ≠ i) : (g.put i q k).phase j = g.phase j := Function.update_of_ne h ..

theorem card_erase_add {S : Finset ι} : (S.erase i).card + (if i ∈ S then 1 else 0) = S.card := by
  by_cases h : i ∈ S
  · rw [if_pos h, Finset.card_erase_add_one h]
  · rw [if_neg h, Finset.erase_eq_of_notMem h, Nat.add_zero]

/-- Only the thread that moves may come or go. -/
theorem card_owing_put (h : (g.phase i).owes = true → i ∈ g.begun) :
    (g.put i q k).owing.card + (if (g.phase i).owes = true then 1 else 0) =
      g.owing.card + (if q.owes = true then 1 else 0) := by
  have hrest : (g.put i q k).owing.erase i = g.owing.erase i := by
    ext j
    by_cases hji : j = i
    · simp [hji]
    · simp [mem_owing, put, hji]
  have hin : i ∈ (g.put i q k).owing ↔ q.owes = true := by simp [mem_owing, put]
  have hin' : i ∈ g.owing ↔ (g.phase i).owes = true := by
    rw [mem_owing]
    exact and_iff_right_of_imp h
  have hnew := card_erase_add (i := i) (S := (g.put i q k).owing)
  have hold := card_erase_add (i := i) (S := g.owing)
  simp only [hin, hin', hrest] at hnew hold
  omega

/-- What has to be seen to of the thread that moves, and of the number of writes. -/
theorem Balanced.put {n n' : BitVec 8} (hb : g.Balanced n)
    (hstand : ∀ j, j ≠ i → (g.phase j).acts = true → (n = 5 ↔ n' = 5)) (hle : n'.toNat ≤ 5)
    (htested : ∀ m, q = .tested m → (m = 5 ↔ n' = 5))
    (hflushed : q = .flushed → n' = 5 ∧ k + 1 ≤ (g.put i q k).owing.card)
    (hstill : n = 5 → n' = 5 → g.sinceFlush + 1 ≤ g.owing.card → k + 1 ≤ (g.put i q k).owing.card)
    (hcovers : k ≤ n'.toNat + (g.put i q k).owing.card) : (g.put i q k).Balanced n' := by
  refine ⟨?_, hle, ?_, ?_, hcovers⟩
  · intro j hj
    by_cases hji : j = i
    · exact hji ▸ Finset.mem_insert_self i g.begun
    · rw [put_of_ne hji] at hj
      exact Finset.mem_insert_of_mem (hb.begun j hj)
  · intro j m hm
    by_cases hji : j = i
    · subst hji
      exact htested m (put_self.symm.trans hm)
    · rw [put_of_ne hji] at hm
      exact (hb.tested j m hm).trans (hstand j hji (by rw [hm]; rfl))
  · intro j hj
    by_cases hji : j = i
    · subst hji
      exact hflushed (put_self.symm.trans hj)
    · rw [put_of_ne hji] at hj
      obtain ⟨hn, hsince⟩ := hb.flushed j hj
      have hn' : n' = 5 := (hstand j hji (by rw [hj]; rfl)).mp hn
      exact ⟨hn', hstill hn hn' hsince⟩

/-- **A step** that leaves the tests of the others standing keeps the balance. -/
theorem Balanced.move {n n' : BitVec 8} (hb : g.Balanced n)
    (hm : CountMove (g.phase i) n g.sinceFlush q n' k)
    (hstand : ∀ j, j ≠ i → (g.phase j).acts = true → (n = 5 ↔ n' = 5)) :
    (g.put i q k).Balanced n' := by
  have hcard := card_owing_put (q := q) (k := k) (hb.begun i)
  have hle := hb.le
  have hcovers := hb.covers
  generalize hp : g.phase i = p at hm hcard
  cases hm with
  | aside hq =>
    simp only [hq, Bool.false_eq_true, if_false, Nat.add_zero] at hcard
    refine hb.put hstand hle ?_ ?_ ?_ ?_
    · exact fun m hm => hb.tested i m (hp.trans hm)
    · intro hf
      rw [hcard]
      exact hb.flushed i (hp.trans hf)
    · intro _ _ hsince
      rwa [hcard]
    · rwa [hcard]
  | write =>
    simp only [WritePhase.owes, Bool.false_eq_true, if_false, if_true, Nat.add_zero] at hcard
    refine hb.put hstand hle (fun m hm => nomatch hm) (fun hf => nomatch hf) ?_ ?_
    · intro _ _ hsince
      omega
    · omega
  | test =>
    simp only [WritePhase.owes, if_true, Nat.add_right_cancel_iff] at hcard
    refine hb.put hstand hle ?_ (fun hf => nomatch hf) ?_ ?_
    · intro m hm
      cases hm
      exact Iff.rfl
    · intro _ _ hsince
      rwa [hcard]
    · rwa [hcard]
  | flush =>
    simp only [WritePhase.owes, if_true, Nat.add_right_cancel_iff] at hcard
    have hfive : n = 5 := (hb.tested i 5 hp).mp rfl
    have howes : 0 < g.owing.card := by
      refine Finset.card_pos.mpr ⟨i, mem_owing.mpr ⟨hb.begun i ?_, ?_⟩⟩
      · rw [hp]; rfl
      · rw [hp]; rfl
    refine hb.put hstand hle (fun m hm => nomatch hm) ?_ ?_ (Nat.zero_le _)
    · intro _
      exact ⟨hfive, by omega⟩
    · intro _ _ _
      omega
  | store =>
    simp only [WritePhase.owes, Bool.false_eq_true, if_false, if_true, Nat.add_zero] at hcard
    obtain ⟨hfive, hsince⟩ := hb.flushed i hp
    refine hb.put hstand (by decide) (fun m hm => nomatch hm) (fun hf => nomatch hf) ?_ ?_
    · intro _ hzero _
      cases hzero
    · omega
  | @increment m n k hm =>
    simp only [WritePhase.owes, Bool.false_eq_true, if_false, if_true, Nat.add_zero] at hcard
    have hfive : n ≠ 5 := fun h => hm ((hb.tested i m hp).mpr h)
    have hsucc : (n + 1).toNat = n.toNat + 1 ∧ (n + 1).toNat ≤ 5 := by bv_omega
    refine hb.put hstand hsucc.2 (fun m hm => nomatch hm) (fun hf => nomatch hf) ?_ ?_
    · intro h
      exact absurd h hfive
    · omega

end Ledger

/-! ## Calls on one handle -/

/-- Some calls of `MirrorWriteFile`, each on a thread, and what they share. -/
abbrev WritePool (ι O : Type) := Pool Call Answer DWORD (World O) fun _ : ι => WriteFileResult

/-- What the threads of a mount share; each has a last error of its own. -/
def threadMachine {O : Type} (env : Env) (os : O → (c : Win32Call) → Outcome c.Value → O → Prop) :
    Machine Call Answer DWORD (World O) where
  answers := step env os
  install error w := { w with lastError := error }
  save := World.lastError

/-- All the calls at their beginnings, on the one handle. -/
def writesAtOnce {ι O : Type} (env : Env) (handle : HANDLE) (writes : ι → WriteCall)
    (lastErrors : ι → DWORD) (w : World O) : WritePool ι O where
  threads i := (lastErrors i, (writes i).program env handle)
  shared := w

/-- The pool, and what is known of the calls. -/
abbrev CountState (ι O : Type) := WritePool ι O × Ledger ι

/-- The program has returned. -/
def Op.returned {α : Type} : Op α → Bool
  | .done _ => true
  | .call _ _ => false

section

variable {ι O : Type}

/-- The calls that have begun and not returned. -/
def inProgress (x : CountState ι O) : Finset ι := x.2.begun.filter fun i =>
  Op.returned (x.1.threads i).2 = false

/-- The count is at most five, and no more than six writes and the calls in progress have succeeded
since the handle was flushed. -/
def CountsBounded (handle : HANDLE) (x : CountState ι O) : Prop :=
  (x.1.shared.count handle).toNat ≤ 5 ∧ x.2.sinceFlush ≤ 6 + (inProgress x).card

/-- The call, on a handle whose count is `n`, changes whether that is five. -/
def Turns (n : BitVec 8) : Call → Prop
  | .setWriteCount _ m => ¬ (n = 5 ↔ m = 5)
  | .incWriteCount _ => n = 4 ∨ n = 5
  | _ => False

/-- The step does not change whether the count is five, if another call has tested that and not acted
on it yet. -/
def TestsStand (handle : HANDLE) (x : CountState ι O) (e : ι × Event Call Answer) : Prop :=
  ∀ j, j ≠ e.1 → (x.2.phase j).acts = true → ¬ Turns (x.1.shared.count handle) e.2.call

/-- Every call keeps to the protocol, and the ledger is balanced. -/
structure CountInv [DecidableEq ι] (handle : HANDLE) (x : CountState ι O) : Prop where
  keeps : ∀ i, WritePhase.Keeps handle (x.1.threads i).2 (x.2.phase i) WritePhase.Ended
  balanced : x.2.Balanced (x.1.shared.count handle)

variable [DecidableEq ι] {env : Env} {os : O → (c : Win32Call) → Outcome c.Value → O → Prop}
  {handle : HANDLE}

/-- What an allowed call does. -/
theorem countMove {q : WritePhase} {e : Event Call Answer} {w w' : World O} {k : Nat}
    (hallow : WritePhase.Allows handle q e.call) (h : step env os w e.call e.answer w') :
    CountMove q (w.count handle) k (q.note e) (w'.count handle) (writesSince k e) := by
  have haside : ∀ q : WritePhase, e.call.aside → q.owes = false →
      CountMove q (w.count handle) k (q.note e) (w'.count handle) (writesSince k e) := by
    intro q hc hq
    rw [WritePhase.note_aside hc, writesSince_aside hc, step_count (WritePhase.onCounts_of_aside hc) h]
    exact .aside hq
  obtain ⟨c, r⟩ := e
  cases hallow with
  | before hc => exact haside _ hc rfl
  | counted hc => exact haside _ hc rfl
  | write =>
    rw [step_count rfl h]
    cases r with
    | ok n lastError => exact .write
    | fail error => exact .aside rfl
  | test =>
    obtain ⟨hn, hcount⟩ := step_writeCount h
    cases (show r = w.count handle from hn)
    rw [hcount]
    exact .test
  | flush =>
    rw [step_count rfl h]
    exact .flush
  | store =>
    rw [step_setWriteCount h]
    exact .store
  | increment hn =>
    rw [step_incWriteCount h]
    exact .increment hn

theorem count_of_not_turns {q : WritePhase} {e : Event Call Answer} {w w' : World O}
    (hallow : WritePhase.Allows handle q e.call) (h : step env os w e.call e.answer w')
    (hstand : ¬ Turns (w.count handle) e.call) : w.count handle = 5 ↔ w'.count handle = 5 := by
  obtain ⟨c, r⟩ := e
  cases hallow with
  | before hc | counted hc => rw [step_count (WritePhase.onCounts_of_aside hc) h]
  | write | flush => rw [step_count rfl h]
  | test => rw [(step_writeCount h).2]
  | store =>
    rw [step_setWriteCount h]
    exact not_not.mp hstand
  | increment =>
    obtain ⟨hfour, hfive⟩ := not_or.mp hstand
    have hsucc : w.count handle + 1 = 5 → w.count handle = 4 := by bv_omega
    rw [step_incWriteCount h]
    exact iff_of_false hfive fun h => hfour (hsucc h)

/-- **A step** that leaves the tests of the others standing keeps what is known of the calls. -/
theorem CountInv.step {x y : CountState ι O} {e : ι × Event Call Answer} (hi : CountInv handle x)
    (hm : (threadMachine env os).Step x.1 e y.1) (hnote : y.2 = x.2.note e)
    (hstand : TestsStand handle x e) : CountInv handle y := by
  obtain ⟨i, e⟩ := e
  obtain ⟨l, k, -, hcall, -, -⟩ := hm.inv
  obtain ⟨hallow, hkeeps⟩ := hm.follows hi.keeps
  obtain ⟨pool, ledger⟩ := y
  cases (show ledger = x.2.note (i, e) from hnote)
  have hmove := countMove (w := { x.1.shared with lastError := l }) (k := x.2.sinceFlush) hallow hcall
  refine ⟨hkeeps, hi.balanced.move hmove ?_⟩
  intro j hji hacts
  exact count_of_not_turns (w := { x.1.shared with lastError := l }) hallow hcall (hstand j hji hacts)

/-- A call that owes its count is in progress. -/
theorem CountInv.bounded {x : CountState ι O} (hi : CountInv handle x) : CountsBounded handle x := by
  have hprogress : x.2.owing ⊆ inProgress x := by
    intro i howes
    obtain ⟨hbegun, howes⟩ := Ledger.mem_owing.mp howes
    refine Finset.mem_filter.mpr ⟨hbegun, ?_⟩
    have hkeeps := hi.keeps i
    cases hp : (x.1.threads i).2 with
    | done a =>
      rw [hp] at hkeeps
      exact absurd (howes.symm.trans hkeeps) Bool.noConfusion
    | call c k => rfl
  have hcard := Finset.card_le_card hprogress
  have hle := hi.balanced.le
  have hcovers := hi.balanced.covers
  exact ⟨hle, by omega⟩

/-- **Writes on one handle.**  However many there are, and in whatever order they take their steps:
as long as no step changes whether the count is five for another call that has tested it and not
acted on the test yet, the count stays within five, and the handle is flushed in time. -/
theorem countsBounded_of_testsStand (env : Env)
    (os : O → (c : Win32Call) → Outcome c.Value → O → Prop) (handle : OpenHandle)
    (writes : ι → WriteCall) (lastErrors : ι → DWORD) (w : World O)
    (hstart : (w.count handle.1).toNat ≤ 5) (run : List ((ι × Event Call Answer) × WritePool ι O))
    (hrun : Path (threadMachine env os).Step (writesAtOnce env handle.1 writes lastErrors w) run)
    (hstand : Along (fun x e _ => TestsStand handle.1 x e)
      (writesAtOnce env handle.1 writes lastErrors w, .start) (annotate Ledger.note .start run)) :
    Along (fun _ _ x => CountsBounded handle.1 x) (writesAtOnce env handle.1 writes lastErrors w, .start)
      (annotate Ledger.note .start run) := by
  have hinv : CountInv handle.1 (writesAtOnce env handle.1 writes lastErrors w, Ledger.start) :=
    ⟨fun i => WritePhase.keeps_write handle.2, Ledger.balanced_start hstart⟩
  refine Path.along ?_ hinv (hrun.annotate Ledger.start) hstand
  intro x e y hi hm hC
  have hi' := hi.step hm.1 hm.2 hC
  exact ⟨hi'.bounded, hi'⟩

end

/-! ## Two at a time -/

/-- Six writes of one byte, on a handle none has written to. -/
def sixWrites : WritePool (Fin 6) OpenFile :=
  writesAtOnce (.plain false) 8
    (fun _ => { fileName := wide ['\\', 'a'], buffer := [1], numberOfBytesToWrite := 1, offset := 0 })
    (fun _ => 0) { lastError := 0, nodes := .none, writeCounts := fun _ => none, os := {} }

def playSixWrites (schedule : List (Fin 6)) :
    List ((Fin 6 × Event Call Answer) × WritePool (Fin 6) OpenFile) :=
  Machine.play (threadMachine (.plain false) (fileOn 8)) reply sixWrites schedule

theorem path_sixWrites (schedule : List (Fin 6)) :
    Path (threadMachine (.plain false) (fileOn 8)).Step sixWrites (playSixWrites schedule) :=
  Machine.path_play reply_answers

def Call.stores : Call → Bool
  | .setWriteCount _ _ => true
  | _ => false

/-- An increment of a small count. -/
theorem testsStand_of_small {ι O : Type} {handle : HANDLE} {x : CountState ι O}
    {e : ι × Event Call Answer}
    (h : (x.1.shared.count handle).toNat < 4 ∧ e.2.call.stores = false) : TestsStand handle x e := by
  intro _ _ _ hturns
  obtain ⟨hsmall, hstores⟩ := h
  cases hc : e.2.call with
  | setWriteCount _ _ =>
    rw [hc] at hstores
    cases hstores
  | incWriteCount _ =>
    rw [hc] at hturns
    obtain hfour | hfive := hturns
    · rw [hfour] at hsmall
      exact absurd hsmall (by decide)
    · rw [hfive] at hsmall
      exact absurd hsmall (by decide)
  | _ =>
    rw [hc] at hturns
    exact hturns

/-- Two writes that both find the count at zero. -/
theorem countsBounded_firstTwo :
    Along (fun _ _ x => CountsBounded 8 x) (sixWrites, .start)
      (annotate Ledger.note .start (playSixWrites (List.replicate 5 0 ++ List.replicate 5 1 ++ [0, 1]))) := by
  refine countsBounded_of_testsStand (.plain false) (fileOn 8) ⟨8, by decide⟩ _ (fun _ => 0)
    { lastError := 0, nodes := .none, writeCounts := fun _ => none, os := {} } (by decide) _
    (path_sixWrites _) ?_
  have hsmall : Along (fun x e _ => (x.1.shared.count 8).toNat < 4 ∧ e.2.call.stores = false)
      (sixWrites, Ledger.start) (annotate Ledger.note .start
        (playSixWrites (List.replicate 5 0 ++ List.replicate 5 1 ++ [0, 1]))) := by decide +kernel
  exact Along.mono hsmall fun _ _ _ h => testsStand_of_small h

/-- After four writes one at a time, two both find the count at four. -/
theorem not_countsBounded :
    ¬ ∀ (ι O : Type) [DecidableEq ι] (env : Env) (os : O → (c : Win32Call) → Outcome c.Value → O → Prop)
        (handle : OpenHandle) (writes : ι → WriteCall) (lastErrors : ι → DWORD) (w : World O),
      (w.count handle.1).toNat ≤ 5 → ∀ run : List ((ι × Event Call Answer) × WritePool ι O),
      Path (threadMachine env os).Step (writesAtOnce env handle.1 writes lastErrors w) run →
      Along (fun _ _ x => CountsBounded handle.1 x)
        (writesAtOnce env handle.1 writes lastErrors w, .start) (annotate Ledger.note .start run) := by
  intro hclaim
  have hbounded := hclaim (Fin 6) OpenFile (.plain false) (fileOn 8) ⟨8, by decide⟩ _ (fun _ => 0)
    { lastError := 0, nodes := .none, writeCounts := fun _ => none, os := {} } (by decide)
    (playSixWrites (List.replicate 7 0 ++ List.replicate 7 1 ++ List.replicate 7 2 ++
      List.replicate 7 3 ++ List.replicate 5 4 ++ List.replicate 5 5 ++ [4, 5])) (path_sixWrites _)
  have hstart : CountsBounded 8 (sixWrites, Ledger.start) := ⟨by decide, Nat.zero_le _⟩
  have hend : (final (sixWrites, Ledger.start) (annotate Ledger.note .start
      (playSixWrites (List.replicate 7 0 ++ List.replicate 7 1 ++ List.replicate 7 2 ++
        List.replicate 7 3 ++ List.replicate 5 4 ++ List.replicate 5 5 ++ [4, 5])))).1.shared.count 8 = 6 := by
    decide +kernel
  have hle := (hbounded.final hstart).1
  have hsix : (6 : BitVec 8).toNat ≤ 5 := hend ▸ hle
  exact absurd hsix (by decide)

end SeamlessSmb
